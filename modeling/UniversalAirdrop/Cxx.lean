/-
This file models what the program uses of the C++ language and its standard
library: byte strings, the exceptions that library calls throw and the other ways
a run can end, the numeric conversions of `<string>`, integer conversions, and
vectors.
-/

import Mathlib.Algebra.Group.Int.Defs
import Mathlib.Algebra.Group.Nat.Defs
import Mathlib.Data.Int.Notation
import UniversalAirdrop.Library.Numeral

namespace UniversalAirdrop

/-- A `std::string`, or a vector of `char` or `uint8_t`. -/
abbrev Bytes := List UInt8

/-- The bytes of an ASCII literal. -/
def ascii (text : String) : Bytes := text.toList.map Char.toUInt8

/-- What ends a call without a result: the exceptions of the library, and the access outside of
a vector, which the language leaves undefined. -/
inductive Fault
  | invalidArgument
  | outOfRange
  | lengthError
  | badAlloc
  | filesystemError
  | runtimeError
  | outOfBounds
  deriving DecidableEq, Repr

/-- Why a run ended before its end: an exception left the function, a call never returned, or a
signal killed the process. -/
inductive Halt
  | threw (fault : Fault)
  | blocked
  | killed
  deriving DecidableEq, Repr

section Sequences

variable {Error Value Next : Type}

@[simp] theorem ok_bind (value : Value) (next : Value → Except Error Next) :
    ((Except.ok value : Except Error Value) >>= next) = next value := rfl

@[simp] theorem error_bind (error : Error) (next : Value → Except Error Next) :
    ((Except.error error : Except Error Value) >>= next) = .error error := rfl

/-- A sequence of two steps returns when both do. -/
theorem bind_eq_ok {first : Except Error Value} {next : Value → Except Error Next}
    {result : Next} :
    (first >>= next) = .ok result ↔ ∃ value, first = .ok value ∧ next value = .ok result := by
  cases first with
  | error error => exact iff_of_false nofun nofun
  | ok value =>
    rw [ok_bind]
    constructor
    · exact fun returned => ⟨value, rfl, returned⟩
    · rintro ⟨_, same, returned⟩
      cases same
      exact returned

/-- A sequence of two steps fails where one of them does. -/
theorem bind_eq_error {first : Except Error Value} {next : Value → Except Error Next}
    {error : Error} :
    (first >>= next) = .error error ↔
      first = .error error ∨ ∃ value, first = .ok value ∧ next value = .error error := by
  cases first with
  | error other =>
    rw [error_bind, Except.error.injEq, Except.error.injEq]
    exact (or_iff_left nofun).symm
  | ok value =>
    rw [ok_bind]
    constructor
    · exact fun failed => Or.inr ⟨value, rfl, failed⟩
    · rintro (failed | ⟨_, same, failed⟩)
      · cases failed
      · cases same
        exact failed

end Sequences

/-- A call that may throw, among others that may also end the run otherwise. -/
def throwing {Value : Type} (outcome : Except Fault Value) : Except Halt Value :=
  outcome.mapError .threw

@[simp] theorem throwing_ok {Value : Type} (value : Value) :
    throwing (.ok value) = .ok value := rfl

@[simp] theorem throwing_error {Value : Type} (fault : Fault) :
    throwing (.error fault : Except Fault Value) = .error (.threw fault) := rfl

/-- The bytes a C function sees of a string passed with `c_str()`: those before the first NUL. -/
def cStr (text : Bytes) : Bytes := text.takeWhile (· ≠ 0)

theorem cStr_of_notMem {text : Bytes} (noNul : (0 : UInt8) ∉ text) : cStr text = text := by
  rw [cStr, List.takeWhile_eq_self_iff]
  intro byte member
  simpa using ne_of_mem_of_not_mem member noNul

/-! ### Numeric conversions -/

/-- `std::stoi`, with 32-bit `int`. -/
def stoi (text : Bytes) : Except Fault ℤ :=
  match Numeral.read text with
  | none => .error .invalidArgument
  | some literal =>
    let value : ℤ := if literal.negative then -literal.magnitude else literal.magnitude
    if -2 ^ 31 ≤ value ∧ value < 2 ^ 31 then .ok value else .error .outOfRange

/-- `std::stoull`, which negates a signed numeral modulo `2 ^ 64`. -/
def stoull (text : Bytes) : Except Fault UInt64 :=
  match Numeral.read text with
  | none => .error .invalidArgument
  | some literal =>
    if 2 ^ 64 ≤ literal.magnitude then .error .outOfRange
    else if literal.negative then .ok (-UInt64.ofNat literal.magnitude)
    else .ok (UInt64.ofNat literal.magnitude)

/-- A small number's numeral converts to the number. -/
theorem stoi_decimal {number : ℕ} (small : number < 2 ^ 31) :
    stoi (Numeral.decimal number) = .ok number := by
  rw [stoi, Numeral.read_decimal]
  simp only [Bool.false_eq_true, if_false]
  rw [if_pos]
  omega

/-- Every 64-bit number's numeral converts to the number. -/
theorem stoull_decimal (number : UInt64) :
    stoull (Numeral.decimal number.toNat) = .ok number := by
  have small : number.toNat < 2 ^ 64 := number.toNat_lt
  rw [stoull, Numeral.read_decimal]
  simp only [Bool.false_eq_true, if_false]
  rw [if_neg (by omega), UInt64.ofNat_toNat]

/-- A plain text that converts to an `int` is the numeral of it. -/
theorem eq_decimal_of_stoi {text : Bytes} {value : ℤ} (converts : stoi text = .ok value)
    (plain : Numeral.Plain text) : 0 ≤ value ∧ text = Numeral.decimal value.toNat := by
  unfold stoi at converts
  cases reads : Numeral.read text with
  | none =>
    rw [reads] at converts
    cases converts
  | some literal =>
    obtain ⟨unsigned, written⟩ := (Numeral.eq_decimal_iff reads).mpr plain
    rw [reads] at converts
    simp only [unsigned, Bool.false_eq_true, if_false] at converts
    split at converts
    case isTrue =>
      cases converts
      exact ⟨Int.natCast_nonneg _, written⟩
    case isFalse => cases converts

/-- A plain text that converts to a 64-bit number is the numeral of it. -/
theorem eq_decimal_of_stoull {text : Bytes} {value : UInt64} (converts : stoull text = .ok value)
    (plain : Numeral.Plain text) : text = Numeral.decimal value.toNat := by
  unfold stoull at converts
  cases reads : Numeral.read text with
  | none =>
    rw [reads] at converts
    cases converts
  | some literal =>
    obtain ⟨unsigned, written⟩ := (Numeral.eq_decimal_iff reads).mpr plain
    rw [reads] at converts
    simp only [unsigned, Bool.false_eq_true, if_false] at converts
    split at converts
    case isTrue => cases converts
    case isFalse small =>
      cases converts
      rw [UInt64.toNat_ofNat_of_lt' (Nat.lt_of_not_le small)]
      exact written

/-- A `size_t` passed where a 32-bit `int` is expected. -/
def toInt (size : ℕ) : ℤ := (size : ℤ).bmod (2 ^ 32)

theorem toInt_of_lt {size : ℕ} (small : size < 2 ^ 31) : toInt size = size := by
  unfold toInt
  rw [Int.bmod_eq_of_le] <;> omega

theorem toNat_toInt_le (size : ℕ) : (toInt size).toNat ≤ size := by
  unfold toInt
  rw [Int.bmod_def]
  split <;> omega

/-! ### Vectors -/

/-- The elements from `first` up to but not including `last`. -/
def slice (data : Bytes) (first last : ℕ) : Except Fault Bytes :=
  if first ≤ last ∧ last ≤ data.length then .ok ((data.drop first).take (last - first))
  else .error .outOfBounds

theorem slice_of_le {data : Bytes} {first last : ℕ} (ordered : first ≤ last)
    (inside : last ≤ data.length) :
    slice data first last = .ok ((data.drop first).take (last - first)) :=
  if_pos ⟨ordered, inside⟩

/-- The most elements a vector of bytes can have: `PTRDIFF_MAX`. -/
def vectorMaxSize : ℕ := 2 ^ 63 - 1

/-- `reserve` on an empty vector of bytes, where `allocates` says which allocations the host
grants. Reserving nothing allocates nothing. -/
def vectorReserve (allocates : ℕ → Bool) (count : ℕ) : Except Fault Unit :=
  if count = 0 then .ok ()
  else if vectorMaxSize < count then .error .lengthError
  else if allocates count then .ok ()
  else .error .badAlloc

/-- A vector holds fewer than `2 ^ 64` bytes. -/
theorem lt_of_vectorReserve {allocates : ℕ → Bool} {count : ℕ}
    (reserved : vectorReserve allocates count = .ok ()) : count < 2 ^ 64 := by
  unfold vectorReserve vectorMaxSize at reserved
  split at reserved
  case isTrue => omega
  case isFalse =>
    split at reserved
    case isTrue => cases reserved
    case isFalse => omega

/-! ### Calls that wait on a socket -/

/-- The socket of a call that waits for a peer: open, closed by another thread while the call
waits, or closed before the call was made. -/
inductive CalledOn
  | openSocket
  | closedSince
  | closedBefore
  deriving DecidableEq, Repr

/-- Another thread closes the socket. -/
def CalledOn.close : CalledOn → CalledOn
  | .openSocket => .closedSince
  | socket => socket

/-- Whether the call fails because the socket is closed. Some kernels wake a call that waits, and
others leave it waiting for the next peer. -/
def CalledOn.fails (closeWakes : Bool) : CalledOn → Bool
  | .openSocket => false
  | .closedSince => closeWakes
  | .closedBefore => true

end UniversalAirdrop
