/-
This file is a small library for decimal numerals in byte strings: how a stream
writes a natural number, and how the C library reads an integer back from the
front of a text.

Reading skips white space, takes an optional sign and then the longest run of
digits; it ignores what follows, and it fails only when there is no digit. What
is written reads back as the number that was written, and of the texts that are
read only the plain ones are what would be written.
-/

import Mathlib.Data.List.Basic
import Mathlib.Data.List.Induction
import Mathlib.Data.List.TakeWhile
import Mathlib.Data.Nat.Notation

namespace Numeral

/-! ### Digits and what they are worth -/

/-- White space as the C library's default locale has it. -/
def isSpace (byte : UInt8) : Bool := byte = 32 || (9 ≤ byte && byte ≤ 13)

def isDigit (byte : UInt8) : Bool := 48 ≤ byte && byte ≤ 57

theorem isDigit_iff {byte : UInt8} :
    isDigit byte = true ↔ 48 ≤ byte.toNat ∧ byte.toNat ≤ 57 := by
  simp [isDigit, UInt8.le_iff_toNat_le]

/-- The number a run of digits denotes. -/
def value (digits : List UInt8) : ℕ :=
  digits.foldl (fun sum digit => 10 * sum + (digit.toNat - 48)) 0

/-- The decimal numeral of a number, most significant digit first. -/
def decimal (number : ℕ) : List UInt8 := (Nat.toDigits 10 number).map Char.toUInt8

theorem decimal_ne_nil (number : ℕ) : decimal number ≠ [] := by
  rw [decimal, Ne, List.map_eq_nil_iff]
  exact Nat.toDigits_ne_nil

theorem toNat_toUInt8_of_isDigit {character : Char} (digit : character.isDigit = true) :
    character.toUInt8.toNat = character.toNat := by
  have bounds : 48 ≤ character.toNat ∧ character.toNat ≤ 57 := by
    simpa [Char.isDigit, UInt32.le_iff_toNat_le] using digit
  show character.toNat % 2 ^ 8 = character.toNat
  omega

theorem isDigit_of_mem_decimal {number : ℕ} {byte : UInt8} (member : byte ∈ decimal number) :
    isDigit byte = true := by
  rw [decimal, List.mem_map] at member
  obtain ⟨character, inDigits, rfl⟩ := member
  have digit := Nat.isDigit_of_mem_toDigits (by decide) (by decide) inDigits
  have same := toNat_toUInt8_of_isDigit digit
  have bounds : 48 ≤ character.toNat ∧ character.toNat ≤ 57 := by
    simpa [Char.isDigit, UInt32.le_iff_toNat_le] using digit
  rw [isDigit_iff, same]
  exact bounds

/-- A byte that is no digit stands in no numeral. -/
theorem notMem_decimal {byte : UInt8} (other : isDigit byte = false) (number : ℕ) :
    byte ∉ decimal number := by
  intro member
  rw [isDigit_of_mem_decimal member] at other
  cases other

theorem value_map_toUInt8 {characters : List Char}
    (digits : ∀ character ∈ characters, character.isDigit = true) :
    value (characters.map Char.toUInt8) = Nat.ofDigitChars 10 characters 0 := by
  rw [value, Nat.ofDigitChars_eq_foldl, List.foldl_map]
  refine List.foldl_ext _ _ _ fun sum character member => ?_
  rw [toNat_toUInt8_of_isDigit (digits character member)]
  rfl

/-- A numeral denotes the number it was written for. -/
@[simp] theorem value_decimal (number : ℕ) : value (decimal number) = number := by
  rw [decimal, value_map_toUInt8 fun character member =>
    Nat.isDigit_of_mem_toDigits (by decide) (by decide) member]
  exact Nat.ofDigitChars_ten_toDigits

/-! ### Reading an integer -/

/-- What the C library makes of the front of a text: a sign and a magnitude. -/
structure Literal where
  negative : Bool
  magnitude : ℕ
  deriving DecidableEq, Repr

/-- Read the digits after the sign. -/
def readDigits (negative : Bool) (text : List UInt8) : Option Literal :=
  if text.takeWhile isDigit = [] then none
  else some { negative, magnitude := value (text.takeWhile isDigit) }

/-- Read an integer from the front of a text: white space, an optional sign, and the longest
run of digits. -/
def read (text : List UInt8) : Option Literal :=
  match text.dropWhile isSpace with
  | [] => none
  | byte :: rest =>
    if byte = 45 then readDigits true rest
    else if byte = 43 then readDigits false rest
    else readDigits false (byte :: rest)

/-- A text that begins with a digit is read without white space and without a sign. -/
theorem read_of_isDigit {text : List UInt8} {byte : UInt8} {rest : List UInt8}
    (split : text = byte :: rest) (digit : isDigit byte = true) :
    read text = readDigits false text := by
  have bounds := isDigit_iff.mp digit
  have visible : isSpace byte = false := by
    simp only [isSpace, Bool.or_eq_false_iff, decide_eq_false_iff_not, Bool.and_eq_false_iff,
      UInt8.le_iff_toNat_le, ← UInt8.toNat_inj]
    simp
    omega
  have unsigned : byte ≠ 45 ∧ byte ≠ 43 := by
    simp only [Ne, ← UInt8.toNat_inj]
    simp
    omega
  rw [split, read, List.dropWhile_cons_of_neg (by simp [visible])]
  simp only [if_neg unsigned.1, if_neg unsigned.2]

/-- A numeral reads back as the number it was written for. -/
theorem read_decimal (number : ℕ) : read (decimal number) = some ⟨false, number⟩ := by
  obtain ⟨byte, rest, split⟩ := List.exists_cons_of_ne_nil (decimal_ne_nil number)
  have digits : (decimal number).takeWhile isDigit = decimal number :=
    List.takeWhile_eq_self_iff.mpr fun _ member => isDigit_of_mem_decimal member
  rw [read_of_isDigit split (isDigit_of_mem_decimal (split ▸ List.mem_cons_self)), readDigits,
    digits, if_neg (decimal_ne_nil number), value_decimal]

/-! ### Plain numerals -/

/-- A text of digits alone, without a zero before other digits. -/
def Plain (text : List UInt8) : Prop :=
  (∀ byte ∈ text, isDigit byte = true) ∧ (text.head? = some 48 → text.length = 1)

instance (text : List UInt8) : Decidable (Plain text) := inferInstanceAs (Decidable (_ ∧ _))

/-- A further digit is worth itself and makes the ones before it worth ten times as much. -/
theorem value_append_singleton (digits : List UInt8) (digit : UInt8) :
    value (digits ++ [digit]) = 10 * value digits + (digit.toNat - 48) := by
  rw [value, List.foldl_append]
  rfl

/-- Further digits make a number no smaller. -/
theorem value_le_value_append (digits more : List UInt8) :
    value digits ≤ value (digits ++ more) := by
  induction more using List.reverseRecOn with
  | nil => rw [List.append_nil]
  | append_singleton front last inductionHypothesis =>
    rw [← List.append_assoc, value_append_singleton]
    omega

theorem decimal_of_digit {digit : UInt8} (isDigit : isDigit digit = true) :
    decimal (digit.toNat - 48) = [digit] := by
  obtain ⟨low, high⟩ := isDigit_iff.mp isDigit
  have small : digit.toNat - 48 < 10 := by omega
  rw [decimal, Nat.toDigits_of_lt_base small, List.map_singleton]
  congr 1
  rw [← UInt8.toNat_inj]
  have written : ∀ number < 10, (Nat.digitChar number).toUInt8.toNat = number + 48 := by decide
  rw [written _ small]
  omega

/-- The numeral of a number of more than one digit ends with its last digit. -/
theorem decimal_append_digit {number : ℕ} (positive : 0 < number) {digit : UInt8}
    (digits : isDigit digit = true) :
    decimal (10 * number + (digit.toNat - 48)) = decimal number ++ [digit] := by
  obtain ⟨low, high⟩ := isDigit_iff.mp digits
  rw [← decimal_of_digit digits, decimal, decimal, decimal, ← List.map_append,
    Nat.toDigits_append_toDigits (by decide) positive (by omega)]

/-- What stands before further digits is plain and begins with no zero. -/
theorem Plain.of_append {digits more : List UInt8} (nonempty : digits ≠ []) (further : more ≠ [])
    (plain : Plain (digits ++ more)) : Plain digits ∧ digits.head? ≠ some 48 := by
  have noZero : digits.head? ≠ some 48 := by
    intro zero
    have alone := plain.2 (by rw [List.head?_append, zero]; rfl)
    have longer := List.length_pos_iff.mpr nonempty
    have longerMore := List.length_pos_iff.mpr further
    rw [List.length_append] at alone
    omega
  exact ⟨⟨fun byte member => plain.1 byte (List.mem_append_left _ member),
    fun zero => absurd zero noZero⟩, noZero⟩

/-- A plain numeral is the numeral of what it denotes, which is positive unless it begins with
a zero. -/
theorem decimal_value {digits : List UInt8} (nonempty : digits ≠ []) (plain : Plain digits) :
    decimal (value digits) = digits ∧ (digits.head? ≠ some 48 → 0 < value digits) := by
  induction digits using List.reverseRecOn with
  | nil => exact absurd rfl nonempty
  | append_singleton front last inductionHypothesis =>
    have digit := plain.1 last (List.mem_append_right _ List.mem_cons_self)
    rw [value_append_singleton]
    by_cases single : front = []
    · subst single
      constructor
      · show decimal (10 * 0 + _) = _
        rw [Nat.mul_zero, Nat.zero_add, decimal_of_digit digit]
        rfl
      · intro noZero
        have bounds := isDigit_iff.mp digit
        have nonzero : last.toNat ≠ (48 : UInt8).toNat := fun same =>
          noZero (by rw [UInt8.toNat_inj.mp same]; rfl)
        have zero : (48 : UInt8).toNat = 48 := rfl
        omega
    · obtain ⟨frontPlain, noZero⟩ := plain.of_append single (List.cons_ne_nil _ _)
      obtain ⟨written, positive⟩ := inductionHypothesis single frontPlain
      have frontPositive := positive noZero
      rw [decimal_append_digit frontPositive digit, written]
      exact ⟨rfl, fun _ => by omega⟩

/-- The numeral of a number is plain. -/
theorem plain_decimal (number : ℕ) : Plain (decimal number) := by
  refine ⟨fun byte member => isDigit_of_mem_decimal member, ?_⟩
  induction number using Nat.strong_induction_on with
  | _ number inductionHypothesis =>
    intro zero
    by_cases small : number < 10
    · rw [decimal, Nat.toDigits_of_lt_base small]
      rfl
    · have written : decimal number =
          decimal (number / 10) ++ [((number % 10).digitChar).toUInt8] := by
        rw [decimal, Nat.toDigits_of_base_le (by decide) (by omega), List.map_append]
        rfl
      -- A zero in front is all of the numeral of the front, which is not zero.
      obtain ⟨first, front, split⟩ := List.exists_cons_of_ne_nil (decimal_ne_nil (number / 10))
      rw [written, split, List.cons_append, List.head?_cons, Option.some.injEq] at zero
      have alone := inductionHypothesis (number / 10) (by omega) (by rw [split, zero]; rfl)
      rw [split, List.length_cons, Nat.add_eq_right] at alone
      have worth : value (decimal (number / 10)) = 0 := by
        rw [split, zero, List.eq_nil_of_length_eq_zero alone]
        rfl
      rw [value_decimal] at worth
      omega

/-- A text that is read as an integer is the numeral of it exactly when it is plain. -/
theorem eq_decimal_iff {text : List UInt8} {literal : Literal}
    (reads : read text = some literal) :
    literal.negative = false ∧ text = decimal literal.magnitude ↔ Plain text := by
  constructor
  · rintro ⟨-, written⟩
    rw [written]
    exact plain_decimal _
  · intro plain
    have nonempty : text ≠ [] := by
      rintro rfl
      cases reads
    rw [← (decimal_value nonempty plain).1, read_decimal, Option.some.injEq] at reads
    rw [← reads]
    exact ⟨rfl, (decimal_value nonempty plain).1.symm⟩

end Numeral
