/-
This file is a small library for authenticated encryption, seen from the outside:
sealing a plaintext under a key and an initialisation vector gives a ciphertext
of the plaintext's length and a tag of fixed length, and opening succeeds with a
plaintext exactly when the ciphertext and the tag are what sealing that plaintext
gives.

A sealed text is the ciphertext followed by the tag. Opening a text splits the
tag off its end, so a text opens to a plaintext exactly when it is that
plaintext's sealed text.
-/

import Mathlib.Data.List.Basic
import Mathlib.Data.Nat.Notation

/-- An authenticated encryption scheme over byte strings, with the laws its users rely on. -/
structure Aead (Key Iv Byte : Type) (tagLength : ℕ) where
  sealing : Key → Iv → List Byte → List Byte × List Byte
  opening : Key → Iv → List Byte → List Byte → Option (List Byte)
  length_ciphertext : ∀ key iv plaintext, (sealing key iv plaintext).1.length = plaintext.length
  length_tag : ∀ key iv plaintext, (sealing key iv plaintext).2.length = tagLength
  opening_eq_some_iff : ∀ key iv ciphertext tag plaintext,
    opening key iv ciphertext tag = some plaintext ↔ sealing key iv plaintext = (ciphertext, tag)

namespace Aead

variable {Key Iv Byte : Type} {tagLength : ℕ} (aead : Aead Key Iv Byte tagLength)

/-- The ciphertext of a plaintext with the tag appended. -/
def sealed (key : Key) (iv : Iv) (plaintext : List Byte) : List Byte :=
  (aead.sealing key iv plaintext).1 ++ (aead.sealing key iv plaintext).2

/-- Split the tag off the end of a text and open what is left. -/
def openSealed (key : Key) (iv : Iv) (text : List Byte) : Option (List Byte) :=
  if text.length < tagLength then none
  else aead.opening key iv (text.take (text.length - tagLength))
    (text.drop (text.length - tagLength))

@[simp] theorem length_sealed (key : Key) (iv : Iv) (plaintext : List Byte) :
    (aead.sealed key iv plaintext).length = plaintext.length + tagLength := by
  rw [sealed, List.length_append, aead.length_ciphertext, aead.length_tag]

/-- A text opens to a plaintext exactly when it is the sealed text of that plaintext. -/
theorem openSealed_eq_some_iff (key : Key) (iv : Iv) (text plaintext : List Byte) :
    aead.openSealed key iv text = some plaintext ↔ text = aead.sealed key iv plaintext := by
  constructor
  · intro opened
    by_cases short : text.length < tagLength
    · rw [openSealed, if_pos short] at opened
      cases opened
    · rw [openSealed, if_neg short, aead.opening_eq_some_iff] at opened
      rw [sealed, opened, List.take_append_drop]
  · rintro rfl
    have length := aead.length_sealed key iv plaintext
    have ciphertext : (aead.sealed key iv plaintext).length - tagLength =
        (aead.sealing key iv plaintext).1.length := by
      rw [length, aead.length_ciphertext, Nat.add_sub_cancel]
    rw [openSealed, if_neg (by omega), ciphertext, aead.opening_eq_some_iff, sealed,
      List.take_left, List.drop_left]

/-- What was sealed opens to the plaintext it was sealed from. -/
@[simp] theorem openSealed_sealed (key : Key) (iv : Iv) (plaintext : List Byte) :
    aead.openSealed key iv (aead.sealed key iv plaintext) = some plaintext :=
  (aead.openSealed_eq_some_iff key iv _ plaintext).mpr rfl

/-- The scheme that leaves the plaintext as it is and appends a keyed mark of it. It satisfies
the laws, which are therefore consistent for every choice of marks. -/
def ofMark [DecidableEq Byte] (mark : Key → Iv → List Byte → List Byte)
    (length_mark : ∀ key iv plaintext, (mark key iv plaintext).length = tagLength) :
    Aead Key Iv Byte tagLength where
  sealing key iv plaintext := (plaintext, mark key iv plaintext)
  opening key iv ciphertext tag := if tag = mark key iv ciphertext then some ciphertext else none
  length_ciphertext _ _ _ := rfl
  length_tag := length_mark
  opening_eq_some_iff key iv ciphertext tag plaintext := by
    constructor
    · intro opened
      split at opened
      case isTrue same =>
        cases opened
        rw [same]
      case isFalse => cases opened
    · intro same
      cases same
      exact if_pos rfl

end Aead
