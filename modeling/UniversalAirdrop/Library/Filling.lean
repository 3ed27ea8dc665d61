/-
This file is a small library for buffers that are filled one after another by a
sequence of amounts. An amount that is more than a buffer still needs does not go
into the next one, so whoever fills a buffer as early as possible is never late
for those that follow.
-/

import Mathlib.Algebra.BigOperators.Intervals

namespace Filling

open Finset

/-- The amounts that come after the first of them. -/
def after (amounts : ℕ → ℕ) (used : ℕ) : ℕ → ℕ := fun index => amounts (used + index)

/-- The first amounts of a sequence can fill buffers of these sizes one after another. -/
def Fills : (ℕ → ℕ) → List ℕ → ℕ → Prop
  | _, [], _ => True
  | amounts, size :: sizes, count => ∃ used left, used + left = count ∧
      size ≤ ∑ index ∈ range used, amounts index ∧ Fills (after amounts used) sizes left

/-- So many amounts fill the buffers, and no fewer do. -/
structure Exact (amounts : ℕ → ℕ) (sizes : List ℕ) (count : ℕ) : Prop where
  fills : Fills amounts sizes count
  least : ∀ other, Fills amounts sizes other → count ≤ other

variable {amounts : ℕ → ℕ} {sizes more : List ℕ} {size count used left : ℕ}

@[simp] theorem after_zero (amounts : ℕ → ℕ) : after amounts 0 = amounts :=
  funext fun index => congrArg amounts (Nat.zero_add index)

@[simp] theorem after_after (amounts : ℕ → ℕ) (first second : ℕ) :
    after (after amounts first) second = after amounts (first + second) :=
  funext fun index => congrArg amounts (Nat.add_assoc first second index).symm

theorem sum_after (amounts : ℕ → ℕ) (used count : ℕ) :
    ∑ index ∈ range (used + count), amounts index =
      ∑ index ∈ range used, amounts index + ∑ index ∈ range count, after amounts used index :=
  sum_range_add amounts used count

theorem sum_mono (amounts : ℕ → ℕ) (fewer : used ≤ count) :
    ∑ index ∈ range used, amounts index ≤ ∑ index ∈ range count, amounts index := by
  obtain ⟨extra, rfl⟩ := Nat.exists_eq_add_of_le fewer
  rw [sum_after]
  exact Nat.le_add_right _ _

theorem exact_nil (amounts : ℕ → ℕ) : Exact amounts [] 0 := ⟨trivial, fun _ _ => Nat.zero_le _⟩

theorem Fills.mono (fills : Fills amounts sizes used) (fewer : used ≤ count) :
    Fills amounts sizes count := by
  induction sizes generalizing amounts used count with
  | nil => trivial
  | cons size sizes inductionHypothesis =>
    obtain ⟨spent, left, rfl, enough, rest⟩ := fills
    exact ⟨spent, count - spent, by omega, enough, inductionHypothesis rest (by omega)⟩

/-- Amounts that come before are no hindrance. -/
theorem Fills.of_after (fills : Fills (after amounts used) sizes left) :
    Fills amounts sizes (used + left) := by
  cases sizes with
  | nil => trivial
  | cons size sizes =>
    obtain ⟨spent, rest, rfl, enough, fills⟩ := fills
    rw [after_after] at fills
    refine ⟨used + spent, rest, Nat.add_assoc _ _ _, ?_, fills⟩
    rw [sum_after]
    exact enough.trans (Nat.le_add_left _ _)

theorem fills_append :
    Fills amounts (sizes ++ more) count ↔
      ∃ used left, used + left = count ∧ Fills amounts sizes used ∧
        Fills (after amounts used) more left := by
  induction sizes generalizing amounts count with
  | nil =>
    constructor
    · exact fun fills => ⟨0, count, Nat.zero_add _, trivial, by rwa [after_zero]⟩
    · rintro ⟨used, left, rfl, -, fills⟩
      exact fills.of_after
  | cons size sizes inductionHypothesis =>
    constructor
    · rintro ⟨spent, rest, rfl, enough, fills⟩
      obtain ⟨used, left, rfl, first, second⟩ := inductionHypothesis.mp fills
      rw [after_after] at second
      exact ⟨spent + used, left, Nat.add_assoc _ _ _, ⟨spent, used, rfl, enough, first⟩, second⟩
    · rintro ⟨-, left, rfl, ⟨spent, used, rfl, enough, first⟩, second⟩
      rw [← after_after] at second
      exact ⟨spent, used + left, (Nat.add_assoc _ _ _).symm, enough,
        inductionHypothesis.mpr ⟨used, left, rfl, first, second⟩⟩

/-- Some of the buffers are not filled, so all of them are not. -/
theorem not_fills_append (unfilled : ¬ Fills amounts sizes count) :
    ¬ Fills amounts (sizes ++ more) count := by
  intro fills
  obtain ⟨used, left, rfl, first, -⟩ := fills_append.mp fills
  exact unfilled (first.mono (Nat.le_add_right _ _))

namespace Exact

/-- Nobody is earlier at the buffers that follow. -/
theorem fills_append_iff (exactly : Exact amounts sizes used) :
    Fills amounts (sizes ++ more) (used + left) ↔ Fills (after amounts used) more left := by
  constructor
  · intro fills
    obtain ⟨other, rest, same, first, second⟩ := fills_append.mp fills
    obtain ⟨extra, rfl⟩ := Nat.exists_eq_add_of_le (exactly.least other first)
    rw [← after_after] at second
    obtain rfl : extra + rest = left := by omega
    exact second.of_after
  · exact fun fills => fills_append.mpr ⟨used, left, rfl, exactly.fills, fills⟩

theorem append (exactly : Exact amounts sizes used) (next : Exact (after amounts used) more left) :
    Exact amounts (sizes ++ more) (used + left) where
  fills := exactly.fills_append_iff.mpr next.fills
  least other fills := by
    obtain ⟨spent, rest, rfl, first, -⟩ := fills_append.mp fills
    obtain ⟨extra, rfl⟩ := Nat.exists_eq_add_of_le (exactly.least spent first)
    rw [Nat.add_assoc] at fills ⊢
    exact Nat.add_le_add_left (next.least _ (exactly.fills_append_iff.mp fills)) used

end Exact

theorem fills_singleton :
    Fills amounts [size] count ↔ size ≤ ∑ index ∈ range count, amounts index := by
  constructor
  · rintro ⟨used, left, rfl, enough, -⟩
    exact enough.trans (sum_mono amounts (Nat.le_add_right _ _))
  · exact fun enough => ⟨count, 0, rfl, enough, trivial⟩

/-- A buffer that was not filled before the last amount, and is filled by it. -/
theorem exact_singleton (unfilled : ∀ other < count, ∑ index ∈ range other, amounts index < size)
    (enough : size ≤ ∑ index ∈ range count, amounts index) : Exact amounts [size] count where
  fills := fills_singleton.mpr enough
  least other fills := by
    by_contra fewer
    exact absurd (fills_singleton.mp fills) (not_le.mpr (unfilled other (not_le.mp fewer)))

/-- Every buffer takes at least one amount, unless it has no room. -/
theorem length_le_of_fills (positive : ∀ size ∈ sizes, 0 < size)
    (fills : Fills amounts sizes count) : sizes.length ≤ count := by
  induction sizes generalizing amounts count with
  | nil => exact Nat.zero_le _
  | cons size sizes inductionHypothesis =>
    obtain ⟨used, left, rfl, enough, rest⟩ := fills
    rw [List.forall_mem_cons] at positive
    have shorter := inductionHypothesis positive.2 rest
    have spent : used ≠ 0 := by
      rintro rfl
      rw [sum_range_zero] at enough
      omega
    rw [List.length_cons]
    omega

end Filling
