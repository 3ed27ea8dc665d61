/-
This file is a small library for resources that are handed out and given back,
such as descriptors. A ledger is the log of both, in order, and what is held
after a ledger is what was handed out and not given back since.

The one who hands out never hands out what is held. If only what is held is given
back, then every handing out of a resource is followed by exactly one giving
back, except for what is held at the end.
-/

import Mathlib.Data.Finset.Insert
import Mathlib.Data.Finset.Erase
import Mathlib.Data.List.Induction
import Mathlib.Data.List.Nodup

namespace Ledger

/-! ### What holds of every item of a list -/

/-- Every item is as it should be after the items before it. -/
def Throughout {Item : Type} (fits : List Item → Item → Prop) (items : List Item) : Prop :=
  ∀ before item after, items = before ++ item :: after → fits before item

section Throughout

variable {Item : Type} {fits : List Item → Item → Prop} {items : List Item}

theorem throughout_nil (fits : List Item → Item → Prop) : Throughout fits [] := by
  intro before item after split
  cases before <;> cases split

theorem Throughout.of_append {more : List Item} (throughout : Throughout fits (items ++ more)) :
    Throughout fits items := by
  rintro before item after rfl
  exact throughout before item (after ++ more) (by rw [List.append_assoc, List.cons_append])

/-- One more item. -/
theorem throughout_append_singleton {item : Item} :
    Throughout fits (items ++ [item]) ↔ Throughout fits items ∧ fits items item := by
  constructor
  · intro throughout
    exact ⟨throughout.of_append, throughout items item [] rfl⟩
  · rintro ⟨throughout, last⟩ before other after split
    rcases List.eq_nil_or_concat after with rfl | ⟨front, final, rfl⟩
    · obtain ⟨rfl, same⟩ := List.append_inj' split rfl
      rw [← List.head_eq_of_cons_eq same]
      exact last
    · rw [List.concat_eq_append, ← List.cons_append, ← List.append_assoc] at split
      exact throughout before other front (List.append_inj' split rfl).1

end Throughout

/-! ### Ledgers -/

variable {Resource : Type} [DecidableEq Resource]

inductive Entry (Resource : Type)
  | acquired (resource : Resource)
  | released (resource : Resource)
  deriving DecidableEq, Repr

/-- What is held after an entry. -/
def Entry.apply (held : Finset Resource) : Entry Resource → Finset Resource
  | .acquired resource => insert resource held
  | .released resource => held.erase resource

/-- The resources that are held after a ledger. -/
def held (ledger : List (Entry Resource)) : Finset Resource := ledger.foldl Entry.apply ∅

@[simp] theorem held_nil : held ([] : List (Entry Resource)) = ∅ := rfl

@[simp] theorem held_append_singleton (ledger : List (Entry Resource)) (entry : Entry Resource) :
    held (ledger ++ [entry]) = entry.apply (held ledger) :=
  List.foldl_concat _ _ _ _

theorem notMem_held_released {ledger : List (Entry Resource)} {resource : Resource} :
    resource ∉ held (ledger ++ [.released resource]) := by
  rw [held_append_singleton]
  exact Finset.notMem_erase _ _

/-- Nothing that is held is handed out. -/
def Fresh : List (Entry Resource) → Prop :=
  Throughout fun before entry => ∀ resource, entry = .acquired resource → resource ∉ held before

/-- Only what is held is given back. -/
def Disciplined : List (Entry Resource) → Prop :=
  Throughout fun before entry => ∀ resource, entry = .released resource → resource ∈ held before

theorem fresh_nil : Fresh ([] : List (Entry Resource)) := throughout_nil _

theorem disciplined_nil : Disciplined ([] : List (Entry Resource)) := throughout_nil _

theorem fresh_append_acquired {ledger : List (Entry Resource)} {resource : Resource} :
    Fresh (ledger ++ [.acquired resource]) ↔ Fresh ledger ∧ resource ∉ held ledger := by
  rw [Fresh, throughout_append_singleton]
  simp

theorem fresh_append_released {ledger : List (Entry Resource)} {resource : Resource} :
    Fresh (ledger ++ [.released resource]) ↔ Fresh ledger := by
  rw [Fresh, throughout_append_singleton]
  simp

theorem disciplined_append_acquired {ledger : List (Entry Resource)} {resource : Resource} :
    Disciplined (ledger ++ [.acquired resource]) ↔ Disciplined ledger := by
  rw [Disciplined, throughout_append_singleton]
  simp

theorem disciplined_append_released {ledger : List (Entry Resource)} {resource : Resource} :
    Disciplined (ledger ++ [.released resource]) ↔
      Disciplined ledger ∧ resource ∈ held ledger := by
  rw [Disciplined, throughout_append_singleton]
  simp

/-- A resource was given back as often as it was handed out, except when it is held. -/
theorem count_acquired {ledger : List (Entry Resource)} (fresh : Fresh ledger)
    (disciplined : Disciplined ledger) (resource : Resource) :
    ledger.count (.acquired resource) =
      ledger.count (.released resource) + if resource ∈ held ledger then 1 else 0 := by
  induction ledger using List.reverseRecOn with
  | nil => rfl
  | append_singleton front last inductionHypothesis =>
    cases last with
    | acquired other =>
      obtain ⟨fresh, unheld⟩ := fresh_append_acquired.mp fresh
      have before := inductionHypothesis fresh (disciplined_append_acquired.mp disciplined)
      by_cases same : other = resource
      · subst same
        rw [if_neg unheld] at before
        simp [Entry.apply, before]
      · simp [Entry.apply, same, Ne.symm same, before]
    | released other =>
      obtain ⟨disciplined, held⟩ := disciplined_append_released.mp disciplined
      have before := inductionHypothesis (fresh_append_released.mp fresh) disciplined
      by_cases same : other = resource
      · subst same
        rw [if_pos held] at before
        simp [Entry.apply, before]
      · simp [Entry.apply, same, Ne.symm same, before]

/-! ### Ledgers and what they leave -/

/-- A ledger of fresh and disciplined entries leaves exactly some different resources held. -/
structure Accounts (ledger : List (Entry Resource)) (owned : List Resource) : Prop where
  fresh : Fresh ledger
  disciplined : Disciplined ledger
  members : ∀ resource, resource ∈ held ledger ↔ resource ∈ owned
  different : owned.Nodup

theorem accounts_nil : Accounts ([] : List (Entry Resource)) [] where
  fresh := fresh_nil
  disciplined := disciplined_nil
  members resource := by simp
  different := List.nodup_nil

namespace Accounts

variable {ledger : List (Entry Resource)} {owned : List Resource} {resource : Resource}

theorem perm (accounts : Accounts ledger owned) {other : List Resource} (same : owned.Perm other) :
    Accounts ledger other where
  fresh := accounts.fresh
  disciplined := accounts.disciplined
  members resource := (accounts.members resource).trans same.mem_iff
  different := same.nodup accounts.different

theorem acquire (accounts : Accounts ledger owned) (unheld : resource ∉ held ledger) :
    Accounts (ledger ++ [.acquired resource]) (resource :: owned) where
  fresh := fresh_append_acquired.mpr ⟨accounts.fresh, unheld⟩
  disciplined := disciplined_append_acquired.mpr accounts.disciplined
  members other := by
    rw [held_append_singleton, Entry.apply, Finset.mem_insert, accounts.members, List.mem_cons]
  different := List.nodup_cons.mpr
    ⟨fun member => unheld ((accounts.members resource).mpr member), accounts.different⟩

theorem release (accounts : Accounts ledger (resource :: owned)) :
    Accounts (ledger ++ [.released resource]) owned where
  fresh := fresh_append_released.mpr accounts.fresh
  disciplined := disciplined_append_released.mpr
    ⟨accounts.disciplined, (accounts.members resource).mpr List.mem_cons_self⟩
  members other := by
    obtain ⟨absent, -⟩ := List.nodup_cons.mp accounts.different
    rw [held_append_singleton, Entry.apply, Finset.mem_erase, accounts.members, List.mem_cons]
    constructor
    · rintro ⟨different, same | member⟩
      · exact absurd same different
      · exact member
    · exact fun member => ⟨fun same => absent (same ▸ member), Or.inr member⟩
  different := (List.nodup_cons.mp accounts.different).2

end Accounts

end Ledger
