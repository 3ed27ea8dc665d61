/-
This file is a small library for delimited text and for byte streams that arrive
in pieces.

A reliable stream delivers its items in order, but the reader does not choose
how many of them one read returns: a read of some capacity returns any non-empty
prefix of what is left, of at most that capacity, and reports the end only when
nothing is left. A channel carries the choice of every coming read, so a
statement about all channels over one stream is a statement about all the ways
that stream can be segmented.
-/

import Mathlib.Data.List.Basic
import Mathlib.Data.List.TakeWhile
import Mathlib.Data.Nat.Notation

namespace Streams

/-! ### Cutting at the first delimiter -/

section Delimited

variable {Item : Type} [DecidableEq Item] {delim : Item}

/-- The items before the first delimiter and the items after it, if there is one. -/
def cut (delim : Item) : List Item → Option (List Item × List Item)
  | [] => none
  | item :: rest =>
    if item = delim then some ([], rest)
    else (cut delim rest).map fun pieces => (item :: pieces.1, pieces.2)

theorem cut_eq_none_iff {items : List Item} : cut delim items = none ↔ delim ∉ items := by
  induction items with
  | nil => simp [cut]
  | cons item rest inductionHypothesis =>
    by_cases same : item = delim
    · simp [cut, same]
    · rw [cut, if_neg same, Option.map_eq_none_iff, inductionHypothesis, List.mem_cons, not_or]
      exact ⟨fun absent => ⟨Ne.symm same, absent⟩, And.right⟩

theorem cut_append_delim {before : List Item} (absent : delim ∉ before) (after : List Item) :
    cut delim (before ++ delim :: after) = some (before, after) := by
  induction before with
  | nil => simp [cut]
  | cons item rest inductionHypothesis =>
    rw [List.mem_cons, not_or] at absent
    rw [List.cons_append, cut, if_neg (Ne.symm absent.1), inductionHypothesis absent.2]
    rfl

theorem eq_of_cut_eq_some {items before after : List Item}
    (found : cut delim items = some (before, after)) :
    items = before ++ delim :: after ∧ delim ∉ before := by
  induction items generalizing before with
  | nil => cases found
  | cons item rest inductionHypothesis =>
    by_cases same : item = delim
    · rw [cut, if_pos same] at found
      cases found
      exact ⟨by rw [same]; rfl, List.not_mem_nil⟩
    · rw [cut, if_neg same, Option.map_eq_some_iff] at found
      obtain ⟨⟨first, second⟩, inner, joined⟩ := found
      cases joined
      obtain ⟨split, absent⟩ := inductionHypothesis inner
      refine ⟨by rw [split]; rfl, ?_⟩
      rw [List.mem_cons, not_or]
      exact ⟨Ne.symm same, absent⟩

theorem exists_cut {items : List Item} (member : delim ∈ items) :
    ∃ before after, cut delim items = some (before, after) := by
  cases found : cut delim items with
  | none => exact absurd member (cut_eq_none_iff.mp found)
  | some pieces => exact ⟨pieces.1, pieces.2, rfl⟩

/-- A delimiter that was found stays the first one when more items follow. -/
theorem cut_append_of_some {items before after : List Item}
    (found : cut delim items = some (before, after)) (more : List Item) :
    cut delim (items ++ more) = some (before, after ++ more) := by
  obtain ⟨rfl, absent⟩ := eq_of_cut_eq_some found
  rw [List.append_assoc, List.cons_append, cut_append_delim absent]

/-- Items without the delimiter only lengthen what stands before the first one. -/
theorem cut_append_of_notMem {items : List Item} (absent : delim ∉ items) (more : List Item) :
    cut delim (items ++ more) =
      (cut delim more).map fun pieces => (items ++ pieces.1, pieces.2) := by
  cases found : cut delim more with
  | none =>
    rw [cut_eq_none_iff] at found
    rw [Option.map_none, cut_eq_none_iff, List.mem_append, not_or]
    exact ⟨absent, found⟩
  | some pieces =>
    obtain ⟨before, after⟩ := pieces
    obtain ⟨split, missing⟩ := eq_of_cut_eq_some found
    rw [split, ← List.append_assoc, cut_append_delim, Option.map_some]
    rw [List.mem_append, not_or]
    exact ⟨absent, missing⟩

/-- The items around the first delimiter are determined. -/
theorem append_delim_inj {before before' after after' : List Item} (absent : delim ∉ before)
    (absent' : delim ∉ before') :
    before ++ delim :: after = before' ++ delim :: after' ↔ before = before' ∧ after = after' := by
  constructor
  · intro same
    have found := cut_append_delim absent after
    rw [same, cut_append_delim absent', Option.some.injEq, Prod.mk.injEq] at found
    exact ⟨found.1.symm, found.2.symm⟩
  · rintro ⟨rfl, rfl⟩
    rfl

/-! ### Reading delimited fields -/

/-- Read one field: the items up to the next delimiter, which is dropped, or all that is left.
Reading from the end of the text fails. -/
def getline (delim : Item) : List Item → Option (List Item × List Item)
  | [] => none
  | item :: rest => some ((cut delim (item :: rest)).getD (item :: rest, []))

theorem getline_of_ne_nil {text : List Item} (nonempty : text ≠ []) :
    getline delim text = some ((cut delim text).getD (text, [])) := by
  cases text with
  | nil => exact absurd rfl nonempty
  | cons item rest => rfl

/-- A field that the delimiter ends is read whole. -/
theorem getline_append_delim {field : List Item} (absent : delim ∉ field) (rest : List Item) :
    getline delim (field ++ delim :: rest) = some (field, rest) := by
  rw [getline_of_ne_nil (by simp), cut_append_delim absent, Option.getD_some]

/-- The last field is read up to the end of the text. -/
theorem getline_of_notMem {field : List Item} (absent : delim ∉ field) (nonempty : field ≠ []) :
    getline delim field = some (field, []) := by
  rw [getline_of_ne_nil nonempty, cut_eq_none_iff.mpr absent, Option.getD_none]

/-- A field without the delimiter is all of what stands before the first one. -/
theorem takeWhile_of_notMem {field : List Item} (absent : delim ∉ field) :
    field.takeWhile (· ≠ delim) = field :=
  List.takeWhile_eq_self_iff.mpr fun _ member =>
    decide_eq_true fun same => absent (same ▸ member)

theorem takeWhile_append_delim (field rest : List Item) :
    (field ++ delim :: rest).takeWhile (· ≠ delim) = field.takeWhile (· ≠ delim) := by
  induction field with
  | nil => exact List.takeWhile_cons_of_neg (by simp)
  | cons item more inductionHypothesis =>
    rw [List.cons_append, List.takeWhile_cons, List.takeWhile_cons, inductionHypothesis]

/-- A field is read up to the first delimiter. -/
theorem exists_getline {text : List Item} (nonempty : text ≠ []) :
    ∃ rest, getline delim text = some (text.takeWhile (· ≠ delim), rest) := by
  rw [getline_of_ne_nil nonempty]
  cases found : cut delim text with
  | none =>
    rw [takeWhile_of_notMem (cut_eq_none_iff.mp found)]
    exact ⟨[], rfl⟩
  | some pieces =>
    obtain ⟨before, after⟩ := pieces
    obtain ⟨rfl, absent⟩ := eq_of_cut_eq_some found
    rw [takeWhile_append_delim, takeWhile_of_notMem absent]
    exact ⟨after, rfl⟩

/-- A field that was read has no delimiter in it, and the text is the field, followed by the
delimiter and what is left unless the text ended with the field. -/
theorem eq_of_getline_eq_some {text field rest : List Item}
    (read : getline delim text = some (field, rest)) :
    delim ∉ field ∧ (text = field ++ delim :: rest ∨ text = field ∧ rest = []) := by
  cases text with
  | nil => cases read
  | cons item tail =>
    rw [getline, Option.some.injEq] at read
    cases found : cut delim (item :: tail) with
    | none =>
      rw [found, Option.getD_none] at read
      cases read
      exact ⟨cut_eq_none_iff.mp found, Or.inr ⟨rfl, rfl⟩⟩
    | some pieces =>
      rw [found, Option.getD_some] at read
      rw [read] at found
      obtain ⟨split, absent⟩ := eq_of_cut_eq_some found
      exact ⟨absent, Or.inl split⟩

/-- A field that was read before another one ends with the delimiter. -/
theorem eq_append_of_getline {text field rest : List Item} {next : List Item × List Item}
    (read : getline delim text = some (field, rest)) (more : getline delim rest = some next) :
    delim ∉ field ∧ text = field ++ delim :: rest := by
  obtain ⟨absent, split | ⟨-, rfl⟩⟩ := eq_of_getline_eq_some read
  · exact ⟨absent, split⟩
  · cases more

end Delimited

/-! ### Channels -/

/-- What a reader meets once every item was delivered: the peer has closed its side, the
connection has failed, or the peer stays silent and a read never returns. -/
inductive Ending
  | closed
  | failed
  | silent
  deriving DecidableEq, Repr

/-- What is left of a stream, how many items each coming read may return, and how the stream
ends. -/
structure Channel (Item : Type) where
  rest : List Item
  cuts : ℕ → ℕ
  ending : Ending

/-- What one read returns: some items, with the channel after them, or the stream's end. -/
inductive Received (Item : Type)
  | chunk (items : List Item) (after : Channel Item)
  | ended (ending : Ending)

namespace Channel

variable {Item : Type}

/-- How many items the next read returns when it asks for at most `capacity`: at least one. -/
def delivered (channel : Channel Item) (capacity : ℕ) : ℕ :=
  min (max 1 (channel.cuts 0)) (min capacity channel.rest.length)

/-- Read at most `capacity` items. -/
def recv (channel : Channel Item) (capacity : ℕ) : Received Item :=
  match channel.rest with
  | [] => .ended channel.ending
  | _ :: _ =>
    .chunk (channel.rest.take (channel.delivered capacity))
      { rest := channel.rest.drop (channel.delivered capacity)
        cuts := fun index => channel.cuts (index + 1)
        ending := channel.ending }

theorem recv_of_nil {channel : Channel Item} (finished : channel.rest = []) (capacity : ℕ) :
    channel.recv capacity = .ended channel.ending := by
  rw [recv, finished]

theorem recv_of_ne_nil {channel : Channel Item} (unfinished : channel.rest ≠ [])
    (capacity : ℕ) :
    channel.recv capacity =
      .chunk (channel.rest.take (channel.delivered capacity))
        { rest := channel.rest.drop (channel.delivered capacity)
          cuts := fun index => channel.cuts (index + 1)
          ending := channel.ending } := by
  unfold recv
  split
  case h_1 finished => exact absurd finished unfinished
  case h_2 => rfl

/-- A read reports the end only when nothing is left. -/
theorem rest_of_recv_ended {channel : Channel Item} {capacity : ℕ} {ending : Ending}
    (received : channel.recv capacity = .ended ending) :
    channel.rest = [] ∧ channel.ending = ending := by
  by_cases finished : channel.rest = []
  · rw [recv_of_nil finished, Received.ended.injEq] at received
    exact ⟨finished, received⟩
  · rw [recv_of_ne_nil finished] at received
    cases received

/-- What a read that returns items does: it takes a non-empty prefix of at most `capacity`
items off the stream. -/
theorem rest_of_recv_chunk {channel after : Channel Item} {capacity : ℕ} {items : List Item}
    (positive : 0 < capacity) (received : channel.recv capacity = .chunk items after) :
    channel.rest = items ++ after.rest ∧ items ≠ [] ∧ items.length ≤ capacity ∧
      after.ending = channel.ending := by
  by_cases finished : channel.rest = []
  · rw [recv_of_nil finished] at received
    cases received
  · rw [recv_of_ne_nil finished, Received.chunk.injEq] at received
    obtain ⟨rfl, rfl⟩ := received
    have length : 0 < channel.rest.length := List.length_pos_iff.mpr finished
    have some_delivered : 0 < channel.delivered capacity := by
      unfold delivered
      omega
    refine ⟨(List.take_append_drop _ _).symm, ?_, ?_, rfl⟩
    · rw [Ne, List.take_eq_nil_iff, not_or]
      exact ⟨by omega, finished⟩
    · rw [List.length_take]
      unfold delivered
      omega

theorem length_of_recv_chunk {channel after : Channel Item} {capacity : ℕ} {items : List Item}
    (positive : 0 < capacity) (received : channel.recv capacity = .chunk items after) :
    after.rest.length < channel.rest.length := by
  obtain ⟨split, nonempty, -, -⟩ := rest_of_recv_chunk positive received
  have length : 0 < items.length := List.length_pos_iff.mpr nonempty
  rw [split, List.length_append]
  omega

/-- Every non-empty prefix of at most `capacity` items is what some channel over the stream
returns, so quantifying over the cuts leaves no segmentation out. -/
theorem recv_append {items : List Item} (nonempty : items ≠ []) {capacity : ℕ}
    (fits : items.length ≤ capacity) (rest : List Item) (cuts : ℕ → ℕ) (ending : Ending)
    (asked : cuts 0 = items.length) :
    ({ rest := items ++ rest, cuts, ending } : Channel Item).recv capacity =
      .chunk items { rest, cuts := fun index => cuts (index + 1), ending } := by
  have length : 0 < items.length := List.length_pos_iff.mpr nonempty
  have exact : ({ rest := items ++ rest, cuts, ending } : Channel Item).delivered capacity =
      items.length := by
    simp only [delivered, asked, List.length_append]
    omega
  rw [recv_of_ne_nil (by simp [nonempty]), exact]
  simp

end Channel

end Streams
