/-
This file is a small library for tables that keep the first entry seen with each
key. An entry is appended when no entry of the table has its key and dropped
otherwise.

Feeding a sequence to an empty table leaves the entries of the sequence that are
the first with their key, in their order. The table therefore only ever grows at
its end, holds one entry for each key, and its keys are the keys of the sequence
whatever the order and the repetitions.
-/

import Mathlib.Data.List.Nodup

namespace FirstSeen

variable {Entry Key : Type} [DecidableEq Key] (key : Entry → Key)

/-- Append an entry unless the table has an entry with its key. -/
def insertNew (table : List Entry) (entry : Entry) : List Entry :=
  if table.any fun known => key known = key entry then table else table ++ [entry]

/-- The entries of a sequence that are the first with their key, in order. -/
def firstSeen : List Entry → List Entry
  | [] => []
  | entry :: rest => entry :: (firstSeen rest).filter fun later => key later ≠ key entry

theorem insertNew_of_mem {table : List Entry} {entry : Entry}
    (known : key entry ∈ table.map key) : insertNew key table entry = table := by
  rw [insertNew, if_pos]
  simpa using known

theorem insertNew_of_notMem {table : List Entry} {entry : Entry}
    (fresh : key entry ∉ table.map key) : insertNew key table entry = table ++ [entry] := by
  rw [insertNew, if_neg]
  simpa using fresh

/-- Filtering by the key commutes with keeping first entries: all entries of one key go or
stay together. -/
theorem firstSeen_filter (keep : Key → Bool) (entries : List Entry) :
    firstSeen key (entries.filter fun entry => keep (key entry)) =
      (firstSeen key entries).filter fun entry => keep (key entry) := by
  induction entries with
  | nil => rfl
  | cons entry rest inductionHypothesis =>
    by_cases kept : keep (key entry) = true
    · rw [List.filter_cons_of_pos (by simpa using kept), firstSeen, firstSeen,
        List.filter_cons_of_pos (by simpa using kept), inductionHypothesis, List.filter_filter,
        List.filter_filter]
      refine congrArg (List.cons entry) (List.filter_congr fun later _ => ?_)
      exact Bool.and_comm _ _
    · rw [List.filter_cons_of_neg (by simpa using kept), firstSeen,
        List.filter_cons_of_neg (by simpa using kept), inductionHypothesis, List.filter_filter]
      refine List.filter_congr fun later _ => ?_
      by_cases same : key later = key entry
      · simp [same, kept]
      · simp [same]

/-- Feeding a sequence to a table appends the first entries with the keys the table lacks. -/
theorem foldl_insertNew (table entries : List Entry) :
    entries.foldl (insertNew key) table =
      table ++ firstSeen key (entries.filter fun entry => key entry ∉ table.map key) := by
  induction entries generalizing table with
  | nil => simp [firstSeen]
  | cons entry rest inductionHypothesis =>
    rw [List.foldl_cons]
    by_cases known : key entry ∈ table.map key
    · rw [insertNew_of_mem key known, inductionHypothesis,
        List.filter_cons_of_neg (by simpa using known)]
    · rw [insertNew_of_notMem key known, inductionHypothesis,
        List.filter_cons_of_pos (by simpa using known), firstSeen, List.append_assoc,
        List.singleton_append, ← firstSeen_filter key fun other => decide (other ≠ key entry),
        List.filter_filter]
      refine congrArg (fun kept => table ++ entry :: firstSeen key kept)
        (List.filter_congr fun later _ => ?_)
      simp only [List.map_append, List.map_cons, List.map_nil, List.mem_append,
        List.mem_singleton, not_or, Bool.decide_and]
      exact Bool.and_comm _ _

/-- A table fed from the start holds the first entries of what it was fed. -/
theorem foldl_insertNew_nil (entries : List Entry) :
    entries.foldl (insertNew key) [] = firstSeen key entries := by
  simp [foldl_insertNew]

theorem firstSeen_append (entries more : List Entry) :
    firstSeen key (entries ++ more) = firstSeen key entries ++
      firstSeen key (more.filter fun entry => key entry ∉ (firstSeen key entries).map key) := by
  rw [← foldl_insertNew_nil, List.foldl_append, foldl_insertNew, foldl_insertNew_nil]

/-- A table only ever grows at its end. -/
theorem firstSeen_prefix_append (entries more : List Entry) :
    firstSeen key entries <+: firstSeen key (entries ++ more) := by
  rw [firstSeen_append]
  exact List.prefix_append _ _

/-- The keys of the table are the keys of the sequence. -/
theorem mem_map_firstSeen {wanted : Key} {entries : List Entry} :
    wanted ∈ (firstSeen key entries).map key ↔ wanted ∈ entries.map key := by
  induction entries with
  | nil => rfl
  | cons entry rest inductionHypothesis =>
    rw [firstSeen, List.map_cons, List.mem_cons, List.map_cons, List.mem_cons,
      ← inductionHypothesis]
    by_cases same : wanted = key entry
    · simp [same]
    · simp only [same, false_or, List.mem_map, List.mem_filter, decide_eq_true_eq]
      constructor
      · rintro ⟨later, ⟨member, -⟩, rfl⟩
        exact ⟨later, member, rfl⟩
      · rintro ⟨later, member, rfl⟩
        exact ⟨later, ⟨member, same⟩, rfl⟩

/-- The table has one entry for each key. -/
theorem nodup_map_firstSeen (entries : List Entry) :
    ((firstSeen key entries).map key).Nodup := by
  induction entries with
  | nil => exact List.nodup_nil
  | cons entry rest inductionHypothesis =>
    rw [firstSeen, List.map_cons, List.nodup_cons]
    constructor
    · rw [List.mem_map]
      rintro ⟨later, member, same⟩
      rw [List.mem_filter, decide_eq_true_eq] at member
      exact member.2 same
    · exact inductionHypothesis.sublist (List.Sublist.map key List.filter_sublist)

/-- An entry of the table is the first of the sequence with its key. -/
theorem find?_of_mem_firstSeen {entry : Entry} {entries : List Entry}
    (member : entry ∈ firstSeen key entries) :
    entries.find? (fun other => key other = key entry) = some entry := by
  induction entries with
  | nil => cases member
  | cons first rest inductionHypothesis =>
    rw [firstSeen, List.mem_cons, List.mem_filter] at member
    rcases member with rfl | ⟨later, differs⟩
    · exact List.find?_cons_of_pos (by simp)
    · have other : key entry ≠ key first := by simpa using differs
      rw [List.find?_cons_of_neg (by simpa using other.symm)]
      exact inductionHypothesis later

end FirstSeen
