/-
This file is a small library for the threads of one process. Every thread has a
run of its own, the events it will perform and how it ends, and a scheduler picks
which thread performs its next event. A run that ends fatally takes the process
down, whatever the other threads were doing.

A statement about all reachable processes is a statement about all
interleavings. Which events a thread has performed is all that an interleaving
preserves, so what depends on one thread's events alone does not depend on the
interleaving.
-/

import Mathlib.Data.List.Infix
import Mathlib.Data.List.Induction
import Mathlib.Logic.Relation
import UniversalAirdrop.Library.Program

namespace Threads

open Imperative

variable {Thread Event Halt Value : Type} [DecidableEq Thread]

/-! ### Traces -/

/-- The events of one thread in a trace. -/
def ofThread (thread : Thread) (trace : List (Thread × Event)) : List Event :=
  trace.filterMap fun entry => if entry.1 = thread then some entry.2 else none

@[simp] theorem ofThread_nil (thread : Thread) :
    ofThread thread ([] : List (Thread × Event)) = [] := rfl

@[simp] theorem ofThread_append (thread : Thread) (first second : List (Thread × Event)) :
    ofThread thread (first ++ second) = ofThread thread first ++ ofThread thread second :=
  List.filterMap_append

@[simp] theorem ofThread_cons_self (thread : Thread) (event : Event)
    (trace : List (Thread × Event)) :
    ofThread thread ((thread, event) :: trace) = event :: ofThread thread trace := by
  simp [ofThread]

theorem ofThread_cons_of_ne {thread other : Thread} (different : other ≠ thread) (event : Event)
    (trace : List (Thread × Event)) :
    ofThread thread ((other, event) :: trace) = ofThread thread trace := by
  simp [ofThread, different]

theorem mem_ofThread {thread : Thread} {trace : List (Thread × Event)} {event : Event} :
    event ∈ ofThread thread trace ↔ (thread, event) ∈ trace := by
  rw [ofThread, List.mem_filterMap]
  constructor
  · rintro ⟨⟨other, performed⟩, member, same⟩
    split at same
    case isTrue here =>
      cases same
      cases here
      exact member
    case isFalse => cases same
  · intro member
    exact ⟨_, member, if_pos rfl⟩

/-- A thread's events, marked as its own. -/
def ownTrace (thread : Thread) (events : List Event) : List (Thread × Event) :=
  events.map fun event => (thread, event)

theorem ofThread_ownTrace (thread other : Thread) (events : List Event) :
    ofThread thread (ownTrace other events) = if other = thread then events else [] := by
  rw [ofThread, ownTrace, List.filterMap_map]
  by_cases same : other = thread
  · rw [if_pos same]
    exact (List.filterMap_congr fun _ _ => if_pos same).trans (List.filterMap_some)
  · rw [if_neg same, List.filterMap_eq_nil_iff]
    exact fun _ _ => if_neg same

/-- A process: what its threads have performed so far, and whether it is still alive. -/
structure Process (Thread Event : Type) where
  trace : List (Thread × Event)
  alive : Bool

/-- A process before its threads have performed anything. -/
def Process.start : Process Thread Event where
  trace := []
  alive := true

/-- What can happen next: a thread performs the next event of its run, or the end of a thread's
run takes the process down. -/
inductive Step (runs : Thread → Act Event Halt Value) (fatal : Halt → Bool) :
    Process Thread Event → Process Thread Event → Prop
  | perform {trace : List (Thread × Event)} (thread : Thread) {event : Event} {later : List Event}
      (next : (runs thread).events = ofThread thread trace ++ event :: later) :
      Step runs fatal ⟨trace, true⟩ ⟨trace ++ [(thread, event)], true⟩
  | die {trace : List (Thread × Event)} (thread : Thread) {reason : Halt}
      (ended : (runs thread).events = ofThread thread trace)
      (halted : (runs thread).result = .error reason) (isFatal : fatal reason = true) :
      Step runs fatal ⟨trace, true⟩ ⟨trace, false⟩

/-- What an interleaving of the runs can lead to. -/
def Reachable (runs : Thread → Act Event Halt Value) (fatal : Halt → Bool)
    (process : Process Thread Event) : Prop :=
  Relation.ReflTransGen (Step runs fatal) .start process

/-- Nothing can happen any more. -/
def Finished (runs : Thread → Act Event Halt Value) (fatal : Halt → Bool)
    (process : Process Thread Event) : Prop :=
  ∀ next, ¬ Step runs fatal process next

section Interleavings

variable {runs : Thread → Act Event Halt Value} {fatal : Halt → Bool}
  {process next : Process Thread Event}

/-- One step keeps every thread within its run. -/
theorem Step.within (stepped : Step runs fatal process next)
    (within : ∀ thread, ofThread thread process.trace <+: (runs thread).events) (thread : Thread) :
    ofThread thread next.trace <+: (runs thread).events := by
  cases stepped with
  | @perform trace performer event later ahead =>
    show ofThread thread (trace ++ [(performer, event)]) <+: _
    rw [ofThread_append]
    by_cases same : performer = thread
    · subst same
      rw [ofThread_cons_self, ahead]
      exact ⟨later, by simp⟩
    · rw [ofThread_cons_of_ne same, ofThread_nil, List.append_nil]
      exact within thread
  | die => exact within thread

/-- Every thread has performed a prefix of its run. -/
theorem Reachable.within (reachable : Reachable runs fatal process) (thread : Thread) :
    ofThread thread process.trace <+: (runs thread).events := by
  induction reachable generalizing thread with
  | refl => exact List.nil_prefix
  | tail _ stepped inductionHypothesis => exact stepped.within inductionHypothesis thread

/-- Every trace in which every thread performs a prefix of its run is an interleaving. -/
theorem reachable_of_within {trace : List (Thread × Event)}
    (within : ∀ thread, ofThread thread trace <+: (runs thread).events) :
    Reachable runs fatal ⟨trace, true⟩ := by
  induction trace using List.reverseRecOn with
  | nil => exact Relation.ReflTransGen.refl
  | append_singleton front last inductionHypothesis =>
    obtain ⟨thread, event⟩ := last
    have before : ∀ other, ofThread other front <+: (runs other).events := fun other =>
      (ofThread_append other front _ ▸ List.prefix_append _ _).trans (within other)
    obtain ⟨later, split⟩ := within thread
    rw [ofThread_append, ofThread_cons_self, ofThread_nil, List.append_assoc] at split
    exact (inductionHypothesis before).tail (Step.perform thread split.symm)

/-- A process is alive as long as no run ends fatally. -/
theorem Reachable.alive (reachable : Reachable runs fatal process)
    (harmless : ∀ thread reason, (runs thread).result = .error reason → fatal reason = false) :
    process.alive = true := by
  induction reachable with
  | refl => rfl
  | tail _ stepped =>
    cases stepped with
    | perform => rfl
    | die thread _ halted isFatal =>
      rw [harmless thread _ halted] at isFatal
      cases isFatal

/-- When nothing can happen any more and no run ends fatally, every thread has performed its
whole run. -/
theorem ofThread_of_finished (reachable : Reachable runs fatal process)
    (finished : Finished runs fatal process)
    (harmless : ∀ thread reason, (runs thread).result = .error reason → fatal reason = false)
    (thread : Thread) : ofThread thread process.trace = (runs thread).events := by
  have alive := reachable.alive harmless
  obtain ⟨later, split⟩ := reachable.within thread
  obtain ⟨trace, _⟩ := process
  subst alive
  cases later with
  | nil => rw [← split, List.append_nil]
  | cons event later => exact absurd (Step.perform thread split.symm) (finished _)

end Interleavings

/-! ### One run after another -/

/-- Whether a run ends fatally. -/
def endsFatally (fatal : Halt → Bool) (run : Act Event Halt Value) : Bool :=
  match run.result with
  | .ok _ => false
  | .error reason => fatal reason

/-- The trace when the threads of a list run one after another. A run that ends fatally is the
last one. -/
def serial (runs : Thread → Act Event Halt Value) (fatal : Halt → Bool) :
    List Thread → List (Thread × Event)
  | [] => []
  | thread :: rest =>
    ownTrace thread (runs thread).events ++
      if endsFatally fatal (runs thread) then [] else serial runs fatal rest

/-- When no run ends fatally, every thread of the list has performed its whole run. -/
theorem ofThread_serial {runs : Thread → Act Event Halt Value} {fatal : Halt → Bool}
    (harmless : ∀ thread reason, (runs thread).result = .error reason → fatal reason = false)
    {order : List Thread} (once : order.Nodup) (thread : Thread) :
    ofThread thread (serial runs fatal order) =
      if thread ∈ order then (runs thread).events else [] := by
  induction order with
  | nil => rfl
  | cons first rest inductionHypothesis =>
    obtain ⟨absent, onceRest⟩ := List.nodup_cons.mp once
    have survives : endsFatally fatal (runs first) = false := by
      unfold endsFatally
      cases result : (runs first).result with
      | ok value => rfl
      | error reason => exact harmless first reason result
    rw [serial, survives, if_neg Bool.false_ne_true, ofThread_append, ofThread_ownTrace,
      inductionHypothesis onceRest]
    by_cases same : first = thread
    · subst same
      rw [if_pos rfl, if_neg absent, if_pos List.mem_cons_self, List.append_nil]
    · rw [if_neg same, List.nil_append]
      simp [Ne.symm same]

section Views

variable {State View : Type} {apply : State → Event → State} {view : State → View}
  {act : View → Event → View} {mine : Event → Bool}

/-- A part of the state is what the events on it make of it: the others may come at any place
between them. -/
theorem view_foldl
    (own : ∀ state event, mine event = true → view (apply state event) = act (view state) event)
    (foreign : ∀ state event, mine event = false → view (apply state event) = view state)
    (events : List Event) (state : State) :
    view (events.foldl apply state) = (events.filter mine).foldl act (view state) := by
  induction events generalizing state with
  | nil => rfl
  | cons event rest inductionHypothesis =>
    rw [List.foldl_cons, inductionHypothesis, List.filter_cons]
    cases isMine : mine event with
    | true => rw [own state event isMine, if_pos rfl, List.foldl_cons]
    | false => rw [foreign state event isMine, if_neg Bool.false_ne_true]

/-- The events on a part of the state that one thread owns are among the thread's events. -/
theorem filter_map_snd {owner : Thread} {trace : List (Thread × Event)}
    (owned : ∀ thread event, (thread, event) ∈ trace → mine event = true → thread = owner) :
    (trace.map Prod.snd).filter mine = (ofThread owner trace).filter mine := by
  induction trace with
  | nil => rfl
  | cons entry rest inductionHypothesis =>
    obtain ⟨thread, event⟩ := entry
    have rested := inductionHypothesis fun other later member =>
      owned other later (List.mem_cons_of_mem _ member)
    rw [List.map_cons, List.filter_cons, rested]
    by_cases same : thread = owner
    · subst same
      rw [ofThread_cons_self, List.filter_cons]
    · rw [ofThread_cons_of_ne same]
      cases isMine : mine event with
      | true => exact absurd (owned thread event List.mem_cons_self isMine) same
      | false => rw [if_neg Bool.false_ne_true]

end Views

end Threads
