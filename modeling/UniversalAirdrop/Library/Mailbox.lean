/-
This file is a small library for events that wait in a queue between the one that
produces them and the one that handles them. Whatever the order in which events
are produced and handled, the state is what the handler makes of the events that
have left the queue, and these are the first that were produced.
-/

import Mathlib.Data.List.Infix

namespace Mailbox

variable {Event State : Type} {handle : State → Event → State} {initial state : State}
  {events queued coming : List Event} {event : Event}

/-- Of some events the first have been handled, the next are queued, and the others are still to
come. -/
def Consumed (handle : State → Event → State) (initial : State) (events : List Event)
    (state : State) (queued coming : List Event) : Prop :=
  ∃ done, events = done ++ queued ++ coming ∧ state = done.foldl handle initial

namespace Consumed

theorem start (handle : State → Event → State) (initial : State) (events : List Event) :
    Consumed handle initial events initial [] events := ⟨[], rfl, rfl⟩

/-- All events are queued. -/
theorem queue (handle : State → Event → State) (initial : State) (events : List Event) :
    Consumed handle initial events initial events [] :=
  ⟨[], by rw [List.nil_append, List.append_nil], rfl⟩

/-- The next event comes. -/
theorem post (consumed : Consumed handle initial events state queued (event :: coming)) :
    Consumed handle initial events state (queued ++ [event]) coming := by
  obtain ⟨done, all, folded⟩ := consumed
  exact ⟨done, by rw [all, List.append_assoc, List.append_assoc, List.append_assoc]; rfl, folded⟩

/-- There are more events than was known. -/
theorem extend (consumed : Consumed handle initial events state queued []) (more : List Event) :
    Consumed handle initial (events ++ more) state (queued ++ more) [] := by
  obtain ⟨done, all, folded⟩ := consumed
  refine ⟨done, ?_, folded⟩
  rw [all, List.append_nil, List.append_nil, List.append_assoc]

/-- The first event of the queue is handled. -/
theorem deliver (consumed : Consumed handle initial events state (event :: queued) coming) :
    Consumed handle initial events (handle state event) queued coming := by
  obtain ⟨done, all, folded⟩ := consumed
  refine ⟨done ++ [event], ?_, ?_⟩
  · rw [all, List.append_assoc done [event], List.singleton_append]
  · rw [List.foldl_concat, ← folded]

theorem all (consumed : Consumed handle initial events state [] []) :
    state = events.foldl handle initial := by
  obtain ⟨done, all, folded⟩ := consumed
  rw [folded, all, List.append_nil, List.append_nil]

end Consumed

end Mailbox
