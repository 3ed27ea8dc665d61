/-
This file is a small library for imperative programs: `while` loops whose passes
a measure bounds, and computations that log the system calls they make and may
stop before their end.

A loop is a step function. One pass either goes on in a new state or leaves the
loop with a result, and the measure decreases on every pass that goes on, so the
loop runs to its result without fuel. What holds of a whole run follows from what
one pass preserves.
-/

import Mathlib.Data.List.Basic
import Mathlib.Data.Nat.Notation

namespace Imperative

/-! ### Loops with a measure -/

/-- A `while` loop: one pass goes on in a new state or leaves with a result, and the measure
decreases on every pass that goes on. -/
structure Loop (State Result : Type) where
  step : State → State ⊕ Result
  measure : State → ℕ
  decreases : ∀ {state next : State}, step state = .inl next → measure next < measure state

namespace Loop

variable {State Result : Type} (loop : Loop State Result)

/-- The result a loop leaves with when it is entered in `state`. -/
def run (state : State) : Result :=
  match _stepped : loop.step state with
  | .inl continued => run continued
  | .inr result => result
termination_by loop.measure state
decreasing_by exact loop.decreases _stepped

/-- The states a loop entered in `start` passes through at the head of its passes. -/
inductive Reaches (start : State) : State → Prop
  | start : Reaches start start
  | pass {state next : State} (reached : Reaches start state)
      (stepped : loop.step state = .inl next) : Reaches start next

theorem run_of_continue {state next : State} (stepped : loop.step state = .inl next) :
    loop.run state = loop.run next := by
  rw [run]
  split
  case h_1 continued same =>
    rw [stepped] at same
    rw [Sum.inl.inj same]
  case h_2 result same =>
    rw [stepped] at same
    cases same

theorem run_of_leave {state : State} {result : Result} (stepped : loop.step state = .inr result) :
    loop.run state = result := by
  rw [run]
  split
  case h_1 continued same =>
    rw [stepped] at same
    cases same
  case h_2 left same =>
    rw [stepped] at same
    exact (Sum.inr.inj same).symm

/-- The invariant rule for the states a loop passes through: what holds on entry and what
every pass preserves holds at the head of every pass. -/
theorem Reaches.invariant {start : State} (holds : State → Prop) (entry : holds start)
    (preserved : ∀ state next, holds state → loop.step state = .inl next → holds next)
    {state : State} (reached : loop.Reaches start state) : holds state := by
  induction reached with
  | start => exact entry
  | pass _ stepped inductionHypothesis => exact preserved _ _ inductionHypothesis stepped

/-- Every loop leaves, from a state it passes through. -/
theorem exists_leave (start : State) :
    ∃ last, loop.Reaches start last ∧ loop.step last = .inr (loop.run start) := by
  suffices claim : ∀ state, loop.Reaches start state →
      ∃ last, loop.Reaches start last ∧ loop.step last = .inr (loop.run state) from
    claim start .start
  intro state
  induction passes : loop.measure state using Nat.strongRecOn generalizing state with
  | ind bound inductionHypothesis =>
    intro reached
    cases stepped : loop.step state with
    | inl next =>
      have smaller : loop.measure next < bound := passes ▸ loop.decreases stepped
      rw [loop.run_of_continue stepped]
      exact inductionHypothesis _ smaller next rfl (reached.pass stepped)
    | inr result => exact ⟨state, reached, by rw [stepped, loop.run_of_leave stepped]⟩

/-- The rule for a loop's result: an invariant that holds on entry and is preserved by every
pass gives, at the pass that leaves, what is known of the result. -/
theorem run_spec {start : State} (holds : State → Prop) (post : Result → Prop)
    (entry : holds start)
    (preserved : ∀ state next, holds state → loop.step state = .inl next → holds next)
    (leaves : ∀ state result, holds state → loop.step state = .inr result → post result) :
    post (loop.run start) := by
  obtain ⟨last, reached, left⟩ := loop.exists_leave start
  exact leaves last _ (reached.invariant loop holds entry preserved) left

end Loop

/-! ### Computations that log events and may halt -/

/-- A computation that logs events in order and then yields a value or halts early. What was
logged before a halt stays logged. -/
structure Act (Event Halt Value : Type) where
  events : List Event
  result : Except Halt Value

namespace Act

variable {Event Halt Value Next : Type}

theorem eq_mk {act : Act Event Halt Value} {events : List Event} {result : Except Halt Value}
    (sameEvents : act.events = events) (sameResult : act.result = result) :
    act = ⟨events, result⟩ := by
  rw [← sameEvents, ← sameResult]

/-- The computation that logs nothing and ends in `outcome`. -/
def lift (outcome : Except Halt Value) : Act Event Halt Value := ⟨[], outcome⟩

/-- Log one event. -/
def emit (event : Event) : Act Event Halt Unit := ⟨[event], .ok ()⟩

/-- Log events in order. -/
def emitAll (events : List Event) : Act Event Halt Unit := ⟨events, .ok ()⟩

/-- Stop here, whatever comes after. -/
def halt (reason : Halt) : Act Event Halt Value := ⟨[], .error reason⟩

/-- Run `next` after a computation, unless that computation halted. -/
def andThen (act : Act Event Halt Value) (next : Value → Act Event Halt Next) :
    Act Event Halt Next :=
  match act.result with
  | .ok value => ⟨act.events ++ (next value).events, (next value).result⟩
  | .error reason => ⟨act.events, .error reason⟩

instance : Monad (Act Event Halt) where
  pure value := ⟨[], .ok value⟩
  bind := andThen

theorem bind_eq (act : Act Event Halt Value) (next : Value → Act Event Halt Next) :
    (act >>= next) = act.andThen next := rfl

/-- A computation followed by two others: it does not matter which two are put together. -/
theorem bind_assoc {Last : Type} (act : Act Event Halt Value) (next : Value → Act Event Halt Next)
    (last : Next → Act Event Halt Last) :
    (act >>= next >>= last) = act >>= fun value => next value >>= last := by
  obtain ⟨events, reason | value⟩ := act
  · rfl
  · rcases second : next value with ⟨more, reason | found⟩
    · simp only [bind_eq, andThen, second]
    · simp only [bind_eq, andThen, second, List.append_assoc]

@[simp] theorem lift_ok_bind (value : Value) (next : Value → Act Event Halt Next) :
    (lift (.ok value) >>= next) = next value := rfl

@[simp] theorem lift_error_bind (reason : Halt) (next : Value → Act Event Halt Next) :
    (lift (.error reason) >>= next) = halt reason := rfl

@[simp] theorem events_pure (value : Value) :
    (pure value : Act Event Halt Value).events = [] := rfl

@[simp] theorem result_pure (value : Value) :
    (pure value : Act Event Halt Value).result = .ok value := rfl

@[simp] theorem events_emit_bind (event : Event) (next : Unit → Act Event Halt Next) :
    ((emit event : Act Event Halt Unit) >>= next).events = event :: (next ()).events := rfl

@[simp] theorem result_emit_bind (event : Event) (next : Unit → Act Event Halt Next) :
    ((emit event : Act Event Halt Unit) >>= next).result = (next ()).result := rfl

@[simp] theorem events_emit (event : Event) :
    (emit event : Act Event Halt Unit).events = [event] := rfl

@[simp] theorem result_emit (event : Event) :
    (emit event : Act Event Halt Unit).result = .ok () := rfl

@[simp] theorem events_emitAll_bind (events : List Event) (next : Unit → Act Event Halt Next) :
    ((emitAll events : Act Event Halt Unit) >>= next).events = events ++ (next ()).events := rfl

@[simp] theorem result_emitAll_bind (events : List Event) (next : Unit → Act Event Halt Next) :
    ((emitAll events : Act Event Halt Unit) >>= next).result = (next ()).result := rfl

@[simp] theorem events_halt (reason : Halt) :
    (halt reason : Act Event Halt Value).events = [] := rfl

@[simp] theorem result_halt (reason : Halt) :
    (halt reason : Act Event Halt Value).result = .error reason := rfl

theorem events_bind_of_ok {act : Act Event Halt Value} {value : Value}
    (finished : act.result = .ok value) (next : Value → Act Event Halt Next) :
    (act >>= next).events = act.events ++ (next value).events := by
  rw [bind_eq, andThen, finished]

theorem result_bind_of_ok {act : Act Event Halt Value} {value : Value}
    (finished : act.result = .ok value) (next : Value → Act Event Halt Next) :
    (act >>= next).result = (next value).result := by
  rw [bind_eq, andThen, finished]

theorem events_bind_of_error {act : Act Event Halt Value} {reason : Halt}
    (halted : act.result = .error reason) (next : Value → Act Event Halt Next) :
    (act >>= next).events = act.events := by
  rw [bind_eq, andThen, halted]

theorem result_bind_of_error {act : Act Event Halt Value} {reason : Halt}
    (halted : act.result = .error reason) (next : Value → Act Event Halt Next) :
    (act >>= next).result = .error reason := by
  rw [bind_eq, andThen, halted]

/-- What comes after a computation returns only if that computation does. -/
theorem exists_of_result_bind {act : Act Event Halt Value} {next : Value → Act Event Halt Next}
    {value : Next} (finished : (act >>= next).result = .ok value) :
    ∃ between, act.result = .ok between ∧ (next between).result = .ok value := by
  cases first : act.result with
  | ok between =>
    rw [result_bind_of_ok first] at finished
    exact ⟨between, rfl, finished⟩
  | error reason =>
    rw [result_bind_of_error first] at finished
    cases finished

end Act

end Imperative
