/-
This file is a small library for a resource behind a mutex. A thread that holds
the mutex performs the steps of one operation on the resource, one at a time;
other threads may do anything in between except take the mutex.

However the threads are interleaved, the resource is what the completed
operations make of it one after the other, and while an operation is under way
it is on its way to what that operation makes of it.
-/

import Mathlib.Data.List.Basic

namespace Locking

variable {Thread Resource Operation : Type}

/-- An operation under way: who performs it, and the steps that are left. -/
structure Holder (Thread Resource Operation : Type) where
  thread : Thread
  operation : Operation
  left : List (Resource → Resource)

/-- A mutex with what it protects, who holds it, and the operations that were completed. -/
structure Mutex (Thread Resource Operation : Type) where
  resource : Resource
  holder : Option (Holder Thread Resource Operation)
  completed : List Operation

namespace Mutex

def free (resource : Resource) : Mutex Thread Resource Operation where
  resource
  holder := none
  completed := []

variable (steps : Operation → List (Resource → Resource))

/-- What a whole operation makes of the resource. -/
def perform (resource : Resource) (operation : Operation) : Resource :=
  (steps operation).foldl (fun reached step => step reached) resource

/-- A thread takes the mutex for an operation. -/
def lock (mutex : Mutex Thread Resource Operation) (thread : Thread) (operation : Operation) :
    Mutex Thread Resource Operation :=
  { mutex with holder := some { thread, operation, left := steps operation } }

/-- The holder performs a step. -/
def act (mutex : Mutex Thread Resource Operation) (thread : Thread) (operation : Operation)
    (step : Resource → Resource) (left : List (Resource → Resource)) :
    Mutex Thread Resource Operation :=
  { mutex with resource := step mutex.resource, holder := some { thread, operation, left } }

/-- The holder gives the mutex back. -/
def unlock (mutex : Mutex Thread Resource Operation) (operation : Operation) :
    Mutex Thread Resource Operation :=
  { mutex with holder := none, completed := mutex.completed ++ [operation] }

/-- The operations that have begun. -/
def begun (mutex : Mutex Thread Resource Operation) : List Operation :=
  mutex.completed ++ (mutex.holder.map Holder.operation).toList

/-- What the resource is once the holder is done. -/
def settled (mutex : Mutex Thread Resource Operation) : Resource :=
  (mutex.holder.elim [] Holder.left).foldl (fun reached step => step reached) mutex.resource

/-- The operations that have begun appear to be performed one after the other. -/
def Atomic (start : Resource) (mutex : Mutex Thread Resource Operation) : Prop :=
  mutex.settled = mutex.begun.foldl (perform steps) start

variable {steps} {start : Resource} {mutex : Mutex Thread Resource Operation} {thread : Thread}
  {operation : Operation}

theorem atomic_free : (free start : Mutex Thread Resource Operation).Atomic steps start := rfl

theorem begun_lock (unheld : mutex.holder = none) :
    (mutex.lock steps thread operation).begun = mutex.begun ++ [operation] := by
  rw [begun, begun, unheld]
  show mutex.completed ++ [operation] = mutex.completed ++ [] ++ [operation]
  rw [List.append_nil]

theorem Atomic.lock (atomic : mutex.Atomic steps start) (unheld : mutex.holder = none) :
    (mutex.lock steps thread operation).Atomic steps start := by
  have resource : mutex.resource = mutex.begun.foldl (perform steps) start := by
    rw [← atomic, settled, unheld]
    rfl
  rw [Atomic, begun_lock unheld, List.foldl_concat, ← resource]
  rfl

variable {step : Resource → Resource} {left : List (Resource → Resource)}

theorem begun_act (held : mutex.holder = some ⟨thread, operation, step :: left⟩) :
    (mutex.act thread operation step left).begun = mutex.begun := by
  rw [begun, begun, held]
  rfl

theorem Atomic.act (atomic : mutex.Atomic steps start)
    (held : mutex.holder = some ⟨thread, operation, step :: left⟩) :
    (mutex.act thread operation step left).Atomic steps start := by
  rw [Atomic, begun_act held, ← atomic, settled, settled, held]
  rfl

theorem begun_unlock (held : mutex.holder = some ⟨thread, operation, []⟩) :
    (mutex.unlock operation).begun = mutex.begun := by
  rw [begun, begun, held]
  exact List.append_nil _

theorem Atomic.unlock (atomic : mutex.Atomic steps start)
    (held : mutex.holder = some ⟨thread, operation, []⟩) :
    (mutex.unlock operation).Atomic steps start := by
  rw [Atomic, begun_unlock held, ← atomic, settled, settled, held]
  rfl

/-- Nobody is on the way: the resource is what the operations have made of it. -/
theorem Atomic.resource_eq (atomic : mutex.Atomic steps start) (unheld : mutex.holder = none) :
    mutex.resource = mutex.begun.foldl (perform steps) start := by
  rw [← atomic, settled, unheld]
  rfl

end Mutex

end Locking
