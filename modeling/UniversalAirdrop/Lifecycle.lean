/-
This file models the life of one `TcpServer` object: `start` and its accept
thread, the handlers the accept thread detaches, `stop` and the destructor.

`stop` joins the accept thread, and nothing joins a handler. After the
destructor there is no accept thread and no new handler, but a handler that was
there before is still there, and it reads the members of an object that is gone.
-/

import Mathlib.Logic.Relation
import UniversalAirdrop.Handler

namespace UniversalAirdrop

open Imperative Streams

/-! ### The server object and its threads -/

/-- Where the accept thread is. A call of `accept` keeps the socket it was made on. -/
inductive Acceptor
  | absent
  | checking
  | accepting (socket : CalledOn)
  | exited

/-- What closing `listen_sock_` does to the accept thread. -/
def Acceptor.close : Acceptor → Acceptor
  | .accepting socket => .accepting socket.close
  | acceptor => acceptor

/-- Where the owner of the object is: between two calls, inside `stop`, inside the destructor, or
past it. -/
inductive Owner
  | idle
  | stopping
  | destroying
  | destroyed
  deriving DecidableEq, Repr

/-- The detached thread of one connection, with the calls it has made. -/
structure Handler where
  host : Host
  connection : Connection
  phase : Phase
  performed : List ServerEvent

def Handler.spawned (host : Host) (connection : Connection) : Handler where
  host
  connection
  phase := .start connection
  performed := []

/-- A server object: its members `running_` and `listen_sock_`, and the threads that have a
pointer to it. -/
structure ServerLife where
  running : Bool
  listening : Bool
  acceptor : Acceptor
  owner : Owner
  handlers : List Handler

def ServerLife.constructed : ServerLife where
  running := false
  listening := false
  acceptor := .absent
  owner := .idle
  handlers := []

/-- `stop` up to the join. -/
def ServerLife.shutDown (state : ServerLife) (owner : Owner) : ServerLife :=
  { state with
    running := false
    listening := false
    acceptor := if state.listening then state.acceptor.close else state.acceptor
    owner }

/-- One step of the owner, of the accept thread or of a handler. Closing a socket may wake a thread
that waits in a call on it or not. A run that ends the process has no further steps: a handler that
throws or is killed, and a second `start`, which assigns to a joinable thread. -/
inductive LifeStep (server : TcpServer) (closeWakes : Bool) : ServerLife → ServerLife → Prop
  | startSucceeds {state : ServerLife} (idle : state.owner = .idle)
      (unused : state.acceptor = .absent) :
      LifeStep server closeWakes state
        { state with running := true, listening := true, acceptor := .checking }
  | startFails {state : ServerLife} (idle : state.owner = .idle) :
      LifeStep server closeWakes state { state with listening := false }
  | callAccept {state : ServerLife} (checking : state.acceptor = .checking)
      (running : state.running = true) :
      LifeStep server closeWakes state { state with
        acceptor := .accepting (if state.listening then .openSocket else .closedBefore) }
  | acceptFails {state : ServerLife} {socket : CalledOn}
      (accepting : state.acceptor = .accepting socket) (fails : socket.fails closeWakes = true) :
      LifeStep server closeWakes state { state with acceptor := .checking }
  | acceptAborts {state : ServerLife} {socket : CalledOn}
      (accepting : state.acceptor = .accepting socket) (waited : socket ≠ .closedBefore) :
      -- A peer has connected and broken off before it was accepted.
      LifeStep server closeWakes state { state with acceptor := .checking }
  | acceptReturns {state : ServerLife} {socket : CalledOn}
      (accepting : state.acceptor = .accepting socket) (waited : socket ≠ .closedBefore)
      (host : Host) (connection : Connection) :
      LifeStep server closeWakes state { state with
        acceptor := .checking
        handlers := state.handlers ++ [.spawned host connection] }
  | leaveLoop {state : ServerLife} (checking : state.acceptor = .checking)
      (stopped : state.running = false) :
      LifeStep server closeWakes state { state with acceptor := .exited }
  | handle {state : ServerLife} {before after : List Handler} {handler : Handler} {next : Phase}
      (split : state.handlers = before ++ handler :: after)
      (live : handler.phase.live = true)
      (advanced : (handler.phase.advance server handler.host handler.connection).result =
        .ok next) :
      LifeStep server closeWakes state { state with
        handlers := before ++ { handler with
          phase := next
          performed := handler.performed ++
            (handler.phase.advance server handler.host handler.connection).events } :: after }
  | callStop {state : ServerLife} (idle : state.owner = .idle) :
      LifeStep server closeWakes state (state.shutDown .stopping)
  | stopReturns {state : ServerLife} (stopping : state.owner = .stopping)
      (joinable : state.acceptor = .absent ∨ state.acceptor = .exited) :
      LifeStep server closeWakes state { state with acceptor := .absent, owner := .idle }
  | callDestructor {state : ServerLife} (idle : state.owner = .idle) :
      -- The destructor begins with a call of `stop`.
      LifeStep server closeWakes state (state.shutDown .destroying)
  | destructorReturns {state : ServerLife} (destroying : state.owner = .destroying)
      (joinable : state.acceptor = .absent ∨ state.acceptor = .exited) :
      LifeStep server closeWakes state { state with acceptor := .absent, owner := .destroyed }

/-- Some run of the object leads from one state to the other. -/
def LifeRun (server : TcpServer) (closeWakes : Bool) : ServerLife → ServerLife → Prop :=
  Relation.ReflTransGen (LifeStep server closeWakes)

/-! ### The handlers run `handle_client` -/

section Handlers

variable {server : TcpServer}

/-- A handler has made the first calls of its run and has the others left. -/
def Handler.OnCourse (server : TcpServer) (handler : Handler) : Prop :=
  handler.performed ++
      (handler.phase.remaining server handler.host handler.connection).events =
    (handleClient server handler.host handler.connection).events

theorem onCourse_spawned (server : TcpServer) (host : Host) (connection : Connection) :
    (Handler.spawned host connection).OnCourse server :=
  congrArg Act.events (remaining_start server host connection)

/-- One step of a handler. -/
theorem Handler.OnCourse.advance {handler : Handler} (onCourse : handler.OnCourse server)
    {next : Phase}
    (advanced : (handler.phase.advance server handler.host handler.connection).result =
      .ok next) :
    ({ handler with
        phase := next
        performed := handler.performed ++
          (handler.phase.advance server handler.host handler.connection).events } :
      Handler).OnCourse server := by
  rw [OnCourse, remaining_eq_advance, Act.events_bind_of_ok advanced, ← List.append_assoc]
    at onCourse
  exact onCourse

end Handlers

/-! ### What is there after the destructor -/

/-- After the destructor no handler is live, and none is about to read a member. -/
structure ServerLife.Buried (state : ServerLife) : Prop where
  ended : state.owner = .destroyed → ∀ handler ∈ state.handlers, handler.phase.live = false
  unread : state.owner = .destroyed → ∀ handler ∈ state.handlers,
    handler.phase.readsMember = false

/-- All connections that were accepted are of some kind. -/
def ServerLife.Admits (state : ServerLife) (peers : Host → Connection → Prop) : Prop :=
  ∀ handler ∈ state.handlers, peers handler.host handler.connection

/-- The state if no handler had made a step: what the owner and the accept thread have done. -/
def ServerLife.unhandled (state : ServerLife) : ServerLife :=
  { state with
    handlers := state.handlers.map fun handler => .spawned handler.host handler.connection }

section Steps

variable {server : TcpServer} {closeWakes : Bool} {state next : ServerLife}

/-- No thread waits for a handler: without the steps of the handlers, the others are still
possible. -/
theorem LifeStep.unhandled (step : LifeStep server closeWakes state next) :
    LifeRun server closeWakes state.unhandled next.unhandled := by
  cases step with
  | startSucceeds idle unused => exact Relation.ReflTransGen.single (.startSucceeds idle unused)
  | startFails idle => exact Relation.ReflTransGen.single (.startFails idle)
  | callAccept checking running =>
    exact Relation.ReflTransGen.single (.callAccept checking running)
  | acceptFails accepting fails =>
    exact Relation.ReflTransGen.single (.acceptFails accepting fails)
  | acceptAborts accepting waited =>
    exact Relation.ReflTransGen.single (.acceptAborts accepting waited)
  | acceptReturns accepting waited host connection =>
    have accepts := @LifeStep.acceptReturns server closeWakes state.unhandled _ accepting waited
      host connection
    simp only [ServerLife.unhandled, List.map_append]
    exact Relation.ReflTransGen.single accepts
  | leaveLoop checking stopped => exact Relation.ReflTransGen.single (.leaveLoop checking stopped)
  | @handle before after handler phase split =>
    rw [ServerLife.unhandled, ServerLife.unhandled, split, List.map_append, List.map_append,
      List.map_cons, List.map_cons]
    exact Relation.ReflTransGen.refl
  | callStop idle => exact Relation.ReflTransGen.single (.callStop idle)
  | stopReturns stopping joinable =>
    exact Relation.ReflTransGen.single (.stopReturns stopping joinable)
  | callDestructor idle => exact Relation.ReflTransGen.single (.callDestructor idle)
  | destructorReturns destroying joinable =>
    exact Relation.ReflTransGen.single (.destructorReturns destroying joinable)

theorem LifeRun.unhandled (run : LifeRun server closeWakes .constructed state) :
    LifeRun server closeWakes .constructed state.unhandled := by
  induction run with
  | refl => exact Relation.ReflTransGen.refl
  | tail _ step inductionHypothesis => exact inductionHypothesis.trans step.unhandled

/-- A handler that has not made a step is live, so it has outlived an object that is destroyed. -/
theorem ServerLife.buried_unhandled_iff :
    state.unhandled.Buried ↔ (state.owner = .destroyed → state.handlers = []) := by
  constructor
  · intro buried destroyed
    refine List.eq_nil_iff_forall_not_mem.mpr fun handler member => ?_
    have ended := buried.ended destroyed _ (List.mem_map_of_mem member)
    cases ended
  · intro none
    refine ⟨fun destroyed handler member => ?_, fun destroyed handler member => ?_⟩ <;>
      · rw [ServerLife.unhandled, none destroyed] at member
        cases member

/-! ### What `stop` waits for -/

/-- The accept thread is not inside of `accept`, or gets out of it: the call fails, or one more
peer connects. -/
theorem exists_returned (host : Host) (connection : Connection) :
    ∃ acceptor handlers, (acceptor = .absent ∨ acceptor = .checking ∨ acceptor = .exited) ∧
      (handlers = state.handlers ∨ handlers = state.handlers ++ [.spawned host connection]) ∧
      LifeRun server closeWakes state { state with acceptor, handlers } := by
  cases somewhere : state.acceptor with
  | absent =>
    refine ⟨.absent, _, Or.inl rfl, Or.inl rfl, ?_⟩
    rw [← somewhere]
    exact Relation.ReflTransGen.refl
  | checking =>
    refine ⟨.checking, _, Or.inr (Or.inl rfl), Or.inl rfl, ?_⟩
    rw [← somewhere]
    exact Relation.ReflTransGen.refl
  | exited =>
    refine ⟨.exited, _, Or.inr (Or.inr rfl), Or.inl rfl, ?_⟩
    rw [← somewhere]
    exact Relation.ReflTransGen.refl
  | accepting socket =>
    by_cases closed : socket = .closedBefore
    · exact ⟨.checking, _, Or.inr (Or.inl rfl), Or.inl rfl,
        Relation.ReflTransGen.single (.acceptFails somewhere (closed ▸ rfl))⟩
    · exact ⟨.checking, _, Or.inr (Or.inl rfl), Or.inr rfl,
        Relation.ReflTransGen.single (.acceptReturns somewhere closed host connection)⟩

/-- Between any two steps of its handlers, an object can be stopped and destroyed, at the latest
after one more peer has connected. -/
theorem exists_destroyed {start : ServerLife} (reaches : LifeRun server closeWakes start state)
    (idle : state.owner = .idle) (host : Host) (connection : Connection) :
    ∃ last, LifeRun server closeWakes start last ∧ last.owner = .destroyed ∧
      (last.handlers = state.handlers ∨
        last.handlers = state.handlers ++ [.spawned host connection]) := by
  obtain ⟨acceptor, handlers, outside, accepted, returned⟩ :=
    @exists_returned server closeWakes state host connection
  have stopping := (reaches.trans returned).tail (.callStop idle)
  have unwoken : ({ state with acceptor, handlers } : ServerLife).shutDown .stopping =
      { state with running := false, listening := false, acceptor, owner := .stopping, handlers }
      := by
    obtain rfl | rfl | rfl := outside <;> cases state.listening <;>
      simp [ServerLife.shutDown, Acceptor.close]
  rw [unwoken] at stopping
  have stopped : LifeRun server closeWakes start
      { state with
        running := false, listening := false, acceptor := .absent, owner := .idle, handlers } := by
    obtain rfl | rfl | rfl := outside
    · exact stopping.tail (.stopReturns rfl (Or.inl rfl))
    · exact (stopping.tail (.leaveLoop rfl rfl)).tail (.stopReturns rfl (Or.inr rfl))
    · exact stopping.tail (.stopReturns rfl (Or.inr rfl))
  exact ⟨_, (stopped.tail (.callDestructor rfl)).tail (.destructorReturns rfl (Or.inl rfl)), rfl,
    accepted⟩

/-- A server object that listens and has accepted nothing. -/
def listeningLife : ServerLife where
  running := true
  listening := true
  acceptor := .checking
  owner := .idle
  handlers := []

/-- A server object can accept any connection. -/
theorem LifeRun.accepted (host : Host) (connection : Connection) :
    LifeRun server closeWakes .constructed
      { listeningLife with handlers := [.spawned host connection] } :=
  ((Relation.ReflTransGen.single (.startSucceeds rfl rfl)).tail (.callAccept rfl rfl)).tail
    (@LifeStep.acceptReturns server closeWakes _ .openSocket rfl nofun host connection)

/-- Over all runs that accept only connections of some kind, no handler outlives the object exactly
when there is no connection of the kind. And over all runs in which the owner and the accept thread
do the same, whatever the handlers do, no handler outlives the object exactly when it is still
there or no connection was accepted. -/
theorem noneOutlives_iff (server : TcpServer) (closeWakes : Bool) :
    (∀ peers : Host → Connection → Prop,
      (∀ state, LifeRun server closeWakes .constructed state → state.Admits peers →
        state.Buried) ↔ ∀ host connection, ¬ peers host connection) ∧
    ∀ state, LifeRun server closeWakes .constructed state →
      ((∀ other, LifeRun server closeWakes .constructed other →
          other.unhandled = state.unhandled → other.Buried) ↔
        (state.owner = .destroyed → state.handlers = [])) := by
  refine ⟨fun peers => ⟨fun buried host connection admitted => ?_, fun none state _ admits => ?_⟩,
    fun state run => ⟨fun buried => ?_, fun none other _ same => ?_⟩⟩
  · -- A connection is accepted, and its handler makes no step.
    obtain ⟨last, reachable, destroyed, handlers⟩ :=
      exists_destroyed (LifeRun.accepted host connection) rfl host connection
    have spawned : ∀ handler ∈ last.handlers, handler = .spawned host connection := by
      intro handler member
      obtain same | same := handlers <;> rw [same] at member <;> simpa using member
    have there : Handler.spawned host connection ∈ last.handlers := by
      obtain same | same := handlers <;> rw [same] <;> exact List.mem_cons_self
    have ended := (buried last reachable fun handler member => by
      rw [spawned handler member]
      exact admitted).ended destroyed _ there
    cases ended
  · have nobody : ∀ handler, handler ∉ state.handlers := fun handler member =>
      none _ _ (admits handler member)
    exact ⟨fun _ handler member => absurd member (nobody handler),
      fun _ handler member => absurd member (nobody handler)⟩
  · refine ServerLife.buried_unhandled_iff.mp (buried _ run.unhandled ?_)
    simp [ServerLife.unhandled, Handler.spawned]
  · have empty : other.owner = .destroyed → other.handlers = [] := by
      intro destroyed
      have owner := congrArg ServerLife.owner same
      have handlers := congrArg ServerLife.handlers same
      have gone := none (owner.symm.trans destroyed)
      rw [ServerLife.unhandled, ServerLife.unhandled, gone] at handlers
      exact List.map_eq_nil_iff.mp handlers
    exact ⟨fun destroyed handler member => absurd (empty destroyed ▸ member) List.not_mem_nil,
      fun destroyed handler member => absurd (empty destroyed ▸ member) List.not_mem_nil⟩

end Steps

/-- A peer that sends a header and nothing more, while the object is stopped and destroyed. -/
theorem not_buried_headerOnly : ¬ ∀ state,
    LifeRun sampleServer false .constructed state → state.Buried := by
  intro buried
  let peer := closedAfter (ascii "UAIRDROP:2:a:2\n")
  have moves : ((Phase.start peer).advance sampleServer .healthy peer).result.toOption.map
      Phase.readsMember = some true := by decide +kernel
  cases advanced : ((Phase.start peer).advance sampleServer .healthy peer).result with
  | error reason =>
    rw [advanced] at moves
    cases moves
  | ok next =>
    rw [advanced] at moves
    -- The header is read, and the handler is about to create the directory.
    have waiting := (LifeRun.accepted .healthy peer).tail
      (@LifeStep.handle sampleServer false _ [] [] (.spawned .healthy peer) next rfl rfl advanced)
    obtain ⟨last, reachable, destroyed, handlers⟩ := exists_destroyed waiting rfl .healthy peer
    have unread := (buried last reachable).unread destroyed
    have reads := unread { Handler.spawned .healthy peer with
      phase := next
      performed := [] ++ ((Phase.start peer).advance sampleServer .healthy peer).events } (by
        obtain same | same := handlers <;> rw [same] <;> exact List.mem_cons_self)
    rw [Option.some.inj moves] at reads
    cases reads

end UniversalAirdrop
