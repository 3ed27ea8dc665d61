/-
This file models the sessions that put a server and a discovery together:
`cmd_receive` and `cmd_discover` of the command line, and `ReceiveWorker` of the
window. It proves when what a session announces is where its server listens.

The two objects get their ports from their own constructors. No session passes
the port of the server on to the discovery, and a session does not start and
stop the two at once, so there is no session that announces and is right in all
its states.
-/

import Mathlib.Logic.Relation
import UniversalAirdrop.Announcing

namespace UniversalAirdrop

open Streams Numeral

/-! ### The two objects -/

def defaultTcpPort : UInt16 := 9090

def defaultUdpPort : UInt16 := 9091

/-- The member of a `TcpServer` that `start` reads. The constructor has a default. -/
structure TcpEndpoint where
  port : UInt16 := defaultTcpPort

/-- The members of a `UdpDiscovery` that `broadcast_loop` reads. The constructor has defaults for
both ports. -/
structure Announcer where
  deviceName : Bytes
  udpPort : UInt16 := defaultUdpPort
  tcpPort : UInt16 := defaultTcpPort

/-- How the system calls of the two `start` functions end, and the port the kernel chooses for a
server that asks for port 0. -/
structure Sockets where
  tcpSocket : Bool
  tcpBind : Bool
  tcpListen : Bool
  ephemeral : UInt16
  broadcastSocket : Bool
  listenSocket : Bool
  udpBind : Bool
  target : Target

/-- The result of `TcpServer::start`. -/
def Sockets.tcpStarts (sockets : Sockets) : Bool :=
  sockets.tcpSocket && sockets.tcpBind && sockets.tcpListen

/-- The result of `UdpDiscovery::start`. -/
def Sockets.udpStarts (sockets : Sockets) : Bool :=
  sockets.broadcastSocket && sockets.listenSocket && sockets.udpBind

/-- The port a server is bound to once it has started. -/
def TcpEndpoint.boundPort (endpoint : TcpEndpoint) (sockets : Sockets) : UInt16 :=
  if endpoint.port = 0 then sockets.ephemeral else endpoint.port

/-! ### Sessions -/

/-- The calls a session makes on its two objects. The destructors call `stop` once more. -/
inductive Command
  | startServer
  | startDiscovery
  | stopServer
  | stopDiscovery
  deriving DecidableEq, Repr

inductive Session
  | cmdReceive (port : UInt16)
  | cmdDiscover (name : Bytes)
  | receiveWorker (port : UInt16)

def Session.server : Session → TcpEndpoint
  | .cmdReceive port => { port }
  | .cmdDiscover _ => {}
  | .receiveWorker port => { port }

def Session.discovery : Session → Announcer
  | .cmdReceive _ => { deviceName := ascii "AirdropReceiver" }
  | .cmdDiscover name => { deviceName := name }
  | .receiveWorker _ => { deviceName := ascii "AirdropReceiver" }

/-- The calls of a session in order, its destructors at the end. -/
def Session.script (sockets : Sockets) : Session → List Command
  | .cmdReceive _ =>
    .startServer ::
      if sockets.tcpStarts then
        [.startDiscovery, .stopServer, .stopDiscovery, .stopDiscovery, .stopServer]
      else [.stopServer]
  | .cmdDiscover _ =>
    .startDiscovery ::
      if sockets.udpStarts then
        -- The result of the server's `start` is not looked at.
        [.startServer, .stopDiscovery, .stopServer, .stopServer, .stopDiscovery]
      else [.stopDiscovery]
  | .receiveWorker _ =>
    -- Neither result is looked at.
    [.startServer, .startDiscovery, .stopServer, .stopDiscovery, .stopDiscovery, .stopServer]

/-- A datagram with the port it went to, and the port the server was bound to at that time. -/
structure Announcement where
  datagram : Bytes
  toPort : UInt16
  bound : Option UInt16

/-- A session: the calls it still has to make, the port its server listens on, whether its
`broadcast_loop` runs, and what that has sent. -/
structure SessionState where
  todo : List Command
  bound : Option UInt16
  broadcasting : Bool
  sent : List Announcement

def Session.start (session : Session) (sockets : Sockets) : SessionState where
  todo := session.script sockets
  bound := none
  broadcasting := false
  sent := []

/-- The payload of the session's `broadcast_loop`. -/
def Session.payload (session : Session) (sockets : Sockets) : Bytes :=
  broadcastPayload sockets.target session.discovery.deviceName session.discovery.tcpPort

/-- What a call does. A `start` that fails leaves nothing behind. -/
def Session.perform (session : Session) (sockets : Sockets) (state : SessionState) :
    Command → SessionState
  | .startServer =>
    if sockets.tcpStarts then { state with bound := some (session.server.boundPort sockets) }
    else { state with bound := none }
  | .startDiscovery => if sockets.udpStarts then { state with broadcasting := true } else state
  | .stopServer => { state with bound := none }
  | .stopDiscovery => { state with broadcasting := false }

/-- A session makes its next call, or its `broadcast_loop` sends. -/
inductive SessionStep (session : Session) (sockets : Sockets) : SessionState → SessionState → Prop
  | call {state : SessionState} {command : Command} {rest : List Command}
      (next : state.todo = command :: rest) :
      SessionStep session sockets state
        (session.perform sockets { state with todo := rest } command)
  | broadcast {state : SessionState} (broadcasting : state.broadcasting = true) :
      SessionStep session sockets state { state with
        sent := state.sent ++
          [⟨session.payload sockets, session.discovery.udpPort, state.bound⟩] }

def Session.Reachable (session : Session) (sockets : Sockets) (state : SessionState) : Prop :=
  Relation.ReflTransGen (SessionStep session sockets) (session.start sockets) state

@[simp] theorem perform_todo {session : Session} {sockets : Sockets} (state : SessionState)
    (command : Command) : (session.perform sockets state command).todo = state.todo := by
  cases command with
  | startServer =>
    rw [Session.perform]
    split <;> rfl
  | startDiscovery =>
    rw [Session.perform]
    split <;> rfl
  | stopServer => rfl
  | stopDiscovery => rfl

/-! ### Announcing where the server is -/

section Announcing

variable {session : Session} {sockets : Sockets}

/-- The datagram names the port the server is bound to. -/
def Session.Names (session : Session) (sockets : Sockets) (bound : Option UInt16)
    (datagram : Bytes) : Prop :=
  ∃ port, bound = some port ∧
    datagram = broadcastPayload sockets.target session.discovery.deviceName port

/-- What the session is sending and what it has sent named the port of a listening server. -/
structure Session.Truthful (session : Session) (sockets : Sockets) (state : SessionState) :
    Prop where
  sending : state.broadcasting = true →
    session.Names sockets state.bound (session.payload sockets)
  sent : ∀ announcement ∈ state.sent,
    session.Names sockets announcement.bound announcement.datagram

/-- The session gets to start its `broadcast_loop`. -/
def Session.Announces (sockets : Sockets) : Session → Prop
  | .cmdReceive _ => sockets.tcpStarts = true ∧ sockets.udpStarts = true
  | .cmdDiscover _ => sockets.udpStarts = true
  | .receiveWorker _ => sockets.udpStarts = true

theorem broadcastPayload_injective {target : Target} {name : Bytes} {first second : UInt16}
    (same : broadcastPayload target name first = broadcastPayload target name second) :
    first = second := by
  have digits : decimal first.toNat = decimal second.toNat := by
    simpa [broadcastPayload, serializeDiscovery] using same
  have numbers := congrArg value digits
  rw [value_decimal, value_decimal] at numbers
  exact UInt16.toNat_inj.mp numbers

/-- Every session announces the default port, whatever port its server has. -/
theorem names_iff (session : Session) (sockets : Sockets) (bound : Option UInt16) :
    session.Names sockets bound (session.payload sockets) ↔ bound = some defaultTcpPort := by
  have default : session.discovery.tcpPort = defaultTcpPort := by
    cases session <;> rfl
  rw [Session.Names, Session.payload, default]
  constructor
  · rintro ⟨port, rfl, same⟩
    rw [broadcastPayload_injective same]
  · intro bound
    exact ⟨_, bound, rfl⟩

/-- Nothing is sent and nothing will be: `start` fails, or it is not called any more. -/
structure Session.Silent (sockets : Sockets) (state : SessionState) : Prop where
  quiet : state.broadcasting = false
  unsent : state.sent = []
  stays : sockets.udpStarts = false ∨ .startDiscovery ∉ state.todo

theorem silent_start (silent : ¬ session.Announces sockets) :
    Session.Silent sockets (session.start sockets) where
  quiet := rfl
  unsent := rfl
  stays := by
    cases session with
    | cmdReceive port =>
      cases started : sockets.tcpStarts with
      | false =>
        refine Or.inr ?_
        rw [Session.start, Session.script, started]
        decide
      | true => exact Or.inl (Bool.eq_false_iff.mpr fun udp => silent ⟨started, udp⟩)
    | cmdDiscover name => exact Or.inl (Bool.eq_false_iff.mpr silent)
    | receiveWorker port => exact Or.inl (Bool.eq_false_iff.mpr silent)

theorem SessionStep.silent {state next : SessionState}
    (step : SessionStep session sockets state next) (silent : Session.Silent sockets state) :
    Session.Silent sockets next := by
  cases step with
  | broadcast broadcasting =>
    rw [silent.quiet] at broadcasting
    cases broadcasting
  | @call command rest ahead =>
    have stays : sockets.udpStarts = false ∨ .startDiscovery ∉ rest :=
      silent.stays.imp_right fun absent member =>
        absent (ahead ▸ List.mem_cons_of_mem _ member)
    cases command with
    | startServer =>
      rw [Session.perform]
      split <;> exact ⟨silent.quiet, silent.unsent, stays⟩
    | startDiscovery =>
      have fails : sockets.udpStarts = false :=
        silent.stays.resolve_right fun absent => absent (ahead ▸ List.mem_cons_self)
      rw [Session.perform, fails]
      exact ⟨silent.quiet, silent.unsent, stays⟩
    | stopServer => exact ⟨silent.quiet, silent.unsent, stays⟩
    | stopDiscovery => exact ⟨rfl, silent.unsent, stays⟩

theorem silent_of_reachable (silent : ¬ session.Announces sockets) {state : SessionState}
    (reachable : session.Reachable sockets state) : Session.Silent sockets state := by
  induction reachable with
  | refl => exact silent_start silent
  | tail _ step inductionHypothesis => exact step.silent inductionHypothesis

/-- A server that listens does so on the port it has bound. -/
theorem bound_of_reachable {state : SessionState} (reachable : session.Reachable sockets state) :
    state.bound = none ∨ state.bound = some (session.server.boundPort sockets) := by
  induction reachable with
  | refl => exact Or.inl rfl
  | tail _ step inductionHypothesis =>
    cases step with
    | broadcast => exact inductionHypothesis
    | @call command rest =>
      cases command with
      | startServer =>
        rw [Session.perform]
        split
        · exact Or.inr rfl
        · exact Or.inl rfl
      | startDiscovery =>
        rw [Session.perform]
        split <;> exact inductionHypothesis
      | stopServer => exact Or.inl rfl
      | stopDiscovery => exact inductionHypothesis

/-- A session that announces is at some time announcing without a server: `cmd_discover` before it
starts the server, the others after they have stopped it. -/
theorem exists_unserved (announces : session.Announces sockets) :
    ∃ state, session.Reachable sockets state ∧ state.broadcasting = true ∧ state.bound = none := by
  cases session with
  | cmdReceive port =>
    obtain ⟨tcp, udp⟩ := announces
    have ahead : (Session.cmdReceive port).script sockets =
        [.startServer, .startDiscovery, .stopServer, .stopDiscovery, .stopDiscovery,
          .stopServer] := by
      rw [Session.script, if_pos tcp]
    refine ⟨_, ((Relation.ReflTransGen.single (SessionStep.call ahead)).tail
      (SessionStep.call (perform_todo _ _))).tail (SessionStep.call (perform_todo _ _)), ?_, rfl⟩
    simp [Session.perform, udp]
  | cmdDiscover name =>
    refine ⟨_, Relation.ReflTransGen.single (SessionStep.call rfl), ?_, ?_⟩
    · simp [Session.perform, show sockets.udpStarts = true from announces]
    · simp [Session.perform, show sockets.udpStarts = true from announces, Session.start]
  | receiveWorker port =>
    refine ⟨_, ((Relation.ReflTransGen.single (SessionStep.call rfl)).tail
      (SessionStep.call (perform_todo _ _))).tail (SessionStep.call (perform_todo _ _)), ?_, rfl⟩
    simp [Session.perform, show sockets.udpStarts = true from announces]

end Announcing

/-- A session is right about where its server listens in all its states exactly when it announces
nothing. What it announces is right in those states in which its server listens and has the
default port. -/
theorem truthful_iff (session : Session) (sockets : Sockets) :
    ((∀ state, session.Reachable sockets state → session.Truthful sockets state) ↔
      ¬ session.Announces sockets) ∧
    ∀ state, session.Reachable sockets state →
      (session.Names sockets state.bound (session.payload sockets) ↔
        state.bound.isSome = true ∧ session.server.boundPort sockets = defaultTcpPort) := by
  refine ⟨⟨fun truthful announces => ?_, fun silent state reachable => ?_⟩,
    fun state reachable => ?_⟩
  · obtain ⟨state, reachable, broadcasting, unbound⟩ := exists_unserved announces
    obtain ⟨port, bound, -⟩ := (truthful state reachable).sending broadcasting
    rw [unbound] at bound
    cases bound
  · have quiet := silent_of_reachable silent reachable
    constructor
    · intro broadcasting
      rw [quiet.quiet] at broadcasting
      cases broadcasting
    · rw [quiet.unsent]
      exact fun announcement member => absurd member List.not_mem_nil
  · rw [names_iff]
    obtain unbound | bound := bound_of_reachable reachable
    · simp [unbound]
    · simp [bound]

/-- Sockets on which every call succeeds. -/
def openSockets : Sockets where
  tcpSocket := true
  tcpBind := true
  tcpListen := true
  ephemeral := 49152
  broadcastSocket := true
  listenSocket := true
  udpBind := true
  target := .linux

/-- A receiver on port 8080 that waits for files announces port 9090. -/
theorem not_truthful_cmdReceive : ¬ ∀ state,
    (Session.cmdReceive 8080).Reachable openSockets state →
      (Session.cmdReceive 8080).Truthful openSockets state := by
  intro truthful
  have waiting : (Session.cmdReceive 8080).Reachable openSockets
      ⟨[.stopServer, .stopDiscovery, .stopDiscovery, .stopServer], some 8080, true, []⟩ :=
    (Relation.ReflTransGen.single (SessionStep.call rfl)).tail
      (@SessionStep.call _ _ _ .startDiscovery
        [.stopServer, .stopDiscovery, .stopDiscovery, .stopServer] rfl)
  have named := (names_iff _ _ _).mp ((truthful _ waiting).sending rfl)
  cases named

end UniversalAirdrop
