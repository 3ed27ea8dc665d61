/-
This file adds the descriptors to the life of a `TcpServer`: the listening socket
that `start` opens and `stop` closes, and the socket of each connection, which
its handler closes. It proves that no interleaving closes a descriptor twice, and
what is still open in every state.

Without its descriptors, a run is a run of the object's life. What is open is the
listening socket, the sockets of the live handlers, and any listening socket that
a later `start` has overwritten.
-/

import UniversalAirdrop.Lifecycle
import UniversalAirdrop.UdpSockets

namespace UniversalAirdrop

open Imperative Streams Ledger

/-! ### The server object with its descriptors -/

/-- A handler with the socket it was given. -/
structure Client where
  sock : Descriptor
  handler : Handler

/-- A server object with the descriptor in `listen_sock_`, the sockets of its handlers, and what
was opened and closed. A `start` that finds a descriptor in the member overwrites it; these
descriptors are `overwritten`. -/
structure TcpSockets where
  running : Bool
  listenSock : Option Descriptor
  acceptor : Acceptor
  owner : Owner
  clients : List Client
  overwritten : List Descriptor
  ledger : List (Entry Descriptor)

namespace TcpSockets

def constructed : TcpSockets where
  running := false
  listenSock := none
  acceptor := .absent
  owner := .idle
  clients := []
  overwritten := []
  ledger := []

/-- The object without its descriptors. -/
def life (state : TcpSockets) : ServerLife where
  running := state.running
  listening := state.listenSock.isSome
  acceptor := state.acceptor
  owner := state.owner
  handlers := state.clients.map Client.handler

/-- `start` puts what `socket` returns into the member. -/
def assign (state : TcpSockets) (sock : Option Descriptor) : TcpSockets :=
  { state with
    listenSock := sock
    overwritten := state.overwritten ++ state.listenSock.toList }

/-- `stop` up to the join. -/
def stop (state : TcpSockets) (owner : Owner) : TcpSockets :=
  { state with
    running := false
    listenSock := none
    acceptor := if state.listenSock.isSome then state.acceptor.close else state.acceptor
    owner
    ledger := sockClose state.ledger state.listenSock }

end TcpSockets

/-- What the calls of a handler release of its socket. -/
def closes (sock : Descriptor) (events : List ServerEvent) : List (Entry Descriptor) :=
  List.replicate (events.count .close) (.released sock)

/-- One step of the owner, of the accept thread or of a handler. The kernel hands out descriptors
that are not open. -/
inductive SocketStep (server : TcpServer) (closeWakes : Bool) : TcpSockets → TcpSockets → Prop
  | startSucceeds {state : TcpSockets} {sock : Descriptor} (idle : state.owner = .idle)
      (unused : state.acceptor = .absent) (unopened : sock ∉ held state.ledger) :
      SocketStep server closeWakes state { state.assign (some sock) with
        running := true
        acceptor := .checking
        ledger := state.ledger ++ [.acquired sock] }
  | startGetsNoSocket {state : TcpSockets} (idle : state.owner = .idle) :
      SocketStep server closeWakes state (state.assign none)
  | startFails {state : TcpSockets} {sock : Descriptor} (idle : state.owner = .idle)
      (unopened : sock ∉ held state.ledger) :
      -- `bind` or `listen` fails: the socket is closed, and the member is reset.
      SocketStep server closeWakes state { state.assign none with
        ledger := state.ledger ++ [.acquired sock] ++ [.released sock] }
  | callAccept {state : TcpSockets} (checking : state.acceptor = .checking)
      (running : state.running = true) :
      SocketStep server closeWakes state { state with
        acceptor := .accepting (if state.listenSock.isSome then .openSocket else .closedBefore) }
  | acceptFails {state : TcpSockets} {socket : CalledOn}
      (accepting : state.acceptor = .accepting socket) (fails : socket.fails closeWakes = true) :
      SocketStep server closeWakes state { state with acceptor := .checking }
  | acceptAborts {state : TcpSockets} {socket : CalledOn}
      (accepting : state.acceptor = .accepting socket) (waited : socket ≠ .closedBefore) :
      SocketStep server closeWakes state { state with acceptor := .checking }
  | acceptReturns {state : TcpSockets} {socket : CalledOn} {sock : Descriptor}
      (accepting : state.acceptor = .accepting socket) (waited : socket ≠ .closedBefore)
      (unopened : sock ∉ held state.ledger) (host : Host) (connection : Connection) :
      SocketStep server closeWakes state { state with
        acceptor := .checking
        clients := state.clients ++ [⟨sock, .spawned host connection⟩]
        ledger := state.ledger ++ [.acquired sock] }
  | leaveLoop {state : TcpSockets} (checking : state.acceptor = .checking)
      (stopped : state.running = false) :
      SocketStep server closeWakes state { state with acceptor := .exited }
  | handle {state : TcpSockets} {before after : List Client} {sock : Descriptor}
      {handler : Handler} {next : Phase}
      (split : state.clients = before ++ ⟨sock, handler⟩ :: after)
      (live : handler.phase.live = true)
      (advanced : (handler.phase.advance server handler.host handler.connection).result =
        .ok next) :
      SocketStep server closeWakes state { state with
        clients := before ++ ⟨sock, { handler with
          phase := next
          performed := handler.performed ++
            (handler.phase.advance server handler.host handler.connection).events }⟩ :: after
        ledger := state.ledger ++
          closes sock (handler.phase.advance server handler.host handler.connection).events }
  | callStop {state : TcpSockets} (idle : state.owner = .idle) :
      SocketStep server closeWakes state (state.stop .stopping)
  | stopReturns {state : TcpSockets} (stopping : state.owner = .stopping)
      (joinable : state.acceptor = .absent ∨ state.acceptor = .exited) :
      SocketStep server closeWakes state { state with acceptor := .absent, owner := .idle }
  | callDestructor {state : TcpSockets} (idle : state.owner = .idle) :
      SocketStep server closeWakes state (state.stop .destroying)
  | destructorReturns {state : TcpSockets} (destroying : state.owner = .destroying)
      (joinable : state.acceptor = .absent ∨ state.acceptor = .exited) :
      SocketStep server closeWakes state { state with acceptor := .absent, owner := .destroyed }

/-- Some run of the object leads from one state to the other. -/
def SocketRun (server : TcpServer) (closeWakes : Bool) : TcpSockets → TcpSockets → Prop :=
  Relation.ReflTransGen (SocketStep server closeWakes)

section Runs

variable {server : TcpServer} {closeWakes : Bool} {state next : TcpSockets}

/-! ### A run is a run of the object's life -/

/-- Without its descriptors, a step is one of the object's life. -/
theorem SocketStep.life (step : SocketStep server closeWakes state next) :
    LifeStep server closeWakes state.life next.life := by
  cases step with
  | startSucceeds idle unused => exact LifeStep.startSucceeds idle unused
  | startGetsNoSocket idle | startFails idle => exact LifeStep.startFails idle
  | callAccept checking running => exact LifeStep.callAccept checking running
  | acceptFails accepting fails => exact LifeStep.acceptFails accepting fails
  | acceptAborts accepting waited => exact LifeStep.acceptAborts accepting waited
  | acceptReturns accepting waited unopened host connection =>
    simp only [TcpSockets.life, List.map_append]
    exact @LifeStep.acceptReturns server closeWakes state.life _ accepting waited host connection
  | leaveLoop checking stopped => exact LifeStep.leaveLoop checking stopped
  | @handle before after sock handler phase split live advanced =>
    have handlers : state.life.handlers =
        before.map Client.handler ++ handler :: after.map Client.handler := by
      rw [TcpSockets.life, split, List.map_append, List.map_cons]
    simp only [TcpSockets.life, List.map_append, List.map_cons]
    exact @LifeStep.handle server closeWakes state.life _ _ _ _ handlers live advanced
  | callStop idle => exact LifeStep.callStop idle
  | stopReturns stopping joinable => exact LifeStep.stopReturns stopping joinable
  | callDestructor idle => exact LifeStep.callDestructor idle
  | destructorReturns destroying joinable => exact LifeStep.destructorReturns destroying joinable

theorem SocketRun.life (run : SocketRun server closeWakes state next) :
    LifeRun server closeWakes state.life next.life := by
  induction run with
  | refl => exact Relation.ReflTransGen.refl
  | tail _ step inductionHypothesis => exact inductionHypothesis.tail step.life

/-! ### What is open -/

/-- A handler closes its socket in the step it ends with, and in no other. -/
theorem count_close_advance {phase after : Phase} {host : Host} {connection : Connection}
    (live : phase.live = true)
    (advanced : (phase.advance server host connection).result = .ok after) :
    (phase.advance server host connection).events.count .close = if after.live then 0 else 1 := by
  cases phase with
  | readingHeader state =>
    rw [Phase.advance] at advanced ⊢
    cases stepped : headerLoop.step state with
    | inl next =>
      rw [stepped] at advanced
      cases advanced
      rfl
    | inr read =>
      rw [stepped] at advanced
      cases read with
      | blocked => cases advanced
      | failed =>
        cases advanced
        rfl
      | found headerStr overflow inbound =>
        dsimp only at advanced ⊢
        cases parsed : parseFileHeader headerStr with
        | error fault =>
          rw [parsed] at advanced
          cases advanced
        | ok header =>
          rw [parsed] at advanced
          cases header <;> cases advanced <;> rfl
  | makingDirectory header overflow inbound =>
    rw [Phase.advance] at advanced ⊢
    cases reserved : vectorReserve host.allocates header.size.toNat with
    | error fault =>
      rw [reserved] at advanced
      cases advanced
    | ok done =>
      rw [reserved] at advanced
      cases advanced
      rfl
  | readingPayload header state =>
    rw [Phase.advance] at advanced ⊢
    cases stepped : (payloadLoop header.size.toNat).step state with
    | inl next =>
      rw [stepped] at advanced
      cases advanced
      rfl
    | inr read =>
      rw [stepped] at advanced
      cases read <;> cases advanced
      rfl
  | decoding header payload =>
    rw [Phase.advance] at advanced ⊢
    cases decodes : plaintextOf server host header payload with
    | error fault =>
      rw [decodes] at advanced
      cases advanced
    | ok plaintext =>
      rw [decodes] at advanced
      cases plaintext <;> cases advanced <;> rfl
  | saving header data =>
    rw [Phase.advance] at advanced ⊢
    cases written : (writeFile host.storage server.receiveDir header.filename data).result with
    | error reason =>
      rw [Act.result_bind_of_error written] at advanced
      cases advanced
    | ok saved =>
      rw [Act.result_bind_of_ok written] at advanced
      cases advanced
      rw [Act.events_bind_of_ok written, List.count_append,
        List.count_eq_zero.mpr (close_notMem_writeFile _ _ _ _)]
      rfl
  | responding ok =>
    rw [Phase.advance] at advanced ⊢
    cases broken : connection.brokenPipe with
    | true =>
      rw [broken] at advanced
      cases advanced
    | false =>
      rw [broken] at advanced
      cases advanced
      rfl
  | reporting ok =>
    cases advanced
    rfl
  | ended => cases live

/-- The sockets of the live handlers. -/
def liveSockets (clients : List Client) : List Descriptor :=
  (clients.filter fun client => client.handler.phase.live).map Client.sock

/-- The descriptors that are open: the overwritten ones, the listening socket, and the sockets of
the live handlers. -/
def TcpSockets.opened (state : TcpSockets) : List Descriptor :=
  state.overwritten ++ state.listenSock.toList ++ liveSockets state.clients

theorem liveSockets_append (clients more : List Client) :
    liveSockets (clients ++ more) = liveSockets clients ++ liveSockets more := by
  rw [liveSockets, List.filter_append, List.map_append]
  rfl

theorem liveSockets_cons (client : Client) (clients : List Client) :
    liveSockets (client :: clients) =
      if client.handler.phase.live then client.sock :: liveSockets clients
      else liveSockets clients := by
  rw [liveSockets, List.filter_cons]
  split <;> rfl

/-- Closing a member that is on top of what is open. -/
theorem accounts_sockClose {ledger : List (Entry Descriptor)} {sock : Option Descriptor}
    {others : List Descriptor} (accounts : Accounts ledger (sock.toList ++ others)) :
    Accounts (sockClose ledger sock) others := by
  cases sock with
  | none => exact accounts
  | some descriptor => exact accounts.release

/-- `stop` closes the listening socket. -/
theorem accounts_stop (accounts : Accounts state.ledger state.opened) (owner : Owner) :
    Accounts (state.stop owner).ledger (state.stop owner).opened := by
  have front : state.opened.Perm
      (state.listenSock.toList ++ (state.overwritten ++ liveSockets state.clients)) := by
    rw [TcpSockets.opened, ← List.append_assoc]
    exact List.perm_append_comm.append_right _
  have closed := accounts_sockClose (accounts.perm front)
  rw [TcpSockets.opened]
  show Accounts _ (state.overwritten ++ [] ++ liveSockets state.clients)
  rw [List.append_nil]
  exact closed

/-- A descriptor that `start` overwrites stays open. -/
theorem opened_assign (sock : Option Descriptor) :
    (state.assign sock).opened.Perm (sock.toList ++ state.opened) := by
  rw [TcpSockets.opened, TcpSockets.opened]
  show (state.overwritten ++ state.listenSock.toList ++ sock.toList ++
    liveSockets state.clients).Perm _
  rw [← List.append_assoc sock.toList]
  exact List.perm_append_comm.append_right _

/-- Every step keeps the account: a socket is closed by the one who has it, while it is open. -/
theorem SocketStep.accounts (step : SocketStep server closeWakes state next)
    (accounts : Accounts state.ledger state.opened) : Accounts next.ledger next.opened := by
  cases step with
  | @startSucceeds sock idle unused unopened =>
    exact (accounts.acquire unopened).perm (opened_assign (some sock)).symm
  | startGetsNoSocket => exact accounts.perm (opened_assign none).symm
  | startFails idle unopened =>
    exact ((accounts.acquire unopened).release).perm (opened_assign none).symm
  | @acceptReturns socket sock accepting waited unopened host connection =>
    refine (accounts.acquire unopened).perm ?_
    rw [TcpSockets.opened, TcpSockets.opened, liveSockets_append, ← List.append_assoc]
    exact (List.perm_append_singleton sock _).symm
  | @handle before after sock handler phase split live advanced =>
    have front : state.opened = (state.overwritten ++ state.listenSock.toList ++
        liveSockets before) ++ sock :: liveSockets after := by
      rw [TcpSockets.opened, split, liveSockets_append, liveSockets_cons, if_pos live,
        List.append_assoc, List.append_assoc, List.append_assoc]
    rw [front] at accounts
    rw [closes, count_close_advance live advanced, TcpSockets.opened]
    show Accounts _ (state.overwritten ++ state.listenSock.toList ++
      liveSockets (before ++ Client.mk sock _ :: after))
    rw [liveSockets_append, liveSockets_cons, ← List.append_assoc]
    show Accounts _ (_ ++ if phase.live then sock :: liveSockets after else liveSockets after)
    cases ended : phase.live with
    | true =>
      rw [if_pos rfl, if_pos rfl]
      show Accounts (state.ledger ++ []) _
      rw [List.append_nil]
      exact accounts
    | false =>
      rw [if_neg Bool.false_ne_true, if_neg Bool.false_ne_true]
      exact (accounts.perm List.perm_middle).release
  | callStop => exact accounts_stop accounts _
  | callDestructor => exact accounts_stop accounts _
  | callAccept | acceptFails | acceptAborts | leaveLoop | stopReturns | destructorReturns =>
    exact accounts

theorem SocketRun.accounts (run : SocketRun server closeWakes .constructed state) :
    Accounts state.ledger state.opened := by
  induction run with
  | refl => exact accounts_nil
  | tail _ step inductionHypothesis => exact step.accounts inductionHypothesis

/-- Inside of `stop` and of the destructor, and after it, there is no listening socket. -/
def TcpSockets.Shut (state : TcpSockets) : Prop :=
  state.owner ≠ .idle → state.listenSock = none

theorem SocketStep.shut (step : SocketStep server closeWakes state next) (shut : state.Shut) :
    next.Shut := by
  intro busy
  cases step with
  | startSucceeds idle | startGetsNoSocket idle | startFails idle => exact absurd idle busy
  | callStop | callDestructor => rfl
  | stopReturns => exact absurd rfl busy
  | destructorReturns destroying => exact shut (by rw [destroying]; nofun)
  | _ => exact shut busy

theorem SocketRun.shut (run : SocketRun server closeWakes .constructed state) : state.Shut := by
  induction run with
  | refl => exact fun _ => rfl
  | tail _ step inductionHypothesis => exact step.shut inductionHypothesis

theorem mem_liveSockets {sock : Descriptor} {clients : List Client} :
    sock ∈ liveSockets clients ↔
      ∃ client ∈ clients, client.handler.phase.live = true ∧ client.sock = sock := by
  simp only [liveSockets, List.mem_map, List.mem_filter, and_assoc]

/-- In every run, whatever the order of the steps, no descriptor is closed while it is not open;
what is open is the listening socket, the sockets of the live handlers and what a later `start` has
overwritten; and once the object is destroyed and its handlers have ended, every descriptor was
closed as often as it was opened, except those that were overwritten. -/
theorem sockets_of_run (run : SocketRun server closeWakes .constructed state) :
    Disciplined state.ledger ∧
      (∀ sock, sock ∈ held state.ledger ↔ sock ∈ state.overwritten ∨
        state.listenSock = some sock ∨
        ∃ client ∈ state.clients, client.handler.phase.live = true ∧ client.sock = sock) ∧
      (state.owner = .destroyed →
        (∀ client ∈ state.clients, client.handler.phase.live = false) →
        ∀ sock, state.ledger.count (.acquired sock) =
          state.ledger.count (.released sock) + if sock ∈ state.overwritten then 1 else 0) := by
  have accounts := SocketRun.accounts run
  have opens : ∀ sock, sock ∈ held state.ledger ↔ sock ∈ state.overwritten ∨
      state.listenSock = some sock ∨
      ∃ client ∈ state.clients, client.handler.phase.live = true ∧ client.sock = sock := by
    intro sock
    rw [accounts.members, TcpSockets.opened, List.mem_append, List.mem_append, Option.mem_toList,
      mem_liveSockets, or_assoc]
  refine ⟨accounts.disciplined, opens, fun destroyed ended sock => ?_⟩
  have shut : state.listenSock = none := SocketRun.shut run (by rw [destroyed]; nofun)
  have only : sock ∈ held state.ledger ↔ sock ∈ state.overwritten := by
    rw [opens, shut]
    constructor
    · rintro (lost | same | ⟨client, member, live, -⟩)
      · exact lost
      · cases same
      · rw [ended client member] at live
        cases live
    · exact Or.inl
  rw [count_acquired accounts.fresh accounts.disciplined]
  simp only [only]

end Runs

/-- A peer connects and hangs up, and the object is destroyed. -/
def hungUpSockets : TcpSockets where
  running := false
  listenSock := none
  acceptor := .absent
  owner := .destroyed
  clients := [⟨4, ⟨.healthy, closedAfter [], .ended, [.close]⟩⟩]
  overwritten := []
  ledger := [.acquired 3, .acquired 4, .released 4, .released 3]

theorem run_hungUpSockets : SocketRun sampleServer false .constructed hungUpSockets := by
  have accepts : SocketRun sampleServer false .constructed
      { TcpSockets.constructed with
        running := true
        listenSock := some 3
        acceptor := .checking
        clients := [⟨4, .spawned .healthy (closedAfter [])⟩]
        ledger := [.acquired 3, .acquired 4] } :=
    ((Relation.ReflTransGen.single (SocketStep.startSucceeds rfl rfl (by decide))).tail
      (SocketStep.callAccept rfl rfl)).tail
        (@SocketStep.acceptReturns sampleServer false _ .openSocket 4 rfl nofun (by decide)
          .healthy (closedAfter []))
  have hangsUp := accepts.tail (@SocketStep.handle sampleServer false _ [] [] 4
    (.spawned .healthy (closedAfter [])) .ended rfl rfl rfl)
  exact ((hangsUp.tail (SocketStep.callDestructor rfl)).tail
    (SocketStep.leaveLoop rfl rfl)).tail (SocketStep.destructorReturns rfl (Or.inr rfl))

theorem sockets_hungUpSockets : Disciplined hungUpSockets.ledger ∧
    hungUpSockets.ledger.count (.acquired 3) = hungUpSockets.ledger.count (.released 3) := by
  obtain ⟨disciplined, -, closed⟩ := sockets_of_run run_hungUpSockets
  refine ⟨disciplined, closed rfl (fun client member => ?_) 3⟩
  rw [List.mem_singleton.mp member]
  rfl

end UniversalAirdrop
