/-
This file puts the sessions of several machines on one network: every machine
runs a command of the command line or the receiver of the window, whose discovery
announces and listens while it runs, and whose server is bound while it runs.

Forgetting the servers gives the network of devices, and forgetting the network
gives the session of each machine. What is known of the two is put together here:
where the endpoints in a table lead to.
-/

import UniversalAirdrop.Lan
import UniversalAirdrop.Sessions

namespace UniversalAirdrop

open Medium FirstSeen

/-! ### Machines with sessions -/

/-- Only `cmd_discover` sets a callback. -/
def Session.hasCallback : Session → Bool
  | .cmdDiscover _ => true
  | .cmdReceive _ => false
  | .receiveWorker _ => false

/-- Machines with their sessions, how their system calls end, and their addresses. -/
structure Neighbourhood (Machine : Type) where
  session : Machine → Session
  sockets : Machine → Sockets
  address : Machine → Bytes

/-- The devices that the machines are to each other. -/
def Neighbourhood.lan {Machine : Type} (hood : Neighbourhood Machine) : Lan Machine where
  name machine := (hood.session machine).discovery.deviceName
  target machine := (hood.sockets machine).target
  tcpPort machine := (hood.session machine).discovery.tcpPort
  address := hood.address
  hasCallback machine := (hood.session machine).hasCallback

/-- What is announced on the network is what the session sends. -/
theorem Neighbourhood.announcement_eq {Machine : Type} (hood : Neighbourhood Machine)
    (machine : Machine) :
    hood.lan.announcement machine =
      ⟨(hood.session machine).payload (hood.sockets machine), hood.address machine⟩ := rfl

/-- Where every session is, and the network. -/
structure World (Machine : Type) where
  session : Machine → SessionState
  network : Medium.Network Machine Datagram Listener

/-- All sessions before their first call. -/
def Neighbourhood.start {Machine : Type} (hood : Neighbourhood Machine) : World Machine where
  session machine := (hood.session machine).start (hood.sockets machine)
  network := hood.lan.protocol.start

/-- A session after its `broadcast_loop` has sent. -/
def Session.announce (session : Session) (sockets : Sockets) (state : SessionState) :
    SessionState :=
  { state with sent :=
    state.sent ++ [⟨session.payload sockets, session.discovery.udpPort, state.bound⟩] }

/-- A session makes its next call, or its `broadcast_loop` sends, or its `listen_loop` takes a
datagram, or there is other traffic. All sessions have the same UDP port. A machine whose process
has ended does nothing. -/
inductive WorldStep {Machine : Type} [DecidableEq Machine] (hood : Neighbourhood Machine)
    (foreign : Datagram → Prop) : World Machine → World Machine → Prop
  | call {world : World Machine} {machine : Machine} {next : SessionState} {command : Command}
      {rest : List Command} (present : world.network.node machine ≠ none)
      (todo : (world.session machine).todo = command :: rest)
      (performs : (hood.session machine).perform (hood.sockets machine)
        { world.session machine with todo := rest } command = next) :
      WorldStep hood foreign world
        { session := Function.update world.session machine next
          network := world.network.turn machine next.broadcasting }
  | broadcast {world : World Machine} {machine : Machine}
      (present : world.network.node machine ≠ none)
      (broadcasting : (world.session machine).broadcasting = true) :
      WorldStep hood foreign world
        { session := Function.update world.session machine
            ((hood.session machine).announce (hood.sockets machine) (world.session machine))
          network := world.network.carry
            ⟨(hood.session machine).payload (hood.sockets machine), hood.address machine⟩ }
  | hear {world : World Machine} {machine : Machine} {state : Listener} {datagram : Datagram}
      (present : world.network.node machine = some state)
      (listening : (world.session machine).broadcasting = true)
      (there : datagram ∈ world.network.carried) :
      WorldStep hood foreign world { world with
        network := world.network.hear machine datagram
          (hood.lan.protocol.receive machine state datagram) }
  | intrude {world : World Machine} {datagram : Datagram} (outside : foreign datagram) :
      WorldStep hood foreign world { world with network := world.network.carry datagram }

/-- What the world can become. -/
def WorldRun {Machine : Type} [DecidableEq Machine] (hood : Neighbourhood Machine)
    (foreign : Datagram → Prop) : World Machine → World Machine → Prop :=
  Relation.ReflTransGen (WorldStep hood foreign)

/-! ### The network and the sessions of a world -/

/-- A machine is up on the network while its discovery runs, the network is one that the devices
can reach, and every session is where it can be. -/
structure World.Composed {Machine : Type} [DecidableEq Machine] (hood : Neighbourhood Machine)
    (foreign : Datagram → Prop) (world : World Machine) : Prop where
  up : ∀ machine, world.network.up machine = (world.session machine).broadcasting
  network : Run hood.lan.protocol foreign hood.lan.protocol.start world.network
  session : ∀ machine,
    (hood.session machine).Reachable (hood.sockets machine) (world.session machine)

section Worlds

variable {Machine : Type} [DecidableEq Machine] {hood : Neighbourhood Machine}
  {foreign : Datagram → Prop} {world next : World Machine}

theorem composed_start : hood.start.Composed hood foreign where
  up _ := rfl
  network := Relation.ReflTransGen.refl
  session _ := Relation.ReflTransGen.refl

/-- A session that takes a step leaves the others where they are. -/
theorem reachable_update
    (reachable : ∀ machine,
      (hood.session machine).Reachable (hood.sockets machine) (world.session machine))
    {machine : Machine} {state : SessionState}
    (step : SessionStep (hood.session machine) (hood.sockets machine) (world.session machine) state)
    (other : Machine) :
    (hood.session other).Reachable (hood.sockets other)
      (Function.update world.session machine state other) := by
  by_cases same : other = machine
  · subst same
    rw [Function.update_self]
    exact (reachable other).tail step
  · rw [Function.update_of_ne same]
    exact reachable other

theorem WorldStep.composed (step : WorldStep hood foreign world next)
    (composed : world.Composed hood foreign) : next.Composed hood foreign := by
  obtain ⟨up, network, session⟩ := composed
  cases step with
  | @call machine state command rest present todo performs =>
    refine ⟨fun other => ?_, network.tail (Step.turn machine _), reachable_update session ?_⟩
    · show Function.update world.network.up machine state.broadcasting other =
        (Function.update world.session machine state other).broadcasting
      by_cases same : other = machine
      · subst same
        rw [Function.update_self, Function.update_self]
      · rw [Function.update_of_ne same, Function.update_of_ne same]
        exact up other
    · rw [← performs]
      exact SessionStep.call todo
  | @broadcast machine present broadcasting =>
    refine ⟨fun other => ?_, ?_, reachable_update session (SessionStep.broadcast broadcasting)⟩
    · show world.network.up other = (Function.update world.session machine
        ((hood.session machine).announce (hood.sockets machine) (world.session machine))
          other).broadcasting
      by_cases same : other = machine
      · subst same
        rw [Function.update_self]
        exact up other
      · rw [Function.update_of_ne same]
        exact up other
    · rw [← hood.announcement_eq]
      exact network.tail (Step.send present ((up machine).trans broadcasting))
  | @hear machine state datagram present listening there =>
    exact ⟨up, network.tail (Step.hear present ((up machine).trans listening) there), session⟩
  | intrude outside => exact ⟨up, network.tail (Step.intrude outside), session⟩

/-- Every world that can be reached is a network that the devices can reach, with sessions that are
where they can be. -/
theorem composed_of_run (run : WorldRun hood foreign hood.start world) :
    world.Composed hood foreign := by
  induction run with
  | refl => exact composed_start
  | tail _ step inductionHypothesis => exact step.composed inductionHypothesis

/-! ### Where the endpoints of a table lead to -/

omit [DecidableEq Machine] in
/-- Every session announces the default port. -/
theorem tcpPort_info (hood : Neighbourhood Machine) (machine : Machine) :
    (hood.lan.info machine).tcpPort = defaultTcpPort := by
  show (hood.session machine).discovery.tcpPort = defaultTcpPort
  cases hood.session machine <;> rfl

/-- In every world that can be reached, an entry of a table with the address of a machine is a
machine of another device name, as it announced itself. Whenever from then on that machine has a
server, the entry is where the server listens exactly if it is bound to the default port. -/
theorem endpoint_of_entry (tame : hood.lan.Tame foreign)
    (run : WorldRun hood foreign hood.start world) {machine place : Machine} {listener : Listener}
    (present : world.network.node machine = some listener) {entry : DeviceInfo}
    (member : entry ∈ listener.devices) (address : entry.ip = hood.address place) :
    ∃ owner, entry = hood.lan.info owner ∧ hood.lan.name owner ≠ hood.lan.name machine ∧
      ∀ later, WorldRun hood foreign world later → ∀ port,
        (later.session owner).bound = some port →
          (port = entry.tcpPort ↔
            (hood.session owner).server.boundPort (hood.sockets owner) = defaultTcpPort) := by
  have sound := Run.sound (composed_of_run run).network sound_start
  obtain ⟨reached, there, -, devices⟩ := tame.exists_listener sound machine
  cases present.symm.trans there
  rw [devices] at member
  have first := List.mem_of_find?_eq_some (find?_of_mem_firstSeen _ member)
  obtain ⟨owner, rfl, different, -⟩ := tame.exists_of_heard sound first address
  refine ⟨owner, rfl, different, fun later more port bound => ?_⟩
  rw [tcpPort_info]
  obtain unbound | listens := bound_of_reachable
    ((composed_of_run (run.trans more)).session owner)
  · rw [unbound] at bound
    cases bound
  · rw [listens, Option.some.injEq] at bound
    rw [bound]

/-- The world after the next call of a machine. -/
theorem called {first : World Machine} (run : WorldRun hood foreign first world)
    (machine : Machine) (command : Command) (rest : List Command)
    (present : world.network.node machine ≠ none)
    (todo : (world.session machine).todo = command :: rest) :
    WorldRun hood foreign first
      { session := Function.update world.session machine
          ((hood.session machine).perform (hood.sockets machine)
            { world.session machine with todo := rest } command)
        network := world.network.turn machine
          ((hood.session machine).perform (hood.sockets machine)
            { world.session machine with todo := rest } command).broadcasting } :=
  run.tail (WorldStep.call present todo rfl)

/-- A machine whose discovery runs can come to hear another one whose discovery runs. -/
theorem exists_hearing (tame : hood.lan.Tame foreign)
    (run : WorldRun hood foreign hood.start world) {machine other : Machine}
    (listening : (world.session machine).broadcasting = true)
    (announcing : (world.session other).broadcasting = true) :
    ∃ next, WorldRun hood foreign world next ∧
      (∀ place, (next.session place).broadcasting = (world.session place).broadcasting ∧
        (next.session place).bound = (world.session place).bound) ∧
      (∀ place, world.network.heard place ⊆ next.network.heard place) ∧
      hood.lan.announcement other ∈ next.network.heard machine := by
  have whole := Run.whole (composed_of_run run).network tame.harmless sound_start whole_start
  obtain ⟨state, present⟩ := Option.ne_none_iff_exists'.mp (whole machine)
  let sent : World Machine :=
    { session := Function.update world.session other
        ((hood.session other).announce (hood.sockets other) (world.session other))
      network := world.network.carry (hood.lan.announcement other) }
  have sends : WorldStep hood foreign world sent := WorldStep.broadcast (whole other) announcing
  have same (place : Machine) :
      (sent.session place).broadcasting = (world.session place).broadcasting ∧
        (sent.session place).bound = (world.session place).bound := by
    show (Function.update world.session other _ place).broadcasting = _ ∧
      (Function.update world.session other _ place).bound = _
    by_cases here : place = other
    · subst here
      rw [Function.update_self]
      exact ⟨rfl, rfl⟩
    · rw [Function.update_of_ne here]
      exact ⟨rfl, rfl⟩
  have hears : WorldStep hood foreign sent _ := WorldStep.hear present
    ((same machine).1.trans listening) (List.mem_append_right _ (List.mem_singleton_self _))
  refine ⟨_, (Relation.ReflTransGen.single sends).tail hears, same, fun place => ?_, ?_⟩
  · show world.network.heard place ⊆ (Medium.Network.hear sent.network machine _ _).heard place
    by_cases here : place = machine
    · subst here
      rw [Medium.Network.hear_heard]
      exact List.subset_append_left _ _
    · rw [Medium.Network.hear_heard_of_ne _ _ _ _ here]
      exact List.Subset.refl _
  · show _ ∈ (Medium.Network.hear sent.network machine _ _).heard machine
    rw [Medium.Network.hear_heard]
    exact List.mem_append_right _ (List.mem_singleton_self _)

/-- Two machines of different device names whose discoveries run can come to have each other in
their tables. -/
theorem exists_meeting (tame : hood.lan.Tame foreign)
    (run : WorldRun hood foreign hood.start world) {machine other : Machine}
    (different : hood.lan.name other ≠ hood.lan.name machine)
    (running : (world.session machine).broadcasting = true)
    (runningToo : (world.session other).broadcasting = true) :
    ∃ next listener listenerToo, WorldRun hood foreign world next ∧
      next.network.node machine = some listener ∧ hood.lan.info other ∈ listener.devices ∧
      next.network.node other = some listenerToo ∧
        hood.lan.info machine ∈ listenerToo.devices := by
  obtain ⟨middle, first, same, -, heard⟩ := exists_hearing tame run running runningToo
  obtain ⟨next, second, -, keeps, heardToo⟩ := exists_hearing tame (run.trans first)
    ((same other).1.trans runningToo) ((same machine).1.trans running)
  have reached := run.trans (first.trans second)
  have sound := Run.sound (composed_of_run reached).network sound_start
  obtain ⟨listener, there, -, devices⟩ := tame.exists_listener sound machine
  obtain ⟨listenerToo, thereToo, -, devicesToo⟩ := tame.exists_listener sound other
  refine ⟨next, listener, listenerToo, first.trans second, there, ?_, thereToo, ?_⟩
  · rw [devices]
    exact (tame.info_mem_iff sound machine other).mpr ⟨different, keeps machine heard⟩
  · rw [devicesToo]
    exact (tame.info_mem_iff sound other machine).mpr ⟨Ne.symm different, heardToo⟩

end Worlds

/-- A machine that discovers and one that receives on the default port. -/
def finderAndReceiver : Neighbourhood Bool where
  session machine := if machine then .cmdDiscover (ascii "pc") else .cmdReceive 9090
  sockets _ := openSockets
  address machine := if machine then ascii "10.0.0.2" else ascii "10.0.0.3"

theorem tame_finderAndReceiver : finderAndReceiver.lan.Tame fun _ => False where
  plain machine := by cases machine <;> decide
  fits machine := by cases machine <;> decide +kernel
  distinct machine other name := by
    revert name
    cases machine <;> cases other <;> decide
  converts _ outside := outside.elim
  elsewhere _ outside := outside.elim

/-- Both have made their first calls. -/
theorem exists_running : ∃ world,
    WorldRun finderAndReceiver (fun _ => False) finderAndReceiver.start world ∧
      (world.session true).broadcasting = true ∧ (world.session false).broadcasting = true ∧
      (world.session false).bound = some 9090 := by
  have nothing : WorldRun finderAndReceiver (fun _ => False) finderAndReceiver.start _ :=
    Relation.ReflTransGen.refl
  have server := called nothing false _ _ (Option.some_ne_none _) rfl
  have receiver := called server false _ _ (Option.some_ne_none _) rfl
  have finder := called receiver true _ _ (Option.some_ne_none _) rfl
  exact ⟨_, finder, rfl, rfl, rfl⟩

theorem meeting_finderAndReceiver : ∃ world listener listenerToo,
    WorldRun finderAndReceiver (fun _ => False) finderAndReceiver.start world ∧
      world.network.node true = some listener ∧
      finderAndReceiver.lan.info false ∈ listener.devices ∧
      world.network.node false = some listenerToo ∧
      finderAndReceiver.lan.info true ∈ listenerToo.devices := by
  obtain ⟨world, run, finder, receiver, -⟩ := exists_running
  obtain ⟨next, listener, listenerToo, more, tables⟩ :=
    exists_meeting tame_finderAndReceiver run (by decide) finder receiver
  exact ⟨next, listener, listenerToo, run.trans more, tables⟩

theorem endpoint_finderAndReceiver : ∃ world listener,
    WorldRun finderAndReceiver (fun _ => False) finderAndReceiver.start world ∧
      world.network.node true = some listener ∧
      ∃ entry ∈ listener.devices, (world.session false).bound = some entry.tcpPort := by
  obtain ⟨world, run, finder, receiver, bound⟩ := exists_running
  obtain ⟨next, more, same, -, heard⟩ := exists_hearing tame_finderAndReceiver run finder receiver
  have reached := run.trans more
  have sound := Run.sound (composed_of_run reached).network sound_start
  obtain ⟨listener, there, -, devices⟩ := tame_finderAndReceiver.exists_listener sound true
  have member : finderAndReceiver.lan.info false ∈ listener.devices := by
    rw [devices]
    exact (tame_finderAndReceiver.info_mem_iff sound true false).mpr ⟨by decide, heard⟩
  refine ⟨next, listener, reached, there, _, member, ?_⟩
  have listens := (same false).2.trans bound
  have address : (finderAndReceiver.lan.info false).ip = finderAndReceiver.address false := rfl
  obtain ⟨owner, entry, different, endpoint⟩ :=
    endpoint_of_entry tame_finderAndReceiver reached there member address
  cases owner with
  | true => exact absurd rfl different
  | false =>
    have port := (endpoint next Relation.ReflTransGen.refl 9090 listens).mpr rfl
    rw [listens, port]

end UniversalAirdrop
