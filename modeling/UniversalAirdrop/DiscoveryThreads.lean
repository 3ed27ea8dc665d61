/-
This file models the threads of a `UdpDiscovery`: the owner, who calls `start`,
`stop` and `get_devices`, and the listen thread, which share the table under
`devices_mutex_`. It proves what the owner can see of the table while the listen
thread is at work, and when a call of `stop` can return.

The listen thread searches, appends and calls the callback in three steps. The
owner never sees the table between them: every copy is the table of a prefix of
the datagrams that have arrived, and every device in it has been reported.

`stop` closes the listen socket and joins the listen thread. Where closing a
socket does not wake a thread that waits in `recvfrom` on it, `stop` does not
return before another datagram comes.
-/

import UniversalAirdrop.UdpDiscovery
import UniversalAirdrop.Library.Locking
import Mathlib.Logic.Relation

namespace UniversalAirdrop

open Locking FirstSeen

/-! ### What the mutex protects -/

/-- The table with the calls of the callback, whether the listen thread has found its device in
the table, and what `get_devices` has returned. -/
structure Shared where
  listener : Listener
  known : Bool
  copies : List (List DeviceInfo)
  deriving DecidableEq, Repr

def Shared.empty : Shared where
  listener := .empty
  known := false
  copies := []

/-- The loop over the table. -/
def Shared.search (device : DeviceInfo) (shared : Shared) : Shared :=
  { shared with known := UniversalAirdrop.known shared.listener.devices device }

/-- Append the device unless it is known. -/
def Shared.append (device : DeviceInfo) (shared : Shared) : Shared :=
  if shared.known then shared
  else { shared with listener :=
    { shared.listener with devices := shared.listener.devices ++ [device] } }

/-- Call the callback, if there is one, unless the device is known. -/
def Shared.report (discovery : UdpDiscovery) (device : DeviceInfo) (shared : Shared) : Shared :=
  if shared.known ∨ discovery.hasCallback = false then shared
  else { shared with listener :=
    { shared.listener with found := shared.listener.found ++ [device] } }

/-- Copy the table. -/
def Shared.copy (shared : Shared) : Shared :=
  { shared with copies := shared.copies ++ [shared.listener.devices] }

/-- The blocks that hold the mutex: the one of `listen_loop`, and `get_devices`. -/
inductive TableOperation
  | learn (device : DeviceInfo)
  | getDevices
  deriving DecidableEq, Repr

def TableOperation.steps (discovery : UdpDiscovery) : TableOperation → List (Shared → Shared)
  | .learn device => [.search device, .append device, .report discovery device]
  | .getDevices => [.copy]

/-- The devices that a sequence of operations was about. -/
def learned (operations : List TableOperation) : List DeviceInfo :=
  operations.filterMap fun
    | .learn device => some device
    | .getDevices => none

/-- The table after some devices were announced. -/
def tableOf (discovery : UdpDiscovery) (devices : List DeviceInfo) : Listener :=
  devices.foldl (fun state device => state.learn discovery device) .empty

section Operations

variable {discovery : UdpDiscovery}

/-- The block of the loop learns the device, as one step does in `listenStep`. -/
theorem perform_learn (shared : Shared) {device : DeviceInfo}
    (other : device.name ≠ discovery.deviceName) :
    (Mutex.perform (TableOperation.steps discovery) shared (.learn device)).listener =
        shared.listener.learn discovery device ∧
      (Mutex.perform (TableOperation.steps discovery) shared (.learn device)).copies =
        shared.copies := by
  have block : Mutex.perform (TableOperation.steps discovery) shared (.learn device) =
      ((shared.search device).append device).report discovery device := rfl
  rw [block, Listener.learn, Shared.append, Shared.search]
  cases seen : UniversalAirdrop.known shared.listener.devices device with
  | true => exact ⟨by rw [if_pos (Or.inr rfl)]; rfl, rfl⟩
  | false =>
    rw [if_neg (not_or.mpr ⟨other, Bool.false_ne_true⟩)]
    cases callback : discovery.hasCallback with
    | true => exact ⟨by simp [Shared.report, callback], by simp [Shared.report, callback]⟩
    | false => exact ⟨by simp [Shared.report, callback], by simp [Shared.report, callback]⟩

theorem tableOf_concat (devices : List DeviceInfo) (device : DeviceInfo) :
    tableOf discovery (devices ++ [device]) =
      (tableOf discovery devices).learn discovery device := List.foldl_concat _ _ _ _

/-- What operations have made of what they share: the table of the devices they were about, and
copies that are tables of fewer of them, in their order. -/
structure Shared.Of (discovery : UdpDiscovery) (operations : List TableOperation)
    (shared : Shared) : Prop where
  listener : shared.listener = tableOf discovery (learned operations)
  copied : ∀ copy ∈ shared.copies, ∃ earlier, earlier <+: learned operations ∧
    copy = (tableOf discovery earlier).devices
  current : ∀ copy ∈ shared.copies, copy <+: shared.listener.devices
  ordered : shared.copies.Pairwise (· <+: ·)

theorem shared_of_foldl {operations : List TableOperation}
    (others : ∀ device ∈ learned operations, device.name ≠ discovery.deviceName) :
    (operations.foldl (Mutex.perform (TableOperation.steps discovery)) .empty).Of discovery
      operations := by
  induction operations using List.reverseRecOn with
  | nil => exact ⟨rfl, nofun, nofun, List.Pairwise.nil⟩
  | append_singleton before last inductionHypothesis =>
    have split : learned (before ++ [last]) = learned before ++ learned [last] :=
      List.filterMap_append
    rw [split] at others
    obtain ⟨listener, copied, current, ordered⟩ := inductionHypothesis fun device member =>
      others device (List.mem_append_left _ member)
    rw [List.foldl_concat]
    cases last with
    | learn device =>
      have other := others device (List.mem_append_right _ List.mem_cons_self)
      obtain ⟨learns, same⟩ := perform_learn
        (before.foldl (Mutex.perform (TableOperation.steps discovery)) .empty) other
      refine ⟨?_, fun copy member => ?_, fun copy member => ?_, by rwa [same]⟩
      · rw [learns, listener, split, ← tableOf_concat]
        rfl
      · rw [same] at member
        obtain ⟨earlier, begins, table⟩ := copied copy member
        exact ⟨earlier, begins.trans (split ▸ List.prefix_append _ _), table⟩
      · rw [same] at member
        rw [learns]
        exact (current copy member).trans (devices_prefix_learn _ _ _)
    | getDevices =>
      have none : learned (before ++ [TableOperation.getDevices]) = learned before := by
        rw [split]
        exact List.append_nil _
      generalize before.foldl (Mutex.perform (TableOperation.steps discovery)) .empty = shared at *
      refine ⟨?_, fun copy member => ?_, fun copy member => ?_, ?_⟩
      · rw [none]
        exact listener
      · rw [none]
        obtain old | new := List.mem_append.mp member
        · exact copied copy old
        · rw [List.mem_singleton.mp new, listener]
          exact ⟨_, List.prefix_rfl, rfl⟩
      · obtain old | new := List.mem_append.mp member
        · exact current copy old
        · rw [List.mem_singleton.mp new]
          exact List.prefix_rfl
      · refine List.pairwise_append.mpr ⟨ordered, List.pairwise_singleton _ _, ?_⟩
        intro copy member last new
        rw [List.mem_singleton.mp new]
        exact current copy member

end Operations

/-! ### The threads -/

inductive Party
  | listener
  | owner
  deriving DecidableEq, Repr

/-- Where the listen thread is: before the test of `running_`, before `recvfrom` or in it, before
the mutex with a device of another name, inside of its block, or out of the loop. -/
inductive ListenPhase
  | absent
  | checking
  | calling
  | receiving (socket : CalledOn)
  | waiting (device : DeviceInfo)
  | inside
  | exited
  deriving DecidableEq, Repr

/-- What the owner is at. -/
inductive DiscoveryOwner
  | idle
  | waiting
  | inside
  | stopping
  deriving DecidableEq, Repr

/-- Another thread closes the listen socket. -/
def ListenPhase.close : ListenPhase → ListenPhase
  | .receiving socket => .receiving socket.close
  | phase => phase

/-- A `UdpDiscovery` with its listen thread, whether `listen_sock_` is open, the datagrams that have
arrived, and how often `recvfrom` has failed on a socket for another reason than its closing. -/
structure DiscoveryLife where
  running : Bool
  listening : Bool
  phase : ListenPhase
  owner : DiscoveryOwner
  mutex : Mutex Party Shared TableOperation
  arrived : List Datagram
  errors : ℕ

def DiscoveryLife.constructed : DiscoveryLife where
  running := false
  listening := false
  phase := .absent
  owner := .idle
  mutex := .free .empty
  arrived := []
  errors := 0

/-- `stop` up to the joins. -/
def DiscoveryLife.shutDown (state : DiscoveryLife) : DiscoveryLife :=
  { state with
    running := false
    listening := false
    phase := if state.listening then state.phase.close else state.phase
    owner := .stopping }

/-- One step of the listen thread or of the owner. Closing a socket may wake a thread that waits in
a call on it or not. A datagram on which the parser throws ends the process, and the run with it,
and so does a second `start` that succeeds, which assigns to a joinable thread. The destructor is a
call of `stop`. -/
inductive DiscoveryStep (discovery : UdpDiscovery) (closeWakes : Bool) :
    DiscoveryLife → DiscoveryLife → Prop
  | start {state : DiscoveryLife} (idle : state.owner = .idle) (unused : state.phase = .absent) :
      DiscoveryStep discovery closeWakes state
        { state with running := true, listening := true, phase := .checking }
  | startFails {state : DiscoveryLife} (idle : state.owner = .idle) :
      -- The member has been assigned before the failure, and a waiting thread keeps its socket.
      DiscoveryStep discovery closeWakes state { state with listening := false }
  | enterLoop {state : DiscoveryLife} (checking : state.phase = .checking)
      (running : state.running = true) :
      DiscoveryStep discovery closeWakes state { state with phase := .calling }
  | callRecv {state : DiscoveryLife} (calling : state.phase = .calling) :
      DiscoveryStep discovery closeWakes state { state with
        phase := .receiving (if state.listening then .openSocket else .closedBefore) }
  | leaveLoop {state : DiscoveryLife} (checking : state.phase = .checking)
      (stopped : state.running = false) :
      DiscoveryStep discovery closeWakes state { state with phase := .exited }
  | recvFails {state : DiscoveryLife} {socket : CalledOn}
      (receiving : state.phase = .receiving socket) (fails : socket.fails closeWakes = true) :
      DiscoveryStep discovery closeWakes state { state with phase := .checking }
  | recvErrs {state : DiscoveryLife} {socket : CalledOn}
      (receiving : state.phase = .receiving socket) (waited : socket ≠ .closedBefore) :
      DiscoveryStep discovery closeWakes state
        { state with phase := .checking, errors := state.errors + 1 }
  | ignore {state : DiscoveryLife} {socket : CalledOn} {datagram : Datagram}
      (receiving : state.phase = .receiving socket) (waited : socket ≠ .closedBefore)
      (parses : ∃ message, parseDiscovery datagram.received = .ok message)
      (nothing : announced discovery datagram = none) :
      DiscoveryStep discovery closeWakes state
        { state with phase := .checking, arrived := state.arrived ++ [datagram] }
  | hear {state : DiscoveryLife} {socket : CalledOn} {datagram : Datagram} {device : DeviceInfo}
      (receiving : state.phase = .receiving socket) (waited : socket ≠ .closedBefore)
      (announces : announced discovery datagram = some device) :
      DiscoveryStep discovery closeWakes state
        { state with phase := .waiting device, arrived := state.arrived ++ [datagram] }
  | lockTable {state : DiscoveryLife} {device : DeviceInfo}
      (waiting : state.phase = .waiting device) (unheld : state.mutex.holder = none) :
      DiscoveryStep discovery closeWakes state { state with
        phase := .inside
        mutex := state.mutex.lock (TableOperation.steps discovery) .listener (.learn device) }
  | callGetDevices {state : DiscoveryLife} (idle : state.owner = .idle) :
      DiscoveryStep discovery closeWakes state { state with owner := .waiting }
  | lockCopy {state : DiscoveryLife} (waiting : state.owner = .waiting)
      (unheld : state.mutex.holder = none) :
      DiscoveryStep discovery closeWakes state { state with
        owner := .inside
        mutex := state.mutex.lock (TableOperation.steps discovery) .owner .getDevices }
  | act {state : DiscoveryLife} {party : Party} {operation : TableOperation}
      {step : Shared → Shared} {left : List (Shared → Shared)}
      (held : state.mutex.holder = some ⟨party, operation, step :: left⟩) :
      DiscoveryStep discovery closeWakes state
        { state with mutex := state.mutex.act party operation step left }
  | unlockTable {state : DiscoveryLife} {operation : TableOperation}
      (held : state.mutex.holder = some ⟨.listener, operation, []⟩) :
      DiscoveryStep discovery closeWakes state
        { state with phase := .checking, mutex := state.mutex.unlock operation }
  | getDevicesReturns {state : DiscoveryLife} {operation : TableOperation}
      (held : state.mutex.holder = some ⟨.owner, operation, []⟩) :
      DiscoveryStep discovery closeWakes state
        { state with owner := .idle, mutex := state.mutex.unlock operation }
  | callStop {state : DiscoveryLife} (idle : state.owner = .idle) :
      DiscoveryStep discovery closeWakes state state.shutDown
  | stopReturns {state : DiscoveryLife} (stopping : state.owner = .stopping)
      (joinable : state.phase = .absent ∨ state.phase = .exited) :
      DiscoveryStep discovery closeWakes state { state with phase := .absent, owner := .idle }

/-- Some run of the object leads from one state to the other. -/
def DiscoveryRun (discovery : UdpDiscovery) (closeWakes : Bool) :
    DiscoveryLife → DiscoveryLife → Prop :=
  Relation.ReflTransGen (DiscoveryStep discovery closeWakes)

/-! ### What every run keeps -/

/-- The device that the listen thread waits with. -/
def ListenPhase.outstanding : ListenPhase → List DeviceInfo
  | .waiting device => [device]
  | _ => []

@[simp] theorem ListenPhase.outstanding_close (phase : ListenPhase) :
    phase.close.outstanding = phase.outstanding := by cases phase <;> rfl

@[simp] theorem ListenPhase.close_eq_inside {phase : ListenPhase} :
    phase.close = .inside ↔ phase = .inside := by
  cases phase <;> simp [ListenPhase.close]

/-- The holder of the mutex, if any, is the thread that is inside of its block, with the operation
of that block. -/
structure Coherent (phase : ListenPhase) (owner : DiscoveryOwner)
    (mutex : Mutex Party Shared TableOperation) : Prop where
  listenerHolds : ∀ operation left,
    mutex.holder = some ⟨.listener, operation, left⟩ → phase = .inside
  ownerHolds : ∀ operation left,
    mutex.holder = some ⟨.owner, operation, left⟩ → owner = .inside
  phaseInside : phase = .inside →
    ∃ operation left, mutex.holder = some ⟨.listener, operation, left⟩
  ownerInside : owner = .inside → ∃ operation left, mutex.holder = some ⟨.owner, operation, left⟩

/-- What has arrived is what the thread is done with or has a block under way for, and then the
datagram with whose device it waits, if it waits. -/
structure Splits (discovery : UdpDiscovery) (arrived : List Datagram)
    (outstanding : List DeviceInfo) (handled rest : List Datagram) : Prop where
  arrived_eq : handled ++ rest = arrived
  announces : rest.map (announced discovery) = outstanding.map some

/-- The state agrees with itself, the operations appear to be performed one after the other,
everything parsed, and what has arrived went through the mutex or waits for it. -/
structure DiscoveryLife.Sound (discovery : UdpDiscovery) (state : DiscoveryLife) : Prop where
  coherent : Coherent state.phase state.owner state.mutex
  atomic : state.mutex.Atomic (TableOperation.steps discovery) .empty
  parses : Parses state.arrived
  handled : ∃ handled rest, Splits discovery state.arrived state.phase.outstanding handled rest ∧
    learned state.mutex.begun = heard discovery handled

namespace Coherent

variable {phase : ListenPhase} {owner : DiscoveryOwner}
  {mutex : Mutex Party Shared TableOperation}

/-- The listen thread does something outside of its block. -/
theorem move (coherent : Coherent phase owner mutex) (outside : phase ≠ .inside)
    {next : ListenPhase} (stays : next ≠ .inside) : Coherent next owner mutex where
  listenerHolds operation left held := absurd (coherent.listenerHolds operation left held) outside
  ownerHolds := coherent.ownerHolds
  phaseInside inside := absurd inside stays
  ownerInside := coherent.ownerInside

/-- The owner does something outside of its block. -/
theorem turn (coherent : Coherent phase owner mutex) (outside : owner ≠ .inside)
    {next : DiscoveryOwner} (stays : next ≠ .inside) : Coherent phase next mutex where
  listenerHolds := coherent.listenerHolds
  ownerHolds operation left held := absurd (coherent.ownerHolds operation left held) outside
  phaseInside := coherent.phaseInside
  ownerInside inside := absurd inside stays

/-- The owner calls `stop`. -/
theorem close (coherent : Coherent phase owner mutex) (listening : Bool) (outside : owner ≠ .inside)
    {next : DiscoveryOwner} (stays : next ≠ .inside) :
    Coherent (if listening then phase.close else phase) next mutex := by
  cases listening with
  | false => exact coherent.turn outside stays
  | true =>
    obtain ⟨listenerHolds, ownerHolds, phaseInside, ownerInside⟩ := coherent.turn outside stays
    exact ⟨fun operation left held =>
        ListenPhase.close_eq_inside.mpr (listenerHolds operation left held),
      ownerHolds, fun inside => phaseInside (ListenPhase.close_eq_inside.mp inside), ownerInside⟩

/-- Nobody is inside while nobody holds the mutex. -/
theorem outside_of_unheld (coherent : Coherent phase owner mutex) (unheld : mutex.holder = none) :
    phase ≠ .inside ∧ owner ≠ .inside := by
  constructor
  · intro inside
    obtain ⟨operation, left, held⟩ := coherent.phaseInside inside
    rw [unheld] at held
    cases held
  · intro inside
    obtain ⟨operation, left, held⟩ := coherent.ownerInside inside
    rw [unheld] at held
    cases held

/-- Both are never inside at once. -/
theorem exclusive (coherent : Coherent phase owner mutex) :
    ¬ (phase = .inside ∧ owner = .inside) := by
  rintro ⟨inside, also⟩
  obtain ⟨operation, left, held⟩ := coherent.phaseInside inside
  obtain ⟨other, rest, heldAlso⟩ := coherent.ownerInside also
  rw [held] at heldAlso
  cases heldAlso

variable {steps : TableOperation → List (Shared → Shared)} {operation : TableOperation}

theorem lockTable (coherent : Coherent phase owner mutex) (unheld : mutex.holder = none) :
    Coherent .inside owner (mutex.lock steps .listener operation) where
  listenerHolds _ _ _ := rfl
  ownerHolds other left held := by cases held
  phaseInside _ := ⟨_, _, rfl⟩
  ownerInside inside := absurd inside (coherent.outside_of_unheld unheld).2

theorem lockCopy (coherent : Coherent phase owner mutex) (unheld : mutex.holder = none) :
    Coherent phase .inside (mutex.lock steps .owner operation) where
  listenerHolds other left held := by cases held
  ownerHolds _ _ _ := rfl
  phaseInside inside := absurd inside (coherent.outside_of_unheld unheld).1
  ownerInside _ := ⟨_, _, rfl⟩

theorem act (coherent : Coherent phase owner mutex) {party : Party} {step : Shared → Shared}
    {left : List (Shared → Shared)} (held : mutex.holder = some ⟨party, operation, step :: left⟩) :
    Coherent phase owner (mutex.act party operation step left) where
  listenerHolds other rest same := by
    cases same
    exact coherent.listenerHolds _ _ held
  ownerHolds other rest same := by
    cases same
    exact coherent.ownerHolds _ _ held
  phaseInside inside := by
    obtain ⟨other, rest, same⟩ := coherent.phaseInside inside
    rw [held] at same
    cases same
    exact ⟨_, _, rfl⟩
  ownerInside inside := by
    obtain ⟨other, rest, same⟩ := coherent.ownerInside inside
    rw [held] at same
    cases same
    exact ⟨_, _, rfl⟩

theorem unlockTable (coherent : Coherent phase owner mutex) {left : List (Shared → Shared)}
    (held : mutex.holder = some ⟨.listener, operation, left⟩) :
    Coherent .checking owner (mutex.unlock operation) where
  listenerHolds other rest same := by cases same
  ownerHolds other rest same := by cases same
  phaseInside inside := by cases inside
  ownerInside inside := by
    obtain ⟨other, rest, same⟩ := coherent.ownerInside inside
    rw [held] at same
    cases same

theorem unlockCopy (coherent : Coherent phase owner mutex) {left : List (Shared → Shared)}
    (held : mutex.holder = some ⟨.owner, operation, left⟩) :
    Coherent phase .idle (mutex.unlock operation) where
  listenerHolds other rest same := by cases same
  ownerHolds other rest same := by cases same
  phaseInside inside := by
    obtain ⟨other, rest, same⟩ := coherent.phaseInside inside
    rw [held] at same
    cases same
  ownerInside inside := by cases inside

end Coherent

section Runs

variable {discovery : UdpDiscovery} {closeWakes : Bool} {state next : DiscoveryLife}

theorem DiscoveryStep.coherent (step : DiscoveryStep discovery closeWakes state next)
    (coherent : Coherent state.phase state.owner state.mutex) :
    Coherent next.phase next.owner next.mutex := by
  cases step with
  | start idle unused => exact coherent.move (by rw [unused]; nofun) nofun
  | startFails idle => exact coherent
  | enterLoop checking | leaveLoop checking =>
    exact coherent.move (by rw [checking]; nofun) nofun
  | callRecv calling => exact coherent.move (by rw [calling]; nofun) nofun
  | recvFails receiving | recvErrs receiving | ignore receiving | hear receiving =>
    exact coherent.move (by rw [receiving]; nofun) nofun
  | lockTable waiting unheld => exact coherent.lockTable unheld
  | callGetDevices idle => exact coherent.turn (by rw [idle]; nofun) nofun
  | callStop idle => exact coherent.close state.listening (by rw [idle]; nofun) nofun
  | lockCopy waiting unheld => exact coherent.lockCopy unheld
  | act held => exact coherent.act held
  | unlockTable held => exact coherent.unlockTable held
  | getDevicesReturns held => exact coherent.unlockCopy held
  | stopReturns stopping joinable =>
    have outside : state.phase ≠ .inside := by
      rcases joinable with unused | left
      · rw [unused]
        nofun
      · rw [left]
        nofun
    have moved : Coherent .absent state.owner state.mutex := coherent.move outside nofun
    exact moved.turn (by rw [stopping]; nofun) nofun

theorem DiscoveryStep.atomic (step : DiscoveryStep discovery closeWakes state next)
    (atomic : state.mutex.Atomic (TableOperation.steps discovery) .empty) :
    next.mutex.Atomic (TableOperation.steps discovery) .empty := by
  cases step with
  | lockTable waiting unheld | lockCopy waiting unheld => exact atomic.lock unheld
  | act held => exact atomic.act held
  | unlockTable held | getDevicesReturns held => exact atomic.unlock held
  | _ => exact atomic

theorem heard_concat (datagrams : List Datagram) (datagram : Datagram) :
    heard discovery (datagrams ++ [datagram]) =
      heard discovery datagrams ++ (announced discovery datagram).toList := by
  rw [heard, List.filterMap_append, List.filterMap_cons]
  cases announced discovery datagram <;> rfl

theorem parses_concat {datagrams : List Datagram} {datagram : Datagram} (parses : Parses datagrams)
    (accepted : ∃ message, parseDiscovery datagram.received = .ok message) :
    Parses (datagrams ++ [datagram]) := by
  intro other member fault thrown
  obtain old | new := List.mem_append.mp member
  · exact parses other old fault thrown
  · obtain ⟨message, returned⟩ := accepted
    rw [List.mem_singleton.mp new, returned] at thrown
    cases thrown

/-- A datagram that announces something was parsed. -/
theorem parse_of_announced {datagram : Datagram} {device : DeviceInfo}
    (announces : announced discovery datagram = some device) :
    ∃ message, parseDiscovery datagram.received = .ok message := by
  unfold announced at announces
  split at announces
  case h_1 parsed accepted => exact ⟨_, accepted⟩
  case h_2 => cases announces

theorem DiscoveryStep.parses (step : DiscoveryStep discovery closeWakes state next)
    (parses : Parses state.arrived) : Parses next.arrived := by
  cases step with
  | ignore receiving waited accepted => exact parses_concat parses accepted
  | hear receiving waited announces => exact parses_concat parses (parse_of_announced announces)
  | _ => exact parses

namespace Splits

variable {arrived handled rest : List Datagram} {outstanding : List DeviceInfo}

/-- Nobody waits. -/
theorem settled (splits : Splits discovery arrived [] handled rest) : handled = arrived := by
  have nothing : rest = [] := List.map_eq_nil_iff.mp splits.announces
  rw [← splits.arrived_eq, nothing, List.append_nil]

/-- A device waits, and it is the one that the last datagram announces. -/
theorem waits {device : DeviceInfo} (splits : Splits discovery arrived [device] handled rest) :
    ∃ datagram, handled ++ [datagram] = arrived ∧ announced discovery datagram = some device := by
  obtain ⟨datagram, rfl, announces⟩ := List.map_eq_singleton_iff.mp splits.announces
  exact ⟨datagram, splits.arrived_eq, announces⟩

theorem all (arrived : List Datagram) : Splits discovery arrived [] arrived [] where
  arrived_eq := List.append_nil arrived
  announces := rfl

end Splits

theorem DiscoveryStep.handled (step : DiscoveryStep discovery closeWakes state next)
    (coherent : Coherent state.phase state.owner state.mutex)
    (handled : ∃ handled rest,
      Splits discovery state.arrived state.phase.outstanding handled rest ∧
        learned state.mutex.begun = heard discovery handled) :
    ∃ handled rest, Splits discovery next.arrived next.phase.outstanding handled rest ∧
      learned next.mutex.begun = heard discovery handled := by
  -- Most steps leave what has arrived, what waits and what has begun as they are.
  have keep {phase : ListenPhase} {mutex : Mutex Party Shared TableOperation}
      (same : phase.outstanding = state.phase.outstanding)
      (begun : mutex.begun = state.mutex.begun) :
      ∃ handled rest, Splits discovery state.arrived phase.outstanding handled rest ∧
        learned mutex.begun = heard discovery handled := by
    rw [same, begun]
    exact handled
  obtain ⟨settled, rest, splits, learns⟩ := handled
  cases step with
  | start idle unused => exact keep (by rw [unused]; rfl) rfl
  | startFails idle | callGetDevices idle => exact keep rfl rfl
  | enterLoop checking | leaveLoop checking => exact keep (by rw [checking]; rfl) rfl
  | callRecv calling => exact keep (by rw [calling]; rfl) rfl
  | recvFails receiving | recvErrs receiving => exact keep (by rw [receiving]; rfl) rfl
  | @ignore _ datagram receiving waited parses nothing =>
    rw [receiving] at splits
    refine ⟨_, _, Splits.all _, ?_⟩
    rw [heard_concat, nothing, ← splits.settled]
    exact learns.trans (List.append_nil _).symm
  | @hear _ datagram device receiving waited announces =>
    rw [receiving] at splits
    exact ⟨settled, [datagram],
      ⟨congrArg (· ++ _) splits.settled, congrArg (fun found => [found]) announces⟩, learns⟩
  | @lockTable device waiting unheld =>
    rw [waiting] at splits
    obtain ⟨datagram, arrived, announces⟩ := splits.waits
    refine ⟨_, _, Splits.all _, ?_⟩
    rw [Mutex.begun_lock unheld, learned, List.filterMap_append, ← arrived, heard_concat, announces]
    exact congrArg (· ++ _) learns
  | lockCopy waiting unheld =>
    refine ⟨settled, rest, splits, ?_⟩
    rw [Mutex.begun_lock unheld, learned, List.filterMap_append]
    exact (List.append_nil _).trans learns
  | act held => exact keep rfl (Mutex.begun_act held)
  | unlockTable held =>
    exact keep (by rw [coherent.listenerHolds _ _ held]; rfl) (Mutex.begun_unlock held)
  | getDevicesReturns held => exact keep rfl (Mutex.begun_unlock held)
  | callStop idle =>
    refine keep ?_ rfl
    show (if state.listening then state.phase.close else state.phase).outstanding = _
    split
    · exact ListenPhase.outstanding_close _
    · rfl
  | stopReturns stopping joinable =>
    rcases joinable with unused | left
    · exact keep (by rw [unused]) rfl
    · exact keep (by rw [left]; rfl) rfl

theorem DiscoveryStep.sound (step : DiscoveryStep discovery closeWakes state next)
    (sound : state.Sound discovery) : next.Sound discovery where
  coherent := step.coherent sound.coherent
  atomic := step.atomic sound.atomic
  parses := step.parses sound.parses
  handled := step.handled sound.coherent sound.handled

theorem sound_constructed : DiscoveryLife.constructed.Sound discovery where
  coherent := ⟨nofun, nofun, nofun, nofun⟩
  atomic := Mutex.atomic_free
  parses := nofun
  handled := ⟨[], [], Splits.all [], rfl⟩

theorem DiscoveryRun.sound (run : DiscoveryRun discovery closeWakes .constructed state) :
    state.Sound discovery := by
  induction run with
  | refl => exact sound_constructed
  | tail _ step inductionHypothesis => exact step.sound inductionHypothesis

/-! ### What the owner can see -/

/-- The loop over datagrams on which the parser does not throw learns what they announce. -/
theorem listenLoop_eq_tableOf {datagrams : List Datagram} (parses : Parses datagrams) :
    listenLoop discovery datagrams .empty =
      .ok (tableOf discovery (heard discovery datagrams)) := by
  induction datagrams using List.reverseRecOn with
  | nil => rfl
  | append_singleton before last inductionHypothesis =>
    have earlier := inductionHypothesis fun datagram member =>
      parses datagram (List.mem_append_left _ member)
    have step : listenLoop discovery (before ++ [last]) .empty =
        listenStep discovery (tableOf discovery (heard discovery before)) last := by
      rw [listenLoop, List.foldlM_append]
      show (listenLoop discovery before .empty >>= fun state =>
        listenStep discovery state last >>= pure) = _
      rw [earlier, ok_bind]
      exact bind_pure _
    rw [step, listenStep_eq, heard_concat, announced]
    cases accepted : parseDiscovery last.received with
    | error fault =>
      exact absurd accepted (parses last (List.mem_append_right _ List.mem_cons_self) fault)
    | ok message =>
      cases message with
      | none =>
        simp only [Option.toList_none, List.append_nil]
        rfl
      | some parsed =>
        by_cases own : parsed.name = discovery.deviceName
        · simp only [if_pos own, Option.toList_none, List.append_nil]
          show Except.ok (Listener.learn _ discovery _) = _
          rw [Listener.learn, if_pos (Or.inl own)]
        · simp only [if_neg own, Option.toList_some]
          rw [tableOf_concat]
          rfl

/-- The table is that of what has arrived, up to the datagram whose device waits, and the copies are
tables after some of the datagrams, in the order in which they arrived. -/
structure DiscoveryLife.Linear (discovery : UdpDiscovery) (state : DiscoveryLife) : Prop where
  table : ∃ handled rest, Splits discovery state.arrived state.phase.outstanding handled rest ∧
    listenLoop discovery handled .empty = .ok state.mutex.resource.listener
  copied : ∀ copy ∈ state.mutex.resource.copies, ∃ earlier snapshot, earlier <+: state.arrived ∧
    listenLoop discovery earlier .empty = .ok snapshot ∧ snapshot.devices = copy
  current : ∀ copy ∈ state.mutex.resource.copies, copy <+: state.mutex.resource.listener.devices
  ordered : state.mutex.resource.copies.Pairwise (· <+: ·)
  reported : Reports discovery state.mutex.resource.listener

/-- In every run, both threads are never inside at once, and whenever nobody holds the mutex, the
table is that of what has arrived, up to the last datagram where its device waits, and all copies
are tables of prefixes of it, of which every device was reported. -/
theorem linear_of_run (run : DiscoveryRun discovery closeWakes .constructed state) :
    ¬ (state.phase = .inside ∧ state.owner = .inside) ∧
      (state.mutex.holder = none → state.Linear discovery) := by
  have sound := DiscoveryRun.sound run
  refine ⟨sound.coherent.exclusive, fun unheld => ?_⟩
  obtain ⟨handled, rest, splits, learns⟩ := sound.handled
  have prior : handled <+: state.arrived := splits.arrived_eq ▸ List.prefix_append _ _
  have parses : Parses handled := fun datagram member =>
    sound.parses datagram (prior.subset member)
  have others : ∀ device ∈ learned state.mutex.begun, device.name ≠ discovery.deviceName := by
    intro device member
    rw [learns] at member
    obtain ⟨datagram, -, announces⟩ := mem_heard.mp member
    exact name_ne_of_announced announces
  have shared := shared_of_foldl others
  rw [← sound.atomic.resource_eq unheld] at shared
  have ran : listenLoop discovery handled .empty = .ok state.mutex.resource.listener := by
    rw [shared.listener, learns]
    exact listenLoop_eq_tableOf parses
  refine ⟨⟨handled, rest, splits, ran⟩, fun copy member => ?_, shared.current, shared.ordered, ?_⟩
  · obtain ⟨devices, shorter, rfl⟩ := shared.copied copy member
    -- Every prefix of what was learned is what some prefix of the datagrams announces.
    rw [learns] at shorter
    obtain ⟨earlier, before, rfl⟩ := List.prefix_filterMap_iff.mp shorter
    exact ⟨earlier, _, before.trans prior, listenLoop_eq_tableOf fun datagram within =>
      parses datagram (before.subset within), rfl⟩
  · obtain ⟨last, same, reports, -⟩ := listenLoop_empty discovery parses
    rw [ran] at same
    cases same
    exact reports

/-! ### Stopping -/

/-- While `stop` waits, `running_` is false and the listen socket is closed. -/
def DiscoveryLife.Halts (state : DiscoveryLife) : Prop :=
  state.owner = .stopping → state.running = false ∧ state.listening = false

theorem DiscoveryStep.halts (step : DiscoveryStep discovery closeWakes state next)
    (halts : state.Halts) : next.Halts := by
  intro stopping
  cases step with
  | start idle | startFails idle =>
    rw [show state.owner = .stopping from stopping] at idle
    cases idle
  | callGetDevices | lockCopy | getDevicesReturns | stopReturns => cases stopping
  | callStop => exact ⟨rfl, rfl⟩
  | _ => exact halts stopping

theorem DiscoveryRun.halts (run : DiscoveryRun discovery closeWakes .constructed state) :
    state.Halts := by
  induction run with
  | refl => exact nofun
  | tail _ step inductionHypothesis => exact step.halts inductionHypothesis

/-- `stop` has returned. -/
structure DiscoveryLife.Stopped (state : DiscoveryLife) : Prop where
  returned : state.owner = .idle
  joined : state.phase = .absent

/-- Neither a datagram has come from one state to the other nor an error. -/
structure DiscoveryLife.Undisturbed (state next : DiscoveryLife) : Prop where
  arrived : next.arrived = state.arrived
  errors : next.errors = state.errors

/-- The listen thread can finish its block. -/
theorem exists_unlocked {operation : TableOperation} {left : List (Shared → Shared)}
    (held : state.mutex.holder = some ⟨.listener, operation, left⟩) :
    ∃ mutex, DiscoveryRun discovery closeWakes state { state with phase := .checking, mutex } := by
  induction left generalizing state with
  | nil => exact ⟨_, Relation.ReflTransGen.single (DiscoveryStep.unlockTable held)⟩
  | cons step rest inductionHypothesis =>
    obtain ⟨mutex, run⟩ := @inductionHypothesis
      { state with mutex := state.mutex.act .listener operation step rest } rfl
    exact ⟨mutex, run.head (DiscoveryStep.act held)⟩

/-- While the owner waits for it, the listen thread can leave its loop, unless it is in a call that
does not fail. -/
theorem exists_left (coherent : Coherent state.phase state.owner state.mutex)
    (halts : state.Halts) (stopping : state.owner = .stopping)
    (fails : ∀ socket, state.phase = .receiving socket → socket.fails closeWakes = true) :
    ∃ phase mutex, (phase = .absent ∨ phase = .exited) ∧
      DiscoveryRun discovery closeWakes state { state with phase, mutex } := by
  obtain ⟨stopped, closed⟩ := halts stopping
  have leave (mutex : Mutex Party Shared TableOperation)
      (run : DiscoveryRun discovery closeWakes state { state with phase := .checking, mutex }) :
      ∃ phase mutex, (phase = .absent ∨ phase = .exited) ∧
        DiscoveryRun discovery closeWakes state { state with phase, mutex } :=
    ⟨.exited, mutex, Or.inr rfl, run.tail (DiscoveryStep.leaveLoop rfl stopped)⟩
  cases somewhere : state.phase with
  | absent =>
    refine ⟨.absent, state.mutex, Or.inl rfl, ?_⟩
    rw [← somewhere]
    exact Relation.ReflTransGen.refl
  | exited =>
    refine ⟨.exited, state.mutex, Or.inr rfl, ?_⟩
    rw [← somewhere]
    exact Relation.ReflTransGen.refl
  | checking =>
    refine leave state.mutex ?_
    rw [← somewhere]
    exact Relation.ReflTransGen.refl
  | calling =>
    have refused : (if state.listening then CalledOn.openSocket else .closedBefore).fails
        closeWakes = true := by
      rw [closed]
      rfl
    exact leave state.mutex ((Relation.ReflTransGen.single (DiscoveryStep.callRecv somewhere)).tail
      (DiscoveryStep.recvFails rfl refused))
  | receiving socket =>
    exact leave state.mutex
      (Relation.ReflTransGen.single (DiscoveryStep.recvFails somewhere (fails socket somewhere)))
  | inside =>
    obtain ⟨operation, left, held⟩ := coherent.phaseInside somewhere
    obtain ⟨mutex, run⟩ := exists_unlocked held
    exact leave mutex run
  | waiting device =>
    -- Nobody holds the mutex: the owner waits for the thread, and the thread for the mutex.
    have unheld : state.mutex.holder = none := by
      cases held : state.mutex.holder with
      | none => rfl
      | some holder =>
        obtain ⟨party, operation, left⟩ := holder
        cases party with
        | listener =>
          have inside := coherent.listenerHolds operation left held
          rw [somewhere] at inside
          cases inside
        | owner =>
          have inside := coherent.ownerHolds operation left held
          rw [stopping] at inside
          cases inside
    obtain ⟨mutex, run⟩ := @exists_unlocked discovery closeWakes { state with
      phase := .inside
      mutex := state.mutex.lock (TableOperation.steps discovery) .listener (.learn device) } _ _ rfl
    exact leave mutex (run.head (DiscoveryStep.lockTable somewhere unheld))

/-- How often a call of `recvfrom` was ended from outside. -/
def DiscoveryLife.disturbances (state : DiscoveryLife) : ℕ :=
  state.arrived.length + state.errors

theorem DiscoveryStep.disturbances_le (step : DiscoveryStep discovery closeWakes state next) :
    state.disturbances ≤ next.disturbances := by
  cases step with
  | recvErrs | ignore | hear =>
    simp only [DiscoveryLife.disturbances, List.length_append, List.length_singleton]
    omega
  | _ => exact Nat.le_refl _

/-- A call of `recvfrom` that the closing of its socket does not end goes on until it is ended from
outside. -/
theorem DiscoveryStep.waits (step : DiscoveryStep discovery closeWakes state next)
    (coherent : Coherent state.phase state.owner state.mutex) {socket : CalledOn}
    (fails : socket.fails closeWakes = false)
    (waits : state.phase = .receiving socket ∧ state.owner = .stopping) :
    (next.phase = .receiving socket ∧ next.owner = .stopping) ∨
      state.disturbances < next.disturbances := by
  obtain ⟨receiving, stopping⟩ := waits
  cases step with
  | recvErrs | ignore | hear =>
    right
    simp only [DiscoveryLife.disturbances, List.length_append, List.length_singleton]
    omega
  | recvFails other wakes =>
    rw [receiving] at other
    cases other
    rw [fails] at wakes
    cases wakes
  | act held => exact Or.inl ⟨receiving, stopping⟩
  | unlockTable held =>
    have inside := coherent.listenerHolds _ _ held
    rw [receiving] at inside
    cases inside
  | getDevicesReturns held =>
    have inside := coherent.ownerHolds _ _ held
    rw [stopping] at inside
    cases inside
  | stopReturns also joinable =>
    rw [receiving] at joinable
    rcases joinable with unused | left
    · cases unused
    · cases left
  | start other | startFails other | callGetDevices other | lockCopy other | callStop other =>
    rw [stopping] at other
    cases other
  | enterLoop other | callRecv other | leaveLoop other | lockTable other =>
    rw [receiving] at other
    cases other

theorem DiscoveryRun.disturbances_le (run : DiscoveryRun discovery closeWakes state next) :
    state.disturbances ≤ next.disturbances := by
  induction run with
  | refl => exact Nat.le_refl _
  | tail _ step inductionHypothesis => exact inductionHypothesis.trans step.disturbances_le

theorem DiscoveryRun.waits (begins : DiscoveryRun discovery closeWakes .constructed state)
    {socket : CalledOn} (fails : socket.fails closeWakes = false)
    (waits : state.phase = .receiving socket ∧ state.owner = .stopping)
    (run : DiscoveryRun discovery closeWakes state next) :
    (next.phase = .receiving socket ∧ next.owner = .stopping) ∨
      state.disturbances < next.disturbances := by
  induction run with
  | refl => exact Or.inl waits
  | tail before step inductionHypothesis =>
    obtain still | disturbed := inductionHypothesis
    · have coherent := (DiscoveryRun.sound (begins.trans before)).coherent
      exact (step.waits coherent fails still).imp_right
        (DiscoveryRun.disturbances_le before).trans_lt
    · exact Or.inr (disturbed.trans_le step.disturbances_le)

/-- `stop` can return from wherever the listen thread is, except from a call that does not fail. -/
theorem exists_stopped (sound : state.Sound discovery) (halts : state.Halts)
    (stopping : state.owner = .stopping)
    (fails : ∀ socket, state.phase = .receiving socket → socket.fails closeWakes = true) :
    ∃ stopped, DiscoveryRun discovery closeWakes state stopped ∧ stopped.Stopped ∧
      state.Undisturbed stopped := by
  obtain ⟨phase, mutex, joinable, leaves⟩ := exists_left sound.coherent halts stopping fails
  exact ⟨_, leaves.tail (DiscoveryStep.stopReturns stopping joinable), ⟨rfl, rfl⟩, ⟨rfl, rfl⟩⟩

/-- A datagram ends the call. -/
theorem exists_received (discovery : UdpDiscovery) (closeWakes : Bool) {socket : CalledOn}
    (receiving : state.phase = .receiving socket) (waited : socket ≠ .closedBefore)
    {datagram : Datagram} (parses : ∃ message, parseDiscovery datagram.received = .ok message) :
    ∃ phase, (∀ socket, phase ≠ .receiving socket) ∧ DiscoveryStep discovery closeWakes state
      { state with phase, arrived := state.arrived ++ [datagram] } := by
  cases announces : announced discovery datagram with
  | none => exact ⟨.checking, nofun, .ignore receiving waited parses announces⟩
  | some device => exact ⟨.waiting device, nofun, .hear receiving waited announces⟩

/-- While there is no listen thread, nothing arrives. -/
theorem DiscoveryStep.arrived_eq (step : DiscoveryStep discovery closeWakes state next)
    (absent : next.phase = .absent) : next.arrived = state.arrived := by
  cases step with
  | ignore | hear => cases absent
  | _ => rfl

/-- `stop` can return before `recvfrom` is ended from outside if and only if the listen thread is in
no call that outlasts the closing of its socket. The next datagram that does not throw ends such a
call, and `stop` can return after it. From then on until the next `start`, whenever nobody holds the
mutex, the table and the calls of the callback are those of what had arrived. -/
theorem stop_returns_iff (run : DiscoveryRun discovery closeWakes .constructed state)
    (stopping : state.owner = .stopping) :
    ((∃ stopped, DiscoveryRun discovery closeWakes state stopped ∧ stopped.Stopped ∧
        state.Undisturbed stopped) ↔
      ∀ socket, state.phase = .receiving socket → socket.fails closeWakes = true) ∧
    (∀ socket, state.phase = .receiving socket → socket ≠ .closedBefore → ∀ datagram,
      (∃ message, parseDiscovery datagram.received = .ok message) →
      ∃ stopped, DiscoveryRun discovery closeWakes state stopped ∧ stopped.Stopped ∧
        stopped.arrived = state.arrived ++ [datagram]) ∧
    ∀ stopped, DiscoveryRun discovery closeWakes state stopped → stopped.Stopped → ∀ last,
      Relation.ReflTransGen (fun before after =>
        DiscoveryStep discovery closeWakes before after ∧ after.phase = .absent) stopped last →
      last.mutex.holder = none →
        listenLoop discovery stopped.arrived .empty = .ok last.mutex.resource.listener := by
  have sound := DiscoveryRun.sound run
  have halts := DiscoveryRun.halts run
  refine ⟨⟨?_, exists_stopped sound halts stopping⟩, ?_, ?_⟩
  · rintro ⟨stopped, reaches, returned, undisturbed⟩ socket receiving
    by_contra outlasts
    have fails : socket.fails closeWakes = false := Bool.eq_false_iff.mpr outlasts
    obtain ⟨still, -⟩ | disturbed := DiscoveryRun.waits run fails ⟨receiving, stopping⟩ reaches
    · rw [returned.joined] at still
      cases still
    · simp only [DiscoveryLife.disturbances, undisturbed.arrived, undisturbed.errors] at disturbed
      exact absurd disturbed (Nat.lt_irrefl _)
  · intro socket receiving waited datagram parses
    obtain ⟨phase, elsewhere, step⟩ :=
      exists_received discovery closeWakes receiving waited parses
    obtain ⟨stopped, reaches, returned, undisturbed⟩ := exists_stopped (step.sound sound)
      (step.halts halts) stopping fun other same => absurd same (elsewhere other)
    exact ⟨stopped, reaches.head step, returned, undisturbed.arrived⟩
  · intro stopped reaches returned last quiet unheld
    have still : DiscoveryRun discovery closeWakes stopped last ∧ last.phase = .absent ∧
        last.arrived = stopped.arrived := by
      clear unheld
      induction quiet with
      | refl => exact ⟨Relation.ReflTransGen.refl, returned.joined, rfl⟩
      | tail _ step inductionHypothesis =>
        obtain ⟨earlier, -, same⟩ := inductionHypothesis
        exact ⟨earlier.tail step.1, step.2, (step.1.arrived_eq step.2).trans same⟩
    obtain ⟨further, gone, same⟩ := still
    obtain ⟨handled, rest, splits, ran⟩ := ((linear_of_run ((run.trans reaches).trans further)).2
      unheld).table
    rw [gone] at splits
    rw [← same, ← splits.settled]
    exact ran

end Runs

/-! ### A device is learned and another one comes while the owner stops -/

/-- The announcement of a device that listens on the default port. -/
def announcementOf (name : String) : Datagram :=
  ⟨ascii "UAIRDROP:1:" ++ ascii name ++ ascii ":Linux:9090", ascii "10.0.0.2"⟩

def announcedAs (name : String) : DeviceInfo := ⟨ascii name, ascii "Linux", 9090, ascii "10.0.0.2"⟩

def me : UdpDiscovery := ⟨ascii "me", true⟩

/-- One device was learned. -/
def learnedRun : DiscoveryLife where
  running := true
  listening := true
  phase := .checking
  owner := .idle
  mutex := {
    resource := ((Shared.empty.search (announcedAs "pc")).append (announcedAs "pc")).report me
      (announcedAs "pc")
    holder := none
    completed := [.learn (announcedAs "pc")] }
  arrived := [announcementOf "pc"]
  errors := 0

theorem run_learnedRun : DiscoveryRun me false .constructed learnedRun := by
  have announces : announced me (announcementOf "pc") = some (announcedAs "pc") := by
    decide +kernel
  have receives : DiscoveryRun me false .constructed { DiscoveryLife.constructed with
      running := true, listening := true, phase := .receiving .openSocket } :=
    ((Relation.ReflTransGen.single (DiscoveryStep.start rfl rfl)).tail
      (DiscoveryStep.enterLoop rfl rfl)).tail (DiscoveryStep.callRecv rfl)
  have locks := (receives.tail (DiscoveryStep.hear rfl nofun announces)).tail
    (DiscoveryStep.lockTable rfl rfl)
  exact (((locks.tail (DiscoveryStep.act rfl)).tail (DiscoveryStep.act rfl)).tail
    (DiscoveryStep.act rfl)).tail (DiscoveryStep.unlockTable rfl)

/-- The table was copied, a second device waits for the mutex, and the owner stops. -/
def waitingRun : DiscoveryLife where
  running := false
  listening := false
  phase := .waiting (announcedAs "tv")
  owner := .stopping
  mutex := {
    resource := learnedRun.mutex.resource.copy
    holder := none
    completed := [.learn (announcedAs "pc"), .getDevices] }
  arrived := [announcementOf "pc", announcementOf "tv"]
  errors := 0

theorem run_waitingRun : DiscoveryRun me false .constructed waitingRun := by
  have announces : announced me (announcementOf "tv") = some (announcedAs "tv") := by
    decide +kernel
  have copies := (((run_learnedRun.tail (DiscoveryStep.callGetDevices rfl)).tail
    (DiscoveryStep.lockCopy rfl rfl)).tail (DiscoveryStep.act rfl)).tail
    (DiscoveryStep.getDevicesReturns rfl)
  exact (((copies.tail (DiscoveryStep.enterLoop rfl rfl)).tail (DiscoveryStep.callRecv rfl)).tail
    (DiscoveryStep.hear rfl nofun announces)).tail (DiscoveryStep.callStop rfl)

theorem linear_waitingRun : ¬ (waitingRun.phase = .inside ∧ waitingRun.owner = .inside) ∧
    waitingRun.mutex.resource.copies = [[announcedAs "pc"]] ∧ waitingRun.Linear me :=
  ⟨(linear_of_run run_waitingRun).1, by decide +kernel, (linear_of_run run_waitingRun).2 rfl⟩

/-- The owner stops while the thread is in `recvfrom`. -/
def blockedRun : DiscoveryLife :=
  { learnedRun with
    running := false
    listening := false
    phase := .receiving .closedSince
    owner := .stopping }

theorem run_blockedRun : DiscoveryRun me false .constructed blockedRun :=
  ((run_learnedRun.tail (DiscoveryStep.enterLoop rfl rfl)).tail (DiscoveryStep.callRecv rfl)).tail
    (DiscoveryStep.callStop rfl)

theorem stop_hangs_blockedRun :
    (¬ ∃ stopped, DiscoveryRun me false blockedRun stopped ∧ stopped.Stopped ∧
      blockedRun.Undisturbed stopped) ∧
    ∃ stopped, DiscoveryRun me false blockedRun stopped ∧ stopped.Stopped ∧
      stopped.arrived = [announcementOf "pc", announcementOf "tv"] := by
  obtain ⟨returns, received, -⟩ := stop_returns_iff run_blockedRun rfl
  refine ⟨fun stopped => ?_, received _ rfl nofun (announcementOf "tv") ⟨_, rfl⟩⟩
  cases returns.mp stopped _ rfl

end UniversalAirdrop
