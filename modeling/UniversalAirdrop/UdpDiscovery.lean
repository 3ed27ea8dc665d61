/-
This file models `UdpDiscovery::listen_loop` and proves what the table of
devices holds. Each datagram is parsed, its sender's address is attached, the
device's own messages are dropped, and a device is appended and reported if no
device of the table has its name and address.

The table is the first-seen table of the announcements heard. That is the
abstract layer here, and the loop refines it one datagram at a time.
-/

import UniversalAirdrop.Protocol
import UniversalAirdrop.Library.FirstSeen

namespace UniversalAirdrop

open FirstSeen

/-! ### The listener -/

/-- A datagram with the text of its source address. -/
structure Datagram where
  bytes : Bytes
  source : Bytes
  deriving DecidableEq, Repr

def listenBufSize : ℕ := 1024

/-- What `recvfrom` puts into the buffer, which keeps one byte for a NUL. -/
def Datagram.received (datagram : Datagram) : Bytes := datagram.bytes.take (listenBufSize - 1)

/-- The members the listener reads: the own name, and whether a callback is set. -/
structure UdpDiscovery where
  deviceName : Bytes
  hasCallback : Bool
  deriving DecidableEq, Repr

/-- What the listener changes: the table, and the devices the callback was called with. -/
structure Listener where
  devices : List DeviceInfo
  found : List DeviceInfo
  deriving DecidableEq, Repr

/-- Search the table for the name and the address of a device. -/
def known (devices : List DeviceInfo) (device : DeviceInfo) : Bool :=
  devices.any fun other => other.name = device.name && other.ip = device.ip

/-- One iteration of the loop, on a datagram. -/
def listenStep (discovery : UdpDiscovery) (state : Listener) (datagram : Datagram) :
    Except Fault Listener :=
  if datagram.received = [] then return state
  else do
    match ← parseDiscovery datagram.received with
    | none => return state
    | some parsed =>
      let device := { parsed with ip := datagram.source }
      if device.name = discovery.deviceName then return state
      else if known state.devices device then return state
      else return { devices := state.devices ++ [device]
                    found := if discovery.hasCallback then state.found ++ [device]
                      else state.found }

/-- `listen_loop` over the datagrams that arrive. -/
def listenLoop (discovery : UdpDiscovery) (datagrams : List Datagram) (state : Listener) :
    Except Fault Listener :=
  datagrams.foldlM (listenStep discovery) state

/-- The listener before the first datagram. -/
def Listener.empty : Listener where
  devices := []
  found := []

/-- What the listener does with a device that was announced to it. -/
def Listener.learn (state : Listener) (discovery : UdpDiscovery) (device : DeviceInfo) :
    Listener :=
  if device.name = discovery.deviceName ∨ known state.devices device = true then state
  else { devices := state.devices ++ [device]
         found := if discovery.hasCallback then state.found ++ [device] else state.found }

/-- An iteration is the parser's result, with an announced device learned. -/
theorem listenStep_eq (discovery : UdpDiscovery) (state : Listener) (datagram : Datagram) :
    listenStep discovery state datagram =
      (parseDiscovery datagram.received).map fun message =>
        message.elim state fun parsed =>
          state.learn discovery { parsed with ip := datagram.source } := by
  unfold listenStep
  by_cases empty : datagram.received = []
  · rw [if_pos empty, empty]
    rfl
  · rw [if_neg empty]
    cases parseDiscovery datagram.received with
    | error fault => rfl
    | ok message =>
      cases message with
      | none => rfl
      | some parsed =>
        rw [ok_bind]
        simp only [Except.map, Option.elim_some, Listener.learn]
        by_cases own : parsed.name = discovery.deviceName
        · rw [if_pos own, if_pos (Or.inl own)]
          rfl
        · rw [if_neg own]
          cases seen : known state.devices { parsed with ip := datagram.source } with
          | true =>
            rw [if_pos rfl, if_pos (Or.inr rfl)]
            rfl
          | false =>
            rw [if_neg Bool.false_ne_true, if_neg (not_or.mpr ⟨own, Bool.false_ne_true⟩)]
            rfl

/-! ### The announcements heard -/

/-- The device a datagram announces, if it is one of another name. -/
def announced (discovery : UdpDiscovery) (datagram : Datagram) : Option DeviceInfo :=
  match parseDiscovery datagram.received with
  | .ok (some parsed) =>
    if parsed.name = discovery.deviceName then none
    else some { parsed with ip := datagram.source }
  | _ => none

/-- The devices a sequence of datagrams announces, in the order of their arrival. -/
def heard (discovery : UdpDiscovery) (datagrams : List Datagram) : List DeviceInfo :=
  datagrams.filterMap (announced discovery)

/-- What identifies a device in the table. -/
def DeviceInfo.key (device : DeviceInfo) : Bytes × Bytes := (device.name, device.ip)

/-- No datagram makes the parser throw. -/
def Parses (datagrams : List Datagram) : Prop :=
  ∀ datagram ∈ datagrams, ∀ fault, parseDiscovery datagram.received ≠ .error fault

/-- An announced device has another name. -/
theorem name_ne_of_announced {discovery : UdpDiscovery} {datagram : Datagram}
    {device : DeviceInfo} (announces : announced discovery datagram = some device) :
    device.name ≠ discovery.deviceName := by
  unfold announced at announces
  split at announces
  case h_1 parsed accepted =>
    split at announces
    case isTrue => cases announces
    case isFalse other =>
      cases announces
      exact other
  case h_2 => cases announces

/-- An announced device has the address that the datagram came from. -/
theorem ip_of_announced {discovery : UdpDiscovery} {datagram : Datagram} {device : DeviceInfo}
    (announces : announced discovery datagram = some device) : datagram.source = device.ip := by
  unfold announced at announces
  split at announces
  case h_1 parsed accepted =>
    split at announces
    case isTrue => cases announces
    case isFalse other =>
      cases announces
      rfl
  case h_2 => cases announces

theorem mem_heard {discovery : UdpDiscovery} {datagrams : List Datagram} {device : DeviceInfo} :
    device ∈ heard discovery datagrams ↔
      ∃ datagram ∈ datagrams, announced discovery datagram = some device := List.mem_filterMap

/-! ### The loop keeps the first-seen table -/

/-- The callback was called with the devices of the table in their order, if there is one. -/
def Reports (discovery : UdpDiscovery) (state : Listener) : Prop :=
  state.found = if discovery.hasCallback then state.devices else []

/-- The search looks for the key of a device. -/
theorem known_eq (devices : List DeviceInfo) (device : DeviceInfo) :
    known devices device = devices.any fun other => other.key = device.key := by
  simp [known, DeviceInfo.key]

/-- A device of another name is inserted into the table. -/
theorem devices_learn (state : Listener) {discovery : UdpDiscovery} {device : DeviceInfo}
    (other : device.name ≠ discovery.deviceName) :
    (state.learn discovery device).devices = insertNew DeviceInfo.key state.devices device := by
  rw [Listener.learn, insertNew, ← known_eq]
  cases known state.devices device with
  | true => rw [if_pos (Or.inr rfl), if_pos rfl]
  | false => rw [if_neg (not_or.mpr ⟨other, Bool.false_ne_true⟩), if_neg Bool.false_ne_true]

/-- Learning a device only ever appends to the table. -/
theorem devices_prefix_learn (state : Listener) (discovery : UdpDiscovery) (device : DeviceInfo) :
    state.devices <+: (state.learn discovery device).devices := by
  rw [Listener.learn]
  split
  · exact List.prefix_rfl
  · exact List.prefix_append _ _

theorem Reports.learn {discovery : UdpDiscovery} {state : Listener}
    (reports : Reports discovery state) (device : DeviceInfo) :
    Reports discovery (state.learn discovery device) := by
  rw [Listener.learn]
  split
  · exact reports
  · show (if discovery.hasCallback then state.found ++ [device] else state.found) = _
    rw [reports]
    cases discovery.hasCallback <;> rfl

/-- One iteration inserts what the datagram announces. -/
theorem listenStep_spec {discovery : UdpDiscovery} {state : Listener} {datagram : Datagram}
    (parses : ∀ fault, parseDiscovery datagram.received ≠ .error fault)
    (reports : Reports discovery state) :
    ∃ next, listenStep discovery state datagram = .ok next ∧ Reports discovery next ∧
      next.devices = (announced discovery datagram).elim state.devices
        (insertNew DeviceInfo.key state.devices) := by
  rw [listenStep_eq, announced]
  cases accepted : parseDiscovery datagram.received with
  | error fault => exact absurd accepted (parses fault)
  | ok message =>
    cases message with
    | none => exact ⟨state, rfl, reports, rfl⟩
    | some parsed =>
      refine ⟨_, rfl, reports.learn _, ?_⟩
      by_cases own : parsed.name = discovery.deviceName
      · simp only [if_pos own, Option.elim_some, Option.elim_none, Listener.learn,
          if_pos (Or.inl own)]
      · simp only [if_neg own, Option.elim_some]
        exact devices_learn state own

/-- A run inserts what its datagrams announce, in order. -/
theorem listenLoop_spec {discovery : UdpDiscovery} {datagrams : List Datagram} {state : Listener}
    (parses : Parses datagrams) (reports : Reports discovery state) :
    ∃ last, listenLoop discovery datagrams state = .ok last ∧ Reports discovery last ∧
      last.devices =
        (heard discovery datagrams).foldl (insertNew DeviceInfo.key) state.devices := by
  induction datagrams generalizing state with
  | nil => exact ⟨state, rfl, reports, rfl⟩
  | cons datagram rest inductionHypothesis =>
    obtain ⟨next, stepped, nextReports, devices⟩ :=
      listenStep_spec (parses datagram List.mem_cons_self) reports
    obtain ⟨last, ran, lastReports, inserted⟩ := inductionHypothesis
      (fun later member => parses later (List.mem_cons_of_mem _ member)) nextReports
    refine ⟨last, ?_, lastReports, ?_⟩
    · rw [listenLoop, List.foldlM_cons, stepped]
      exact ran
    · rw [inserted, devices, heard, heard, List.filterMap_cons]
      cases announced discovery datagram <;> rfl

/-- The table after a run that starts empty. -/
theorem listenLoop_empty (discovery : UdpDiscovery) {datagrams : List Datagram}
    (parses : Parses datagrams) :
    ∃ last, listenLoop discovery datagrams .empty = .ok last ∧ Reports discovery last ∧
      last.devices = firstSeen DeviceInfo.key (heard discovery datagrams) := by
  have reports : Reports discovery .empty := by
    unfold Reports Listener.empty
    cases discovery.hasCallback <;> rfl
  obtain ⟨last, ran, lastReports, devices⟩ := listenLoop_spec parses reports
  exact ⟨last, ran, lastReports, devices.trans (foldl_insertNew_nil _ _)⟩

/-- The device table is the first-seen table of the announcements heard. Its devices have
pairwise different keys and other names, each is the first that was announced with its key, a
snapshot taken earlier is a prefix, the callback was called once for each device in order, and
the keys depend only on which datagrams arrived. -/
theorem listenLoop_firstSeen (discovery : UdpDiscovery) {datagrams : List Datagram}
    (parses : Parses datagrams) :
    ∃ last, listenLoop discovery datagrams .empty = .ok last ∧
      last.devices = firstSeen DeviceInfo.key (heard discovery datagrams) ∧
      (last.devices.map DeviceInfo.key).Nodup ∧
      (∀ device ∈ last.devices, device.name ≠ discovery.deviceName ∧
        (heard discovery datagrams).find? (fun other => other.key = device.key) = some device) ∧
      (∀ earlier later, datagrams = earlier ++ later →
        ∃ snapshot, listenLoop discovery earlier .empty = .ok snapshot ∧
          snapshot.devices <+: last.devices) ∧
      last.found = (if discovery.hasCallback then last.devices else []) ∧
      ∀ others, (∀ datagram, datagram ∈ others ↔ datagram ∈ datagrams) →
        ∃ other, listenLoop discovery others .empty = .ok other ∧
          ∀ key, key ∈ other.devices.map DeviceInfo.key ↔
            key ∈ last.devices.map DeviceInfo.key := by
  obtain ⟨last, ran, reports, devices⟩ := listenLoop_empty discovery parses
  refine ⟨last, ran, devices, ?_, fun device member => ?_, ?_, reports, ?_⟩
  · rw [devices]
    exact nodup_map_firstSeen _ _
  · rw [devices] at member
    have first := find?_of_mem_firstSeen _ member
    obtain ⟨datagram, -, announces⟩ := mem_heard.mp (List.mem_of_find?_eq_some first)
    exact ⟨name_ne_of_announced announces, first⟩
  · rintro earlier later rfl
    obtain ⟨snapshot, early, -, table⟩ := listenLoop_empty discovery
      fun datagram member => parses datagram (List.mem_append_left later member)
    refine ⟨snapshot, early, ?_⟩
    rw [table, devices, heard, heard, List.filterMap_append]
    exact firstSeen_prefix_append _ _ _
  · intro others same
    obtain ⟨other, ranOther, -, table⟩ := listenLoop_empty discovery
      fun datagram member => parses datagram ((same datagram).mp member)
    refine ⟨other, ranOther, fun key => ?_⟩
    rw [table, devices, mem_map_firstSeen, mem_map_firstSeen]
    simp only [List.mem_map, mem_heard, same]

/-- Two announcements of one device and one of the listener itself. -/
theorem listenLoop_firstSeen_sample :
    ∃ last, listenLoop ⟨ascii "me", true⟩
        [⟨ascii "UAIRDROP:1:pc:Linux:9090", ascii "10.0.0.2"⟩,
          ⟨ascii "UAIRDROP:1:me:Linux:9090", ascii "10.0.0.1"⟩,
          ⟨ascii "UAIRDROP:1:pc:Linux:9099", ascii "10.0.0.2"⟩] .empty = .ok last ∧
      last.devices = [⟨ascii "pc", ascii "Linux", 9090, ascii "10.0.0.2"⟩] := by
  have parses : Parses
      [⟨ascii "UAIRDROP:1:pc:Linux:9090", ascii "10.0.0.2"⟩,
        ⟨ascii "UAIRDROP:1:me:Linux:9090", ascii "10.0.0.1"⟩,
        ⟨ascii "UAIRDROP:1:pc:Linux:9099", ascii "10.0.0.2"⟩] := by
    have each : ∀ datagram ∈ ([⟨ascii "UAIRDROP:1:pc:Linux:9090", ascii "10.0.0.2"⟩,
        ⟨ascii "UAIRDROP:1:me:Linux:9090", ascii "10.0.0.1"⟩,
        ⟨ascii "UAIRDROP:1:pc:Linux:9099", ascii "10.0.0.2"⟩] : List Datagram),
        (parseDiscovery datagram.received).isOk = true := by decide +kernel
    intro datagram member fault thrown
    have ok := each datagram member
    rw [thrown] at ok
    cases ok
  obtain ⟨last, ran, devices, -⟩ := listenLoop_firstSeen ⟨ascii "me", true⟩ parses
  refine ⟨last, ran, devices.trans ?_⟩
  decide +kernel

end UniversalAirdrop
