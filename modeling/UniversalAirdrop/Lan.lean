/-
This file models the devices of a local network that all run a `UdpDiscovery`,
with the broadcasts lost, repeated and reordered at will, and with other traffic
on the port, and proves what their tables hold.

The medium is the abstract layer: what a device has become is its `listen_loop`
over what it has heard. A table is therefore the first-seen table of the
announcements heard, and with distinct devices of plain names it holds exactly
the other devices that were heard, each as it is.
-/

import UniversalAirdrop.Announcing
import UniversalAirdrop.Library.Medium
import Mathlib.Data.Fintype.Prod

namespace UniversalAirdrop

open Streams Numeral Medium FirstSeen

/-! ### Which names end a process -/

/-- There is no separator in the name, or there are two parts and a third that reads as a number
before any further separator. -/
def Speakable (name : Bytes) : Prop :=
  fieldDelim ∈ name → ∃ first second more, fieldDelim ∉ first ∧ fieldDelim ∉ second ∧
    name = first ++ fieldDelim :: (second ++ fieldDelim :: more) ∧
    ∃ number, stoi (more.takeWhile (· ≠ fieldDelim)) = .ok number

/-- A system where a port is expected does not convert. -/
theorem stoi_getOsName (target : Target) : stoi (getOsName target) = .error .invalidArgument := by
  cases target <;> decide +kernel

/-- The fields that a payload is split into are decided by the text after the type field. -/
theorem converts_broadcastPayload {target : Target} {name : Bytes} {tcpPort : UInt16}
    {heardName heardOs rest portStr : Bytes} {last : Bytes}
    (nameRead : getline fieldDelim (name ++ fieldDelim :: (getOsName target ++
      fieldDelim :: decimal tcpPort.toNat)) = some (heardName, rest))
    {left : Bytes} (osRead : getline fieldDelim rest = some (heardOs, left))
    (portRead : getline fieldDelim left = some (portStr, last)) :
    Converts (broadcastPayload target name tcpPort) ↔ ∃ port, stoi portStr = .ok port := by
  have line : broadcastPayload target name tcpPort = magic ++ fieldDelim ::
      (decimal MsgType.discovery.code ++ fieldDelim :: (name ++ fieldDelim :: (getOsName target ++
        fieldDelim :: decimal tcpPort.toNat))) := by
    simp [broadcastPayload, serializeDiscovery]
  have starts : magic <+: broadcastPayload target name tcpPort := by
    rw [line]
    exact List.prefix_append _ _
  have fields : discoveryFields (broadcastPayload target name tcpPort) =
      some (decimal MsgType.discovery.code, heardName, heardOs, portStr) := by
    rw [line, discoveryFields, getline_append_delim notMem_magic]
    simp only [Option.bind_eq_bind, Option.bind_some,
      getline_append_delim (fieldDelim_notMem_decimal _), nameRead, osRead, portRead]
    rfl
  constructor
  · intro converts
    obtain ⟨type, typeRead, port⟩ := converts _ _ _ _ starts fields
    rw [stoi_code, Except.ok.injEq] at typeRead
    exact port typeRead.symm
  · rintro port typeStr' name' os' portStr' - same
    rw [fields] at same
    cases same
    exact ⟨_, stoi_code _, fun _ => port⟩

/-- An announcement converts exactly when its name is speakable. -/
theorem converts_broadcastPayload_iff (target : Target) (name : Bytes) (tcpPort : UInt16) :
    Converts (broadcastPayload target name tcpPort) ↔ Speakable name := by
  cases found : cut fieldDelim name with
  | none =>
    have plain := cut_eq_none_iff.mp found
    refine iff_of_true ?_ fun member => absurd member plain
    exact (parseDiscovery_ok_iff _).mp ⟨_, parseDiscovery_serializeDiscovery plain
      (fieldDelim_notMem_getOsName target)⟩
  | some pieces =>
    obtain ⟨first, tail⟩ := pieces
    obtain ⟨rfl, plainFirst⟩ := eq_of_cut_eq_some found
    have nameRead : getline fieldDelim ((first ++ fieldDelim :: tail) ++ fieldDelim ::
        (getOsName target ++ fieldDelim :: decimal tcpPort.toNat)) =
          some (first, tail ++ fieldDelim :: (getOsName target ++
            fieldDelim :: decimal tcpPort.toNat)) := by
      rw [List.append_assoc, List.cons_append, getline_append_delim plainFirst]
    cases foundAgain : cut fieldDelim tail with
    | none =>
      -- The system is read as the port.
      have plainTail := cut_eq_none_iff.mp foundAgain
      rw [converts_broadcastPayload nameRead (getline_append_delim plainTail _)
        (getline_append_delim (fieldDelim_notMem_getOsName target) _), stoi_getOsName]
      refine iff_of_false nofun fun speakable => ?_
      obtain ⟨first', second, more, plainFirst', -, same, -⟩ :=
        speakable (List.mem_append_right _ List.mem_cons_self)
      rw [append_delim_inj plainFirst plainFirst'] at same
      exact plainTail (same.2 ▸ List.mem_append_right _ List.mem_cons_self)
    | some piecesAgain =>
      obtain ⟨second, more⟩ := piecesAgain
      obtain ⟨rfl, plainSecond⟩ := eq_of_cut_eq_some foundAgain
      obtain ⟨after, portRead⟩ : ∃ after, getline fieldDelim (more ++ fieldDelim ::
          (getOsName target ++ fieldDelim :: decimal tcpPort.toNat)) =
            some (more.takeWhile (· ≠ fieldDelim), after) := by
        rw [← takeWhile_append_delim more (getOsName target ++ fieldDelim :: _)]
        exact exists_getline (by simp)
      have osRead : getline fieldDelim ((second ++ fieldDelim :: more) ++ fieldDelim ::
          (getOsName target ++ fieldDelim :: decimal tcpPort.toNat)) = some (second, more ++
            fieldDelim :: (getOsName target ++ fieldDelim :: decimal tcpPort.toNat)) := by
        rw [List.append_assoc, List.cons_append, getline_append_delim plainSecond]
      rw [converts_broadcastPayload nameRead osRead portRead]
      constructor
      · exact fun port _ => ⟨first, second, more, plainFirst, plainSecond, rfl, port⟩
      · intro speakable
        obtain ⟨first', second', more', plainFirst', plainSecond', same, port⟩ :=
          speakable (List.mem_append_right _ List.mem_cons_self)
        rw [append_delim_inj plainFirst plainFirst',
          append_delim_inj plainSecond plainSecond'] at same
        rw [same.2.2]
        exact port

/-! ### The devices of a network -/

/-- The devices of a local network: how each was configured and built, the text of its address,
and whether it has a callback. -/
structure Lan (Device : Type) where
  name : Device → Bytes
  target : Device → Target
  tcpPort : Device → UInt16
  address : Device → Bytes
  hasCallback : Device → Bool

namespace Lan

variable {Device : Type} (lan : Lan Device)

def discovery (device : Device) : UdpDiscovery where
  deviceName := lan.name device
  hasCallback := lan.hasCallback device

/-- The device as others should know it. -/
def info (device : Device) : DeviceInfo where
  name := lan.name device
  os := getOsName (lan.target device)
  tcpPort := lan.tcpPort device
  ip := lan.address device

/-- The datagram that others receive when the device broadcasts. -/
def announcement (device : Device) : Datagram where
  bytes := broadcastPayload (lan.target device) (lan.name device) (lan.tcpPort device)
  source := lan.address device

/-- Every device broadcasts its announcement and takes what it hears with `listen_loop`, whose
exceptions end the process. -/
def protocol : Protocol Device Datagram Listener where
  initial _ := .empty
  packet := lan.announcement
  receive device state datagram := (listenStep (lan.discovery device) state datagram).toOption

end Lan

/-- A loop whose faults are all the same. -/
theorem toOption_foldlM {State Item : Type} (step : State → Item → Except Fault State)
    (items : List Item) (state : State) :
    items.foldlM (fun reached item => (step reached item).toOption) state =
      (items.foldlM step state).toOption := by
  induction items generalizing state with
  | nil => rfl
  | cons item rest inductionHypothesis =>
    rw [List.foldlM_cons, List.foldlM_cons]
    cases step state item with
    | error fault => rfl
    | ok next => exact inductionHypothesis next

section Networks

variable {Device : Type} {lan : Lan Device} {foreign : Datagram → Prop}
  {network : Medium.Network Device Datagram Listener}

/-- What a device has become is its loop over what it has heard. -/
theorem node_eq_listenLoop (sound : network.Sound lan.protocol foreign) (device : Device) :
    network.node device =
      (listenLoop (lan.discovery device) (network.heard device) .empty).toOption := by
  rw [sound.state]
  exact toOption_foldlM _ _ _

/-- A device is lost to exactly the datagrams on which the parser throws, whatever its table. -/
theorem receive_eq_none_iff (device : Device) (state : Listener) (datagram : Datagram) :
    lan.protocol.receive device state datagram = none ↔ ¬ Converts datagram.received := by
  rw [← parseDiscovery_ok_iff, ← @listenStep_ok_iff (lan.discovery device) state]
  show (listenStep (lan.discovery device) state datagram).toOption = none ↔ _
  cases listenStep (lan.discovery device) state datagram with
  | error fault => exact iff_of_true rfl nofun
  | ok next => exact iff_of_false (Option.some_ne_none _) (not_not_intro ⟨next, rfl⟩)

/-! ### Networks without surprises -/

/-- The names are plain and their announcements fit, no two devices share name and address, and
the other traffic converts and comes from other addresses. -/
structure Lan.Tame (lan : Lan Device) (foreign : Datagram → Prop) : Prop where
  plain : ∀ device, fieldDelim ∉ lan.name device
  fits : ∀ device, (lan.announcement device).bytes.length ≤ listenBufSize - 1
  distinct : ∀ device other, lan.name device = lan.name other →
    lan.address device = lan.address other → device = other
  converts : ∀ datagram, foreign datagram → Converts datagram.received
  elsewhere : ∀ datagram, foreign datagram → ∀ device, datagram.source ≠ lan.address device

/-- An announcement arrives as what it says about its device. -/
theorem Lan.Tame.parse (tame : lan.Tame foreign) (device : Device) :
    parseDiscovery (lan.announcement device).received =
      .ok (some { lan.info device with ip := [] }) := by
  rw [Datagram.received, List.take_of_length_le (tame.fits device)]
  exact parseDiscovery_serializeDiscovery (tame.plain device) (fieldDelim_notMem_getOsName _)

/-- It announces its device to all devices of other names. -/
theorem Lan.Tame.announced (tame : lan.Tame foreign) (device other : Device) :
    announced (lan.discovery device) (lan.announcement other) =
      if lan.name other = lan.name device then none else some (lan.info other) := by
  rw [UniversalAirdrop.announced, tame.parse]
  rfl

/-- Nothing on the medium makes a parser throw. -/
theorem Lan.Tame.converts_of_origin (tame : lan.Tame foreign) {datagram : Datagram}
    (origin : lan.protocol.Origin foreign datagram) : Converts datagram.received := by
  obtain ⟨device, rfl⟩ | outside := origin
  · exact (parseDiscovery_ok_iff _).mp ⟨_, tame.parse device⟩
  · exact tame.converts datagram outside

theorem Lan.Tame.harmless (tame : lan.Tame foreign) : lan.protocol.Harmless foreign :=
  fun device state datagram origin lost =>
    (receive_eq_none_iff device state datagram).mp lost (tame.converts_of_origin origin)

/-- What a device of a reachable network has become. -/
theorem Lan.Tame.exists_listener (tame : lan.Tame foreign)
    (sound : network.Sound lan.protocol foreign) (device : Device) :
    ∃ listener, network.node device = some listener ∧
      Reports (lan.discovery device) listener ∧
      listener.devices =
        firstSeen DeviceInfo.key (heard (lan.discovery device) (network.heard device)) := by
  have parses : Parses (network.heard device) := by
    intro datagram member fault thrown
    obtain ⟨message, returned⟩ := (parseDiscovery_ok_iff _).mpr
      (tame.converts_of_origin (sound.origin_of_heard member))
    rw [returned] at thrown
    cases thrown
  obtain ⟨last, ran, reports, devices⟩ := listenLoop_empty (lan.discovery device) parses
  refine ⟨last, ?_, reports, devices⟩
  rw [node_eq_listenLoop sound, ran]
  rfl

/-- An announcement that is heard with the address of a device is that of a device. -/
theorem Lan.Tame.exists_of_heard (tame : lan.Tame foreign)
    (sound : network.Sound lan.protocol foreign) {device place : Device} {entry : DeviceInfo}
    (member : entry ∈ heard (lan.discovery device) (network.heard device))
    (address : entry.ip = lan.address place) :
    ∃ other, entry = lan.info other ∧ lan.name other ≠ lan.name device ∧
      lan.announcement other ∈ network.heard device := by
  obtain ⟨datagram, arrived, announces⟩ := mem_heard.mp member
  obtain ⟨other, rfl⟩ | outside := sound.origin_of_heard arrived
  · have named := tame.announced device other
    rw [show lan.protocol.packet other = lan.announcement other from rfl, named] at announces
    split at announces
    case isTrue => cases announces
    case isFalse different =>
      cases announces
      exact ⟨other, rfl, different, arrived⟩
  · exact absurd ((ip_of_announced announces).trans address)
      (tame.elsewhere datagram outside place)

/-- The devices of other names that were heard are heard as they are. -/
theorem Lan.Tame.info_mem_heard (tame : lan.Tame foreign) {device other : Device}
    (different : lan.name other ≠ lan.name device)
    (arrived : lan.announcement other ∈ network.heard device) :
    lan.info other ∈ heard (lan.discovery device) (network.heard device) := by
  refine mem_heard.mpr ⟨_, arrived, ?_⟩
  rw [tame.announced, if_neg different]

/-! ### The tables of a network -/

/-- What the table of a device holds when it has heard some datagrams: no key twice, under the
addresses of the network exactly the devices of other names that were heard, each as it is, and
each device was reported once, when it was appended. -/
structure Lan.Truthful (lan : Lan Device) (device : Device) (arrived : List Datagram)
    (listener : Listener) : Prop where
  once : (listener.devices.map DeviceInfo.key).Nodup
  heard : ∀ other, lan.info other ∈ listener.devices ↔
    lan.name other ≠ lan.name device ∧ lan.announcement other ∈ arrived
  genuine : ∀ entry ∈ listener.devices, ∀ place, entry.ip = lan.address place →
    ∃ other, entry = lan.info other
  reported : Reports (lan.discovery device) listener

/-- A device of the table is the only one with its name and address. -/
theorem Lan.Tame.info_mem_iff (tame : lan.Tame foreign) (sound : network.Sound lan.protocol foreign)
    (device other : Device) :
    lan.info other ∈
        firstSeen DeviceInfo.key (UniversalAirdrop.heard (lan.discovery device)
          (network.heard device)) ↔
      lan.name other ≠ lan.name device ∧ lan.announcement other ∈ network.heard device := by
  constructor
  · intro member
    have first := List.mem_of_find?_eq_some (find?_of_mem_firstSeen _ member)
    obtain ⟨same, sameInfo, different, arrived⟩ := tame.exists_of_heard sound first rfl
    obtain rfl : other = same := tame.distinct _ _ (congrArg DeviceInfo.name sameInfo)
      (congrArg DeviceInfo.ip sameInfo)
    exact ⟨different, arrived⟩
  · rintro ⟨different, arrived⟩
    have key := (mem_map_firstSeen DeviceInfo.key).mpr
      (List.mem_map_of_mem (tame.info_mem_heard different arrived))
    obtain ⟨entry, member, sameKey⟩ := List.mem_map.mp key
    have first := List.mem_of_find?_eq_some (find?_of_mem_firstSeen _ member)
    obtain ⟨same, rfl, -⟩ := tame.exists_of_heard sound first (congrArg Prod.snd sameKey)
    obtain rfl : same = other := tame.distinct _ _ (congrArg Prod.fst sameKey)
      (congrArg Prod.snd sameKey)
    exact member

/-- In every network that can be reached, every device is left and its table is truthful. -/
theorem truthful_of_run [DecidableEq Device] (tame : lan.Tame foreign)
    (run : Run lan.protocol foreign lan.protocol.start network) (device : Device) :
    ∃ listener, network.node device = some listener ∧
      lan.Truthful device (network.heard device) listener := by
  have sound := Run.sound run sound_start
  obtain ⟨listener, present, reports, devices⟩ := tame.exists_listener sound device
  refine ⟨listener, present, ?_, fun other => ?_, fun entry member place address => ?_, reports⟩
  · rw [devices]
    exact nodup_map_firstSeen _ _
  · rw [devices]
    exact tame.info_mem_iff sound device other
  · rw [devices] at member
    have first := List.mem_of_find?_eq_some (find?_of_mem_firstSeen _ member)
    obtain ⟨other, same, -⟩ := tame.exists_of_heard sound first address
    exact ⟨other, same⟩

/-! ### Complete tables -/

/-- Every device that is left has every device of another name in its table, as it is. -/
def Lan.Complete (lan : Lan Device) (network : Medium.Network Device Datagram Listener) : Prop :=
  ∀ device listener, network.node device = some listener →
    ∀ other, lan.name other ≠ lan.name device → lan.info other ∈ listener.devices

/-- From every network that can be reached, complete tables can be reached, and they are complete
from then on whatever happens. -/
theorem exists_complete [DecidableEq Device] [Fintype Device] (tame : lan.Tame foreign)
    (run : Run lan.protocol foreign lan.protocol.start network) :
    ∃ next, Run lan.protocol foreign network next ∧
      ∀ later, Run lan.protocol foreign next later → lan.Complete later := by
  have sound := Run.sound run sound_start
  have whole := Run.whole run tame.harmless sound_start whole_start
  let pairs := (Finset.univ : Finset (Device × Device)).toList.map fun pair =>
    (pair.1, lan.announcement pair.2)
  obtain ⟨next, further, hears⟩ := @exists_hears_all _ _ _ lan.protocol foreign network _
    tame.harmless sound whole pairs (by
      intro wanted member
      obtain ⟨pair, -, rfl⟩ := List.mem_map.mp member
      exact Or.inl ⟨pair.2, rfl⟩)
  refine ⟨next, further, fun later more device listener present other different => ?_⟩
  obtain ⟨reached, same, truthful⟩ := truthful_of_run tame ((run.trans further).trans more) device
  cases present.symm.trans same
  refine (truthful.heard other).mpr ⟨different, (Run.heard_prefix more device).subset ?_⟩
  exact hears (device, lan.announcement other)
    (List.mem_map.mpr ⟨(device, other), Finset.mem_toList.mpr (Finset.mem_univ _), rfl⟩)

/-! ### Networks that lose a device -/

/-- In a network whose announcements fit, no device is ever lost exactly when all names are
speakable and all other traffic converts. -/
theorem never_lost_iff [DecidableEq Device] [Nonempty Device]
    (fits : ∀ device, (lan.announcement device).bytes.length ≤ listenBufSize - 1) :
    (∀ network, Run lan.protocol foreign lan.protocol.start network → network.Whole) ↔
      (∀ device, Speakable (lan.name device)) ∧
        ∀ datagram, foreign datagram → Converts datagram.received := by
  have speaks : ∀ device, Converts (lan.announcement device).received ↔
      Speakable (lan.name device) := by
    intro device
    rw [Datagram.received, List.take_of_length_le (fits device)]
    exact converts_broadcastPayload_iff _ _ _
  rw [whole_iff fun device state other datagram lost =>
    (receive_eq_none_iff device other datagram).mpr
      ((receive_eq_none_iff device state datagram).mp lost)]
  constructor
  · intro harmless
    have converts : ∀ datagram, lan.protocol.Origin foreign datagram →
        Converts datagram.received := by
      intro datagram origin
      obtain ⟨device⟩ := ‹Nonempty Device›
      have kept := harmless device .empty datagram origin
      rwa [Ne, receive_eq_none_iff, not_not] at kept
    exact ⟨fun device => (speaks device).mp (converts _ (Or.inl ⟨device, rfl⟩)),
      fun datagram outside => converts datagram (Or.inr outside)⟩
  · rintro ⟨speakable, converts⟩ device state datagram origin
    rw [Ne, receive_eq_none_iff, not_not]
    obtain ⟨sender, rfl⟩ | outside := origin
    · exact (speaks sender).mpr (speakable sender)
    · exact converts datagram outside

end Networks

/-- Two devices. -/
def twoDevices : Lan Bool where
  name device := if device then ascii "pc" else ascii "mac"
  target device := if device then .linux else .apple
  tcpPort _ := 9090
  address device := if device then ascii "10.0.0.2" else ascii "10.0.0.3"
  hasCallback _ := true

theorem tame_twoDevices : twoDevices.Tame fun _ => False where
  plain device := by cases device <;> decide
  fits device := by cases device <;> decide +kernel
  distinct device other name := by
    revert name
    cases device <;> cases other <;> decide
  converts _ outside := outside.elim
  elsewhere _ outside := outside.elim

/-- Both are up, and one has announced itself. -/
def announcedOne : Medium.Network Bool Datagram Listener :=
  ((twoDevices.protocol.start.turn true true).turn false true).carry (twoDevices.announcement true)

/-- The other has heard it. -/
def heardOne : Medium.Network Bool Datagram Listener :=
  announcedOne.hear false (twoDevices.announcement true)
    (twoDevices.protocol.receive false .empty (twoDevices.announcement true))

theorem run_heardOne :
    Run twoDevices.protocol (fun _ => False) twoDevices.protocol.start heardOne := by
  have up : Run twoDevices.protocol (fun _ => False) twoDevices.protocol.start
      ((twoDevices.protocol.start.turn true true).turn false true) :=
    (Relation.ReflTransGen.single (Step.turn true true)).tail (Step.turn false true)
  have sent : Run twoDevices.protocol (fun _ => False) twoDevices.protocol.start announcedOne :=
    up.tail (Step.send (whole_start true) rfl)
  exact sent.tail (Step.hear rfl rfl List.mem_cons_self)

theorem truthful_heardOne : ∃ listener, heardOne.node false = some listener ∧
    twoDevices.Truthful false [twoDevices.announcement true] listener :=
  truthful_of_run tame_twoDevices run_heardOne false

theorem exists_complete_heardOne :
    ∃ next, Run twoDevices.protocol (fun _ => False) heardOne next ∧
      ∀ later, Run twoDevices.protocol (fun _ => False) next later → twoDevices.Complete later :=
  exists_complete tame_twoDevices run_heardOne

theorem never_lost_twoDevices : (∀ network,
    Run twoDevices.protocol (fun _ => False) twoDevices.protocol.start network → network.Whole) ↔
      (∀ device, Speakable (twoDevices.name device)) ∧
        ∀ datagram : Datagram, False → Converts datagram.received :=
  never_lost_iff tame_twoDevices.fits

end UniversalAirdrop
