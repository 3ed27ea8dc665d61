/-
This file models the payload of `UdpDiscovery::broadcast_loop` and proves when
other devices hear an announcement as it was made.

The device name goes into the payload as it is. An announcement is heard as it
was made exactly when the name has no separator in it and the payload fits into
the buffer of the listener: a name with a separator is split, and a payload that
is cut loses digits of the port or whole fields.
-/

import UniversalAirdrop.Datagrams

namespace UniversalAirdrop

open Streams Numeral

/-! ### The broadcast payload -/

/-- The platforms the code tells apart when it is compiled. -/
inductive Target
  | windows
  | apple
  | linux
  | freeBSD
  | other
  deriving DecidableEq, Repr

def getOsName : Target → Bytes
  | .windows => ascii "Windows"
  | .apple => ascii "macOS"
  | .linux => ascii "Linux"
  | .freeBSD => ascii "FreeBSD"
  | .other => ascii "Unknown"

/-- The payload that `broadcast_loop` builds once and sends every time. -/
def broadcastPayload (target : Target) (deviceName : Bytes) (tcpPort : UInt16) : Bytes :=
  serializeDiscovery { name := deviceName, os := getOsName target, tcpPort, ip := [] }

theorem fieldDelim_notMem_getOsName (target : Target) : fieldDelim ∉ getOsName target := by
  cases target <;> decide

theorem length_serializeDiscovery (info : DeviceInfo) :
    (serializeDiscovery info).length =
      13 + info.name.length + info.os.length + (decimal info.tcpPort.toNat).length := by
  have word : magic.length = 8 := by decide
  have type : (decimal MsgType.discovery.code).length = 1 := by decide
  simp only [serializeDiscovery, List.length_append, List.length_cons, word, type]
  omega

theorem length_broadcastPayload (target : Target) (name : Bytes) (tcpPort : UInt16) :
    (broadcastPayload target name tcpPort).length =
      13 + name.length + (getOsName target).length + (decimal tcpPort.toNat).length :=
  length_serializeDiscovery _

/-! ### Announcements that are cut -/

/-- An announcement that was cut does not parse to what was announced. -/
theorem ne_of_parseDiscovery_take {info parsed : DeviceInfo} {count : ℕ}
    (shorter : count < (serializeDiscovery info).length)
    (accepted : parseDiscovery ((serializeDiscovery info).take count) = .ok (some parsed))
    (name : parsed.name = info.name) (os : parsed.os = info.os) :
    parsed.tcpPort ≠ info.tcpPort := by
  intro tcpPort
  obtain ⟨-, typeStr, portStr, port, fields, typeRead, portRead, cast, -⟩ :=
    parseDiscovery_eq_some_iff.mp accepted
  obtain ⟨word, last, rest, split, noWord, noType, noName, noOs, lastRead⟩ :=
    discoveryFields_split fields
  have more : (serializeDiscovery info).drop count ≠ [] := by
    rw [Ne, List.drop_eq_nil_iff]
    omega
  -- The fields before the port are whole, so what is lost is the end of the port.
  have digits : last ++ (serializeDiscovery info).drop count = decimal info.tcpPort.toNat := by
    have whole := List.take_append_drop count (serializeDiscovery info)
    have line : serializeDiscovery info = magic ++ fieldDelim ::
        (decimal MsgType.discovery.code ++ fieldDelim :: (info.name ++ fieldDelim :: (info.os ++
          fieldDelim :: decimal info.tcpPort.toNat))) := by
      simp [serializeDiscovery]
    rw [split] at whole
    generalize (serializeDiscovery info).drop count = lost at whole ⊢
    rw [line, name, os] at whole
    simp only [List.append_assoc, List.cons_append] at whole
    rw [name] at noName
    rw [os] at noOs
    rw [append_delim_inj noWord notMem_magic, append_delim_inj noType
      (fieldDelim_notMem_decimal _), append_delim_inj noName noName,
      append_delim_inj noOs noOs] at whole
    exact whole.2.2.2.2
  have noSeparator : fieldDelim ∉ last := fun member =>
    fieldDelim_notMem_decimal info.tcpPort.toNat (digits ▸ List.mem_append_left _ member)
  have alone : last = portStr := (count_last_iff lastRead).mp (List.count_eq_zero.mpr noSeparator)
  have nonempty : portStr ≠ [] := by
    rintro rfl
    rw [alone] at lastRead
    cases lastRead
  rw [alone] at digits
  have plain : Plain portStr := by
    refine (Plain.of_append nonempty more ?_).1
    rw [digits]
    exact plain_decimal _
  have small : port < 2 ^ 16 := by
    obtain ⟨nonnegative, written⟩ := eq_decimal_of_stoi portRead plain
    have fewer := value_le_value_append portStr ((serializeDiscovery info).drop count)
    rw [digits, written, value_decimal, value_decimal] at fewer
    have bound : info.tcpPort.toNat < 2 ^ 16 := info.tcpPort.toNat_lt
    omega
  have kept := (decimal_port_eq_iff portRead).mpr ⟨plain, small⟩
  rw [← cast, tcpPort, ← digits] at kept
  exact more (List.append_right_eq_self.mp kept)

/-! ### Hearing an announcement -/

/-- A listener of another name that does not know the announcing device appends it as it was
announced, and the announcing device itself ignores what it hears. -/
def HeardAsMade (target : Target) (name : Bytes) (tcpPort : UInt16) : Prop :=
  (∀ discovery : UdpDiscovery, ∀ state source, discovery.deviceName ≠ name →
    (∀ device ∈ state.devices, ¬ (device.name = name ∧ device.ip = source)) →
    ∃ next, listenStep discovery state ⟨broadcastPayload target name tcpPort, source⟩ = .ok next ∧
      next.devices = state.devices ++ [⟨name, getOsName target, tcpPort, source⟩]) ∧
  ∀ discovery : UdpDiscovery, ∀ state source, discovery.deviceName = name →
    listenStep discovery state ⟨broadcastPayload target name tcpPort, source⟩ = .ok state

section

variable {target : Target} {name : Bytes} {tcpPort : UInt16}

/-- What a listener of another name has to read to hear the announcement. -/
theorem parsed_of_heardAsMade (heard : HeardAsMade target name tcpPort) :
    ∃ parsed, parseDiscovery ((broadcastPayload target name tcpPort).take (listenBufSize - 1)) =
        .ok (some parsed) ∧
      parsed.name = name ∧ parsed.os = getOsName target ∧ parsed.tcpPort = tcpPort := by
  obtain ⟨next, stepped, devices⟩ := heard.1 ⟨name ++ [0], false⟩ .empty [] (by simp) nofun
  rw [listenStep_eq] at stepped
  cases parses : parseDiscovery (Datagram.received ⟨broadcastPayload target name tcpPort, []⟩) with
  | error fault =>
    rw [parses] at stepped
    cases stepped
  | ok message =>
    rw [parses, Except.map, Except.ok.injEq] at stepped
    subst stepped
    cases message with
    | none => cases devices
    | some parsed =>
      refine ⟨parsed, parses, ?_⟩
      simp only [Option.elim_some, Listener.learn] at devices
      split at devices
      case isTrue => cases devices
      case isFalse =>
        have device := (List.cons.inj devices).1
        exact ⟨congrArg DeviceInfo.name device, congrArg DeviceInfo.os device,
          congrArg DeviceInfo.tcpPort device⟩

/-- A payload that parses to what was announced is heard as it was made. -/
theorem heardAsMade_of_parsed
    (parses : parseDiscovery ((broadcastPayload target name tcpPort).take (listenBufSize - 1)) =
      .ok (some ⟨name, getOsName target, tcpPort, []⟩)) : HeardAsMade target name tcpPort := by
  constructor
  · intro discovery state source other unknown
    refine ⟨state.learn discovery ⟨name, getOsName target, tcpPort, source⟩, ?_, ?_⟩
    · rw [listenStep_eq, Datagram.received, parses]
      rfl
    · have notKnown : ¬ known state.devices ⟨name, getOsName target, tcpPort, source⟩ = true := by
        simpa [known] using unknown
      rw [Listener.learn, if_neg (not_or.mpr ⟨Ne.symm other, notKnown⟩)]
  · intro discovery state source own
    rw [listenStep_eq, Datagram.received, parses]
    simp only [Except.map, Option.elim_some, Listener.learn]
    rw [if_pos (Or.inl own.symm)]

/-- An announcement is heard as it was made exactly when no separator stands in the device name
and name, system and port together have at most 1010 bytes. -/
theorem heardAsMade_iff (target : Target) (name : Bytes) (tcpPort : UInt16) :
    HeardAsMade target name tcpPort ↔ fieldDelim ∉ name ∧
      name.length + (getOsName target).length + (decimal tcpPort.toNat).length ≤ 1010 := by
  have length := length_broadcastPayload target name tcpPort
  have buffer : listenBufSize - 1 = 1023 := rfl
  constructor
  · intro heard
    obtain ⟨parsed, accepted, sameName, sameOs, samePort⟩ := parsed_of_heardAsMade heard
    constructor
    · obtain ⟨-, typeStr, portStr, port, fields, -⟩ := parseDiscovery_eq_some_iff.mp accepted
      obtain ⟨word, last, rest, -, -, -, plainName, -⟩ := discoveryFields_split fields
      rw [← sameName]
      exact plainName
    · by_contra longer
      refine ne_of_parseDiscovery_take ?_ accepted sameName sameOs samePort
      show listenBufSize - 1 < (broadcastPayload target name tcpPort).length
      rw [length, buffer]
      omega
  · rintro ⟨plain, fits⟩
    refine heardAsMade_of_parsed ?_
    rw [List.take_of_length_le (by rw [length, buffer]; omega)]
    exact parseDiscovery_serializeDiscovery plain (fieldDelim_notMem_getOsName target)

end

/-- The name `a:b` shifts the system into the port field, where the conversion throws. -/
theorem not_heardAsMade_colon : ¬ HeardAsMade .linux (ascii "a:b") 9090 := by
  intro heard
  obtain ⟨next, stepped, -⟩ := heard.1 ⟨ascii "me", false⟩ .empty [] (by decide) nofun
  have thrown : parseDiscovery (Datagram.received
      ⟨broadcastPayload .linux (ascii "a:b") 9090, []⟩) = .error .invalidArgument := by
    decide +kernel
  rw [listenStep_eq, thrown] at stepped
  cases stepped

end UniversalAirdrop
