/-
This file proves what a single datagram can do to the listener. One iteration of
`listen_loop` ends with an exception exactly when a conversion of the parser
throws, and the parser accepts messages that are not well-formed. A run is
handled as it should be exactly when each of its datagrams is harmless in both
respects.
-/

import UniversalAirdrop.WireFormat
import UniversalAirdrop.UdpDiscovery

namespace UniversalAirdrop

open Streams Numeral

/-! ### What a datagram should do -/

/-- An iteration completes exactly when the parser does not throw. -/
theorem listenStep_ok_iff {discovery : UdpDiscovery} {state : Listener} {datagram : Datagram} :
    (∃ next, listenStep discovery state datagram = .ok next) ↔
      ∃ message, parseDiscovery datagram.received = .ok message := by
  rw [listenStep_eq]
  cases parseDiscovery datagram.received with
  | error fault => exact iff_of_false nofun nofun
  | ok message => exact iff_of_true ⟨_, rfl⟩ ⟨_, rfl⟩

/-- A message that is written for a device in whose name and system there is no separator. -/
def WellFormed (message : Bytes) : Prop :=
  ∃ info : DeviceInfo, fieldDelim ∉ info.name ∧ fieldDelim ∉ info.os ∧
    message = serializeDiscovery info

/-- The iteration completes, and unless the whole datagram is a well-formed message, the parser
rejects what was received of it and the listener stays as it was. -/
def Handled (discovery : UdpDiscovery) (state : Listener) (datagram : Datagram) : Prop :=
  (∃ next, listenStep discovery state datagram = .ok next) ∧
  (¬ WellFormed datagram.bytes → parseDiscovery datagram.received = .ok none ∧
    listenStep discovery state datagram = .ok state)

/-- The type field converts if there are enough fields, and the port field does if the type is
that of an announcement. -/
def Converts (message : Bytes) : Prop :=
  ∀ typeStr name os portStr, magic <+: message →
    discoveryFields message = some (typeStr, name, os, portStr) →
    ∃ type, stoi typeStr = .ok type ∧
      (type = MsgType.discovery.code → ∃ port, stoi portStr = .ok port)

/-- The parser returns exactly when the fields it converts convert. -/
theorem parseDiscovery_ok_iff (message : Bytes) :
    (∃ result, parseDiscovery message = .ok result) ↔ Converts message := by
  unfold parseDiscovery Converts
  by_cases starts : magic <+: message
  case neg =>
    rw [if_neg starts]
    exact iff_of_true ⟨none, rfl⟩ fun _ _ _ _ begins => absurd begins starts
  case pos =>
    rw [if_pos starts]
    cases fields : discoveryFields message with
    | none => exact iff_of_true ⟨none, rfl⟩ nofun
    | some texts =>
      obtain ⟨typeStr, name, os, portStr⟩ := texts
      constructor
      · rintro ⟨result, returned⟩ typeStr' name' os' portStr' - same
        cases same
        cases typeRead : stoi typeStr with
        | error fault =>
          simp only [typeRead, error_bind] at returned
          cases returned
        | ok type =>
          refine ⟨type, rfl, fun isDiscovery => ?_⟩
          simp only [typeRead, ok_bind, isDiscovery, not_true, ne_eq, if_false] at returned
          cases portRead : stoi portStr with
          | error fault =>
            rw [portRead] at returned
            cases returned
          | ok port => exact ⟨port, rfl⟩
      · intro converts
        obtain ⟨type, typeRead, portConverts⟩ := converts typeStr name os portStr starts rfl
        simp only [typeRead, ok_bind]
        by_cases isDiscovery : type = MsgType.discovery.code
        · obtain ⟨port, portRead⟩ := portConverts isDiscovery
          rw [if_neg (not_not_intro isDiscovery), portRead]
          exact ⟨_, rfl⟩
        · rw [if_pos isDiscovery]
          exact ⟨none, rfl⟩

/-- The message is not one of type announcement. -/
def Foreign (message : Bytes) : Prop :=
  ∀ typeStr name os portStr, magic <+: message →
    discoveryFields message = some (typeStr, name, os, portStr) →
      stoi typeStr ≠ .ok MsgType.discovery.code

/-- Of the messages that the parser does not throw on, it rejects those that are foreign. -/
theorem foreign_iff {message : Bytes} (converts : Converts message) :
    Foreign message ↔ ∀ info, parseDiscovery message ≠ .ok (some info) := by
  constructor
  · intro foreign info accepted
    obtain ⟨starts, typeStr, portStr, port, fields, typeRead, -⟩ :=
      parseDiscovery_eq_some_iff.mp accepted
    exact foreign _ _ _ _ starts fields typeRead
  · intro rejected typeStr name os portStr starts fields typeRead
    obtain ⟨type, read, portConverts⟩ := converts typeStr name os portStr starts fields
    obtain rfl : type = MsgType.discovery.code := Except.ok.inj (read.symm.trans typeRead)
    obtain ⟨port, portRead⟩ := portConverts rfl
    exact rejected ⟨name, os, UInt16.ofInt port, []⟩ (parseDiscovery_eq_some_iff.mpr
      ⟨starts, typeStr, portStr, port, fields, typeRead, portRead, rfl, rfl⟩)

/-- A datagram that the listener cannot be harmed with: the fields of what is received convert;
and a datagram that is received whole is tidy if it is an announcement, while one that is cut off
is foreign, or well-formed before it is cut. -/
def Harmless (datagram : Datagram) : Prop :=
  Converts datagram.received ∧
    if datagram.bytes.length < listenBufSize then DiscoveryTidy datagram.bytes
    else Foreign datagram.received ∨ WellFormed datagram.bytes

/-- An announcement that is received whole was written for the device that it announces, if it is
well-formed. -/
theorem wellFormed_iff {message : Bytes} {info : DeviceInfo}
    (accepted : parseDiscovery message = .ok (some info)) :
    WellFormed message ↔ serializeDiscovery info = message := by
  constructor
  · rintro ⟨written, plainName, plainOs, rfl⟩
    rw [parseDiscovery_serializeDiscovery plainName plainOs] at accepted
    cases accepted
    rfl
  · intro same
    obtain ⟨-, typeStr, portStr, port, fields, -⟩ := parseDiscovery_eq_some_iff.mp accepted
    obtain ⟨word, last, rest, -, -, -, plainName, plainOs, -⟩ := discoveryFields_split fields
    exact ⟨info, plainName, plainOs, same.symm⟩

/-- A datagram is handled as it should be exactly when it is harmless. -/
theorem handled_iff (discovery : UdpDiscovery) (state : Listener) (datagram : Datagram) :
    Handled discovery state datagram ↔ Harmless datagram := by
  rw [Handled, Harmless, listenStep_ok_iff, parseDiscovery_ok_iff, and_congr_right_iff]
  intro converts
  have rejects : (¬ WellFormed datagram.bytes → parseDiscovery datagram.received = .ok none ∧
      listenStep discovery state datagram = .ok state) ↔
        ∀ info, parseDiscovery datagram.received = .ok (some info) →
          WellFormed datagram.bytes := by
    constructor
    · intro rejected info accepted
      by_contra illFormed
      rw [(rejected illFormed).1] at accepted
      cases accepted
    · intro wellFormed illFormed
      obtain ⟨result, returned⟩ := (parseDiscovery_ok_iff _).mpr converts
      cases result with
      | none => exact ⟨returned, by rw [listenStep_eq, returned]; rfl⟩
      | some info => exact absurd (wellFormed info returned) illFormed
  rw [rejects]
  split
  case isTrue short =>
    have whole : datagram.received = datagram.bytes :=
      List.take_of_length_le (Nat.le_sub_one_of_lt short)
    rw [whole, discoveryTidy_iff]
    exact forall₂_congr fun info accepted => wellFormed_iff accepted
  case isFalse =>
    rw [foreign_iff converts]
    constructor
    · intro wellFormed
      by_cases written : WellFormed datagram.bytes
      · exact Or.inr written
      · exact Or.inl fun info accepted => written (wellFormed info accepted)
    · rintro (rejected | written) info accepted
      · exact absurd accepted (rejected info)
      · exact written

/-! ### Sequences of datagrams -/

/-- The listener survives exactly the sequences whose datagrams all convert. -/
theorem listenLoop_ok_iff (discovery : UdpDiscovery) (datagrams : List Datagram)
    (state : Listener) :
    (∃ last, listenLoop discovery datagrams state = .ok last) ↔
      ∀ datagram ∈ datagrams, Converts datagram.received := by
  induction datagrams generalizing state with
  | nil => exact iff_of_true ⟨state, rfl⟩ nofun
  | cons datagram rest inductionHypothesis =>
    rw [List.forall_mem_cons, ← parseDiscovery_ok_iff, ← listenStep_ok_iff]
    show (∃ last, (listenStep discovery state datagram >>= listenLoop discovery rest) = .ok last) ↔
      (∃ next, listenStep discovery state datagram = .ok next) ∧ _
    cases listenStep discovery state datagram with
    | error fault => exact iff_of_false nofun fun both => nomatch both.1
    | ok next =>
      rw [ok_bind, inductionHypothesis next]
      exact (and_iff_right ⟨next, rfl⟩).symm

/-- A sequence of datagrams is survived and each of its datagrams is handled as it should be
exactly when each of them is harmless. -/
theorem listenLoop_handles_iff (discovery : UdpDiscovery) (datagrams : List Datagram)
    (state : Listener) :
    ((∃ last, listenLoop discovery datagrams state = .ok last) ∧
      ∀ earlier datagram later, datagrams = earlier ++ datagram :: later →
        ∃ before, listenLoop discovery earlier state = .ok before ∧
          Handled discovery before datagram) ↔
      ∀ datagram ∈ datagrams, Harmless datagram := by
  constructor
  · rintro ⟨-, handles⟩ datagram member
    obtain ⟨earlier, later, split⟩ := List.append_of_mem member
    obtain ⟨before, -, handled⟩ := handles earlier datagram later split
    exact (handled_iff discovery before datagram).mp handled
  · intro harmless
    refine ⟨(listenLoop_ok_iff discovery datagrams state).mpr fun datagram member =>
      (harmless datagram member).1, ?_⟩
    rintro earlier datagram later rfl
    obtain ⟨before, reached⟩ := (listenLoop_ok_iff discovery earlier state).mpr
      fun other member => (harmless other (List.mem_append_left _ member)).1
    exact ⟨before, reached, (handled_iff discovery before datagram).mpr
      (harmless datagram (List.mem_append_right _ List.mem_cons_self))⟩

/-- A message whose type field is no number ends the process of every listener. -/
theorem not_handled_textType :
    ¬ Handled ⟨ascii "me", true⟩ .empty ⟨ascii "UAIRDROP:x:pc:Linux:9090", ascii "10.0.0.2"⟩ := by
  rintro ⟨⟨next, stepped⟩, -⟩
  have thrown : listenStep ⟨ascii "me", true⟩ .empty
      ⟨ascii "UAIRDROP:x:pc:Linux:9090", ascii "10.0.0.2"⟩ = .error .invalidArgument := by
    rw [listenStep_eq]
    have parsed : parseDiscovery (Datagram.received
        ⟨ascii "UAIRDROP:x:pc:Linux:9090", ascii "10.0.0.2"⟩) = .error .invalidArgument := by
      decide +kernel
    rw [parsed]
    rfl
  rw [thrown] at stepped
  cases stepped

end UniversalAirdrop
