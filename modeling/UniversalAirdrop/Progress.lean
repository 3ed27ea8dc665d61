/-
This file proves what a sending run looks like at every moment. The calls on the
socket are a list, so a moment is a prefix of it: what was accepted so far is a
prefix of the message, the callback is called with the bytes accepted at that
moment, and a failing `send` is the last call before the socket is closed.
-/

import UniversalAirdrop.Sending

namespace UniversalAirdrop

open Imperative Streams Filling

/-! ### The reports of a run -/

/-- What the callback was called with. -/
def progressOf (events : List ClientEvent) : List (ℕ × ℕ) :=
  events.filterMap fun
    | .progress sent total => some (sent, total)
    | _ => none

/-- The reports after the first `count` chunks of a payload of `size` bytes. -/
def reports (size count : ℕ) : List (ℕ × ℕ) :=
  (List.range count).map fun index => (min (chunkSize * (index + 1)) size, size)

/-- Whenever the callback is called, the socket has accepted the header and exactly the bytes of
the payload that are reported, and at least one. -/
def Punctual (header payload : Bytes) (events : List ClientEvent) : Prop :=
  ∀ before sent total after, events = before ++ .progress sent total :: after →
    total = payload.length ∧ 0 < sent ∧ sent ≤ total ∧ wire before = header ++ payload.take sent

@[simp] theorem progressOf_append (first second : List ClientEvent) :
    progressOf (first ++ second) = progressOf first ++ progressOf second :=
  List.filterMap_append

@[simp] theorem progressOf_map_sent (pieces : List Bytes) :
    progressOf (pieces.map .sent) = [] := by
  rw [progressOf, List.filterMap_map, List.filterMap_eq_nil_iff]
  exact fun _ _ => rfl

theorem sendFailed_notMem_map_sent (pieces : List Bytes) :
    ClientEvent.sendFailed ∉ pieces.map .sent := by
  simp

theorem mem_progressOf {events : List ClientEvent} {sent total : ℕ} :
    (sent, total) ∈ progressOf events ↔ .progress sent total ∈ events := by
  rw [progressOf, List.mem_filterMap]
  constructor
  · rintro ⟨event, member, same⟩
    cases event <;> cases same
    exact member
  · exact fun member => ⟨_, member, rfl⟩

theorem reports_succ (size count : ℕ) :
    reports size (count + 1) =
      reports size count ++ [(min (chunkSize * (count + 1)) size, size)] := by
  rw [reports, List.range_succ, List.map_append, List.map_singleton]
  rfl

/-- Fewer reports are the first of the more. -/
theorem reports_prefix (size : ℕ) {count more : ℕ} (fewer : count ≤ more) :
    reports size count <+: reports size more := by
  refine List.IsPrefix.map _ ?_
  obtain ⟨rest, rfl⟩ := Nat.exists_eq_add_of_le fewer
  rw [List.range_add]
  exact List.prefix_append _ _

namespace Punctual

variable {header payload : Bytes} {events : List ClientEvent}

theorem nil : Punctual header payload [] := by
  intro before sent total after split
  cases before <;> cases split

theorem openSocket (punctual : Punctual header payload events) :
    Punctual header payload (.openSocket :: events) := by
  intro before sent total after split
  cases before with
  | nil => cases split
  | cons event before =>
    cases split
    exact punctual before sent total after rfl

/-- Calls without reports keep a run punctual. -/
theorem append (punctual : Punctual header payload events) (silent : progressOf more = []) :
    Punctual header payload (events ++ more) := by
  intro before sent total after split
  obtain ⟨middle, -, inMore⟩ | ⟨middle, inEvents, rest⟩ := List.append_eq_append_iff.mp split
  · have member : (sent, total) ∈ progressOf more := by
      rw [mem_progressOf, inMore]
      exact List.mem_append_right _ List.mem_cons_self
    rw [silent] at member
    cases member
  · cases middle with
    | nil =>
      have member : (sent, total) ∈ progressOf more := by
        rw [mem_progressOf, ← List.nil_append more, ← rest]
        exact List.mem_cons_self
      rw [silent] at member
      cases member
    | cons event middle =>
      cases rest
      exact punctual before sent total middle inEvents

/-- A report of what has been accepted keeps a run punctual. -/
theorem report (punctual : Punctual header payload events) {sent : ℕ} (positive : 0 < sent)
    (bounded : sent ≤ payload.length) (accepted : wire events = header ++ payload.take sent) :
    Punctual header payload (events ++ [.progress sent payload.length]) := by
  intro before sent' total after split
  obtain ⟨middle, rfl, inLast⟩ | ⟨middle, inEvents, rest⟩ := List.append_eq_append_iff.mp split
  · cases middle with
    | nil =>
      cases inLast
      rw [List.append_nil]
      exact ⟨rfl, positive, bounded, accepted⟩
    | cons event middle =>
      cases middle <;> cases inLast
  · cases middle with
    | nil =>
      cases rest
      rw [List.append_nil] at inEvents
      rw [← inEvents]
      exact ⟨rfl, positive, bounded, accepted⟩
    | cons event middle =>
      cases rest
      exact punctual before sent' total middle inEvents

end Punctual

/-! ### The calls of the loops -/

/-- The failure that a stop logs. -/
def failureOf {Value : Type} : Except SendStop Value → List ClientEvent
  | .ok _ => []
  | .error _ => [.sendFailed]

/-- The calls of `send_all`: the pieces that were accepted, and the failure it stopped at. -/
def sendCalls (pieces : List Bytes) (outcome : Except SendStop Unit) : List ClientEvent :=
  pieces.map .sent ++ failureOf outcome

@[simp] theorem progressOf_sendCalls (pieces : List Bytes) (outcome : Except SendStop Unit) :
    progressOf (sendCalls pieces outcome) = [] := by
  rw [sendCalls, progressOf_append, progressOf_map_sent]
  cases outcome <;> rfl

/-- One call of `send` is logged. -/
theorem ClientSocket.log_send (socket : ClientSocket) (bytes : Bytes) :
    (∃ count piece, (socket.send bytes).1 = .ok count ∧
        (socket.send bytes).2.log = socket.log ++ [.sent piece]) ∨
      ∃ stop, (socket.send bytes).1 = .error stop ∧
        (socket.send bytes).2.log = socket.log ++ [.sendFailed] := by
  unfold ClientSocket.send
  cases socket.sends 0 with
  | accepts asked => exact Or.inl ⟨_, _, rfl, rfl⟩
  | fails => exact Or.inr ⟨_, rfl, rfl⟩
  | brokenPipe => exact Or.inr ⟨_, rfl, rfl⟩

theorem sendAllLoop_calls {start : ClientSocket} {data : Bytes} {state : SendState}
    {result : Except SendStop Unit × ClientSocket}
    (sends : ∃ pieces, state.socket.log = start.log ++ sendCalls pieces (.ok ()))
    (stepped : (sendAllLoop data).step state = .inr result) :
    ∃ pieces, result.2.log = start.log ++ sendCalls pieces result.1 := by
  obtain ⟨pieces, log⟩ := sends
  simp only [sendAllLoop] at stepped
  split at stepped
  case isFalse =>
    cases stepped
    exact ⟨pieces, log⟩
  case isTrue =>
    split at stepped
    case h_2 => cases stepped
    case h_1 stop socket failed =>
      cases stepped
      refine ⟨pieces, ?_⟩
      have logged := state.socket.log_send (data.drop state.total)
      rw [failed, log, sendCalls, failureOf, List.append_nil] at logged
      obtain ⟨count, piece, same, -⟩ | ⟨_, -, logged⟩ := logged
      · cases same
      · rw [logged, List.append_assoc]
        rfl

/-- `send_all` logs accepted pieces, and a failure at the end if it stops. -/
theorem sendAll_calls (start : ClientSocket) (data : Bytes) :
    ∃ pieces, (sendAll start data).2.log =
      start.log ++ sendCalls pieces (sendAll start data).1 := by
  refine (sendAllLoop data).run_spec
    (fun state => ∃ pieces, state.socket.log = start.log ++ sendCalls pieces (.ok ()))
    (fun result => ∃ pieces, result.2.log = start.log ++ sendCalls pieces result.1)
    ⟨[], (List.append_nil _).symm⟩ ?_ fun _ _ => sendAllLoop_calls
  rintro state next ⟨pieces, log⟩ stepped
  simp only [sendAllLoop] at stepped
  split at stepped
  case isFalse => cases stepped
  case isTrue =>
    split at stepped
    case h_1 => cases stepped
    case h_2 count socket sent =>
      cases stepped
      have logged := state.socket.log_send (data.drop state.total)
      rw [sent, log, sendCalls, failureOf, List.append_nil] at logged
      obtain ⟨_, piece, -, logged⟩ | ⟨stop, same, -⟩ := logged
      · refine ⟨pieces ++ [piece], ?_⟩
        rw [sendCalls, failureOf, List.append_nil, List.map_append, ← List.append_assoc]
        exact logged
      · cases same

/-- The calls of a run that has sent the header and `totalSent` bytes of the payload in whole
chunks. -/
structure OnTrack (reportsProgress : Bool) (header payload : Bytes) (totalSent : ℕ)
    (log : List ClientEvent) : Prop where
  bounded : totalSent ≤ payload.length
  aligned : totalSent = payload.length ∨ totalSent % chunkSize = 0
  unfailed : .sendFailed ∉ log
  accepted : wire log = header ++ payload.take totalSent
  reported : progressOf log =
    if reportsProgress then reports payload.length (chunkCount totalSent) else []
  punctual : Punctual header payload log

/-- The calls of a run that has ended with a failing `send`. -/
structure OffTrack (reportsProgress : Bool) (header payload : Bytes)
    (log : List ClientEvent) : Prop where
  failed : ∃ before, log = before ++ [.sendFailed] ∧ .sendFailed ∉ before
  reported : ∃ count ≤ chunkCount payload.length,
    progressOf log = if reportsProgress then reports payload.length count else []
  punctual : Punctual header payload log

theorem chunkCount_mono {size more : ℕ} (fewer : size ≤ more) :
    chunkCount size ≤ chunkCount more :=
  Nat.div_le_div_right (by omega)

/-- After a whole number of chunks, one more chunk is counted as one. -/
theorem chunkCount_add {size chunk : ℕ} (aligned : size % chunkSize = 0) (positive : 0 < chunk)
    (bounded : chunk ≤ chunkSize) :
    chunkCount (size + chunk) = chunkCount size + 1 ∧
      chunkSize * (chunkCount size + 1) = size + chunkSize := by
  unfold chunkCount chunkSize at *
  omega

theorem progressOf_reportProgress (reportsProgress : Bool) (totalSent totalSize : ℕ) :
    progressOf (reportProgress reportsProgress totalSent totalSize) =
      if reportsProgress then [(totalSent, totalSize)] else [] := by
  cases reportsProgress <;> rfl

section Chunks

variable {reportsProgress : Bool} {header payload : Bytes} {totalSent : ℕ}
  {socket after : ClientSocket}

/-- A chunk that was sent and reported keeps a run on track. -/
theorem OnTrack.chunk (track : OnTrack reportsProgress header payload totalSent socket.log)
    (unfinished : totalSent < payload.length)
    (sent : sendAll socket ((payload.drop totalSent).take
      (min chunkSize (payload.length - totalSent))) = (.ok (), after)) :
    OnTrack reportsProgress header payload
      (totalSent + min chunkSize (payload.length - totalSent))
      (after.log ++ reportProgress reportsProgress
        (totalSent + min chunkSize (payload.length - totalSent)) payload.length) := by
  have aligned : totalSent % chunkSize = 0 :=
    track.aligned.resolve_left unfinished.ne
  have positive : 0 < min chunkSize (payload.length - totalSent) := by
    have chunkPositive : 0 < chunkSize := by decide
    omega
  obtain ⟨counted, whole⟩ := chunkCount_add aligned positive (Nat.min_le_left _ _)
  have value : min (chunkSize * (chunkCount totalSent + 1)) payload.length =
      totalSent + min chunkSize (payload.length - totalSent) := by omega
  have transmits := (sendAll_transmits socket _).whole (congrArg Prod.fst sent)
  obtain ⟨pieces, calls⟩ := sendAll_calls socket
    ((payload.drop totalSent).take (min chunkSize (payload.length - totalSent)))
  rw [sent] at transmits calls
  have accepted : wire after.log =
      header ++ payload.take (totalSent + min chunkSize (payload.length - totalSent)) := by
    rw [transmits, track.accepted, List.append_assoc, ← List.take_add]
  have punctual : Punctual header payload after.log := by
    rw [calls]
    exact track.punctual.append (progressOf_sendCalls _ _)
  refine ⟨by omega, ?_, ?_, ?_, ?_, ?_⟩
  · by_cases last : payload.length - totalSent ≤ chunkSize
    · left
      omega
    · right
      rw [Nat.min_eq_left (by omega), Nat.add_mod_right]
      exact aligned
  · rw [calls, List.mem_append, List.mem_append, not_or, not_or]
    refine ⟨⟨track.unfailed, ?_⟩, ?_⟩
    · simp [sendCalls, failureOf]
    · cases reportsProgress <;> simp [reportProgress]
  · rw [wire_append, wire_reportProgress, List.append_nil, accepted]
  · rw [calls, progressOf_append, progressOf_append, progressOf_sendCalls, List.append_nil,
      track.reported, progressOf_reportProgress, counted, reports_succ, value]
    cases reportsProgress <;> rfl
  · cases reportsProgress with
    | false => exact punctual.append rfl
    | true => exact punctual.report (by omega) (by omega) accepted

/-- A chunk whose sending fails ends a run. -/
theorem OnTrack.failure (track : OnTrack reportsProgress header payload totalSent socket.log)
    {data : Bytes} {stop : SendStop} (failed : sendAll socket data = (.error stop, after)) :
    OffTrack reportsProgress header payload after.log := by
  obtain ⟨pieces, calls⟩ := sendAll_calls socket data
  rw [failed] at calls
  refine ⟨⟨socket.log ++ pieces.map .sent, ?_, ?_⟩,
    ⟨chunkCount totalSent, chunkCount_mono track.bounded, ?_⟩, ?_⟩
  · rw [calls, List.append_assoc]
    rfl
  · rw [List.mem_append, not_or]
    exact ⟨track.unfailed, sendFailed_notMem_map_sent pieces⟩
  · rw [calls, progressOf_append, progressOf_sendCalls, List.append_nil, track.reported]
  · rw [calls]
    exact track.punctual.append (progressOf_sendCalls _ _)

/-- A chunk loop that starts on track stays on track to the end of the payload, or ends with a
failing `send`. -/
theorem chunkLoop_track (track : OnTrack reportsProgress header payload 0 socket.log) :
    let result := (chunkLoop reportsProgress payload).run { socket, totalSent := 0 }
    (result.1 = .ok () → OnTrack reportsProgress header payload payload.length result.2.log) ∧
    (∀ stop, result.1 = .error stop → OffTrack reportsProgress header payload result.2.log) := by
  refine (chunkLoop reportsProgress payload).run_spec
    (fun state => OnTrack reportsProgress header payload state.totalSent state.socket.log)
    (fun result =>
      (result.1 = .ok () → OnTrack reportsProgress header payload payload.length result.2.log) ∧
      (∀ stop, result.1 = .error stop → OffTrack reportsProgress header payload result.2.log))
    track ?_ ?_
  · intro state next track stepped
    simp only [chunkLoop] at stepped
    split at stepped
    case isFalse => cases stepped
    case isTrue unfinished =>
      split at stepped
      case h_1 => cases stepped
      case h_2 after sent =>
        cases stepped
        exact track.chunk unfinished sent
  · intro state result track stepped
    simp only [chunkLoop] at stepped
    split at stepped
    case isFalse complete =>
      cases stepped
      refine ⟨fun _ => ?_, fun stop same => by cases same⟩
      have whole : state.totalSent = payload.length :=
        Nat.le_antisymm track.bounded (Nat.le_of_not_lt complete)
      rw [← whole]
      exact track
    case isTrue =>
      split at stepped
      case h_2 => cases stepped
      case h_1 stop after failed =>
        cases stepped
        exact ⟨fun same => (by cases same), fun _ _ => track.failure failed⟩

/-- A run that sends the header and then the payload is on track to the end, or ends with a
failing `send`. -/
theorem transmit_track (sends : ℕ → SendOutcome) (header : FileHeader) :
    let result := transmit reportsProgress { sends, log := [] } header payload
    (result.1 = .ok () →
      OnTrack reportsProgress (serializeFileHeader header) payload payload.length result.2.log) ∧
    (∀ stop, result.1 = .error stop →
      OffTrack reportsProgress (serializeFileHeader header) payload result.2.log) := by
  have transmits := sendAll_transmits { sends, log := [] } (serializeFileHeader header)
  obtain ⟨pieces, calls⟩ := sendAll_calls { sends, log := [] } (serializeFileHeader header)
  unfold transmit
  cases sent : sendAll { sends, log := [] } (serializeFileHeader header) with
  | mk outcome socket =>
    rw [sent] at transmits calls
    rw [List.nil_append] at calls
    have silent : progressOf socket.log = if reportsProgress then reports payload.length 0
        else [] := by
      rw [calls, progressOf_sendCalls]
      cases reportsProgress <;> rfl
    have punctual : Punctual (serializeFileHeader header) payload socket.log := by
      rw [calls]
      exact Punctual.nil.append (progressOf_sendCalls _ _)
    cases outcome with
    | error stop =>
      exact ⟨nofun, fun _ _ => ⟨⟨_, calls, sendFailed_notMem_map_sent pieces⟩,
        ⟨0, Nat.zero_le _, silent⟩, punctual⟩⟩
    | ok value =>
      refine chunkLoop_track ⟨Nat.zero_le _, Or.inr (Nat.zero_mod _), ?_, ?_, silent, punctual⟩
      · rw [calls, sendCalls, failureOf, List.append_nil]
        exact sendFailed_notMem_map_sent pieces
      · rw [transmits.whole rfl, List.take_zero, List.append_nil]
        rfl

end Chunks

/-! ### A sending run at every moment -/

/-- The reported amounts alone. -/
theorem map_fst_reports (size count : ℕ) :
    (reports size count).map Prod.fst =
      (List.range count).map fun index => min (chunkSize * (index + 1)) size :=
  List.map_map

/-- The reports of a whole payload increase. -/
theorem reports_increasing (size : ℕ) :
    ((reports size (chunkCount size)).map Prod.fst).Pairwise (· < ·) := by
  rw [map_fst_reports, List.pairwise_map]
  refine List.pairwise_lt_range.imp_of_mem ?_
  intro first second _ inRange less
  rw [List.mem_range] at inRange
  have positive : 0 < chunkSize := by decide
  have within : chunkSize * second < size := by
    have counted : (second + 1) * chunkSize ≤ size + chunkSize - 1 :=
      (Nat.le_div_iff_mul_le positive).mp inRange
    rw [Nat.succ_mul, Nat.mul_comm second] at counted
    omega
  have before : chunkSize * (first + 1) ≤ chunkSize * second := Nat.mul_le_mul_left _ less
  rw [Nat.min_eq_left (before.trans within.le), Nat.mul_succ chunkSize second]
  exact lt_min (by omega) (before.trans_lt within)

/-- The last report of a payload that is not empty is the whole of it. -/
theorem reports_last {size : ℕ} (positive : 0 < size) :
    (reports size (chunkCount size)).getLast? = some (size, size) := by
  obtain ⟨count, counted⟩ : ∃ count, chunkCount size = count + 1 :=
    Nat.exists_eq_succ_of_ne_zero (by unfold chunkCount chunkSize; omega)
  have last : min (chunkSize * (count + 1)) size = size := by
    rw [← counted]
    unfold chunkCount chunkSize
    omega
  rw [counted, reports_succ, List.getLast?_concat, last]

section Run

variable {sender : Sender} {network : Network} {header : FileHeader} {payload : Bytes}

/-- A run without a connection sends nothing. -/
theorem sendPayload_of_unconnected
    (refused : ¬ (network.socketCreated = true ∧ network.addressValid = true ∧
      network.connected = true)) :
    ∀ event ∈ (sendPayload sender network header payload).events,
      event = .openSocket ∨ event = .close := by
  unfold sendPayload
  by_cases created : network.socketCreated = true
  · have unreached : ¬ network.addressValid = true ∨ ¬ network.connected = true := by
      rw [← not_and_or]
      exact fun both => refused ⟨created, both⟩
    rw [if_neg (not_not_intro created), if_pos unreached]
    simp
  · rw [if_pos created]
    exact nofun

theorem silent_awaitResponse (reply : Channel UInt8) :
    progressOf (awaitResponse reply).events = [] ∧
      .sendFailed ∉ (awaitResponse reply).events := by
  unfold awaitResponse
  cases reply.recv (respBufSize - 1) with
  | chunk resp after => exact ⟨rfl, by simp⟩
  | ended ending => cases ending <;> exact ⟨rfl, by simp⟩

theorem wire_openSocket_cons (events : List ClientEvent) :
    wire (.openSocket :: events) = wire events := rfl

theorem progressOf_openSocket_cons (events : List ClientEvent) :
    progressOf (.openSocket :: events) = progressOf events := rfl

/-- A run whose sends have accepted the whole message. -/
theorem sendPayload_unfailed (created : network.socketCreated = true)
    (valid : network.addressValid = true) (connected : network.connected = true)
    {socket : ClientSocket}
    (transmitted : transmit sender.reportsProgress { sends := network.sends, log := [] } header
      payload = (.ok (), socket)) :
    let run := sendPayload sender network header payload
    .sendFailed ∉ run.events ∧ wire run.events = serializeFileHeader header ++ payload ∧
    run.result =
      (awaitResponse (network.reply (serializeFileHeader header ++ payload))).result ∧
    progressOf run.events = (if sender.reportsProgress then
      reports payload.length (chunkCount payload.length) else []) ∧
    Punctual (serializeFileHeader header) payload run.events := by
  have tracked := (@transmit_track sender.reportsProgress payload network.sends header).1
  have accepted := (transmit_transmits sender.reportsProgress
    { sends := network.sends, log := [] } header payload).whole (congrArg Prod.fst transmitted)
  obtain ⟨events, result⟩ := sendPayload_of_connected created valid connected transmitted
  rw [transmitted] at tracked accepted
  obtain ⟨silent, unfailed⟩ := silent_awaitResponse (network.reply (wire socket.log))
  rw [conclude] at events result
  have track := tracked rfl
  have whole : wire socket.log = serializeFileHeader header ++ payload := accepted
  intro run
  rw [show run.events = _ from events, show run.result = _ from result]
  refine ⟨?_, ?_, by rw [whole], ?_, (track.punctual.append silent).openSocket⟩
  · simp [track.unfailed, unfailed]
  · rw [wire_openSocket_cons, wire_append, wire_awaitResponse, List.append_nil, whole]
  · rw [progressOf_openSocket_cons, progressOf_append, silent, List.append_nil, track.reported]

/-- A run in which a `send` fails: it is the last call, or the last before the socket is closed. -/
theorem sendPayload_failed (created : network.socketCreated = true)
    (valid : network.addressValid = true) (connected : network.connected = true)
    {stop : SendStop} {socket : ClientSocket}
    (transmitted : transmit sender.reportsProgress { sends := network.sends, log := [] } header
      payload = (.error stop, socket)) :
    let run := sendPayload sender network header payload
    run.result = (match stop with
      | .failed => .ok false
      | .killed => .error .killed) ∧
    (∃ before : List ClientEvent, .sendFailed ∉ before ∧ run.events = before ++ match stop with
      | .failed => [ClientEvent.sendFailed, ClientEvent.close]
      | .killed => [ClientEvent.sendFailed]) ∧
    (∃ count < (serializeFileHeader header ++ payload).length,
      wire run.events = (serializeFileHeader header ++ payload).take count) ∧
    progressOf run.events <+: reports payload.length (chunkCount payload.length) ∧
    Punctual (serializeFileHeader header) payload run.events := by
  have tracked := (@transmit_track sender.reportsProgress payload network.sends header).2 stop
  have accepted := (transmit_transmits sender.reportsProgress
    { sends := network.sends, log := [] } header payload).part stop
      (congrArg Prod.fst transmitted)
  obtain ⟨events, result⟩ := sendPayload_of_connected created valid connected transmitted
  rw [transmitted] at tracked accepted
  obtain ⟨⟨before, failed, first⟩, ⟨chunks, fewer, reported⟩, punctual⟩ := tracked rfl
  obtain ⟨count, less, wired⟩ := accepted
  have silent : wire (conclude (network.reply (wire socket.log)) (.error stop)).events = [] ∧
      progressOf (conclude (network.reply (wire socket.log)) (.error stop)).events = [] := by
    cases stop <;> exact ⟨rfl, rfl⟩
  intro run
  rw [show run.events = _ from events, show run.result = _ from result]
  refine ⟨?_, ⟨.openSocket :: before, ?_, ?_⟩, ⟨count, less, ?_⟩, ?_,
    (punctual.append silent.2).openSocket⟩
  · cases stop <;> rfl
  · simp [first]
  · rw [failed]
    cases stop <;> simp [conclude]
  · rw [wire_openSocket_cons, wire_append, silent.1, List.append_nil]
    exact wired
  · rw [progressOf_openSocket_cons, progressOf_append, reported, silent.2, List.append_nil]
    cases sender.reportsProgress with
    | false => exact List.nil_prefix
    | true => exact reports_prefix _ fewer

end Run

/-! ### Which runs are right -/

/-- The connection comes about. -/
structure Network.Connects (network : Network) : Prop where
  created : network.socketCreated = true
  valid : network.addressValid = true
  connected : network.connected = true

/-- A run is right about what it puts on the wire. At every moment a prefix of the message was
accepted, and whenever the callback is called exactly the reported bytes were. If no `send` can
fail, or none has failed, all of the message was accepted when the response is awaited, and the
callback was called once for each chunk. If one has failed, it is the last call before the socket
is closed, less than the message was accepted, and the result is `false`. -/
structure RightOnWire (sender : Sender) (network : Network) (header : FileHeader)
    (payload : Bytes) (run : ClientAct Bool) : Prop where
  begins : ∀ before after, run.events = before ++ after →
    wire before <+: serializeFileHeader header ++ payload
  succeeds : network.Connects → Reliable network.sends ∨ .sendFailed ∉ run.events →
    wire run.events = serializeFileHeader header ++ payload ∧
      run.result =
        (awaitResponse (network.reply (serializeFileHeader header ++ payload))).result ∧
      (sender.reportsProgress = true →
        progressOf run.events = reports payload.length (chunkCount payload.length))
  fails : .sendFailed ∈ run.events → run.result = .ok false ∧
    (∃ before, run.events = before ++ [.sendFailed, .close] ∧ .sendFailed ∉ before) ∧
    wire run.events ≠ serializeFileHeader header ++ payload ∧
    progressOf run.events <+: reports payload.length (chunkCount payload.length)
  punctual : Punctual (serializeFileHeader header) payload run.events
  increasing :
    ((reports payload.length (chunkCount payload.length)).map Prod.fst).Pairwise (· < ·)
  last : 0 < payload.length → (reports payload.length (chunkCount payload.length)).getLast? =
    some (payload.length, payload.length)

/-- The schedule comes to a broken pipe, and before it neither to another failure nor to the end of
a message in buffers of these sizes. -/
def Breaks (sends : ℕ → SendOutcome) (sizes : List ℕ) : Prop :=
  ∃ index, sends index = .brokenPipe ∧
    (∀ earlier < index, ∃ count, sends earlier = .accepts count) ∧
    ¬ Fills (amounts sends) sizes index

section Right

variable {sender : Sender} {network : Network} {header : FileHeader} {payload : Bytes}

/-- Without a connection there is nothing on the wire. -/
theorem rightOnWire_of_unconnected (refused : ¬ network.Connects) :
    RightOnWire sender network header payload (sendPayload sender network header payload) := by
  have calls := @sendPayload_of_unconnected sender network header payload
    fun connects => refused ⟨connects.1, connects.2.1, connects.2.2⟩
  have accepted (event : ClientEvent)
      (member : event ∈ (sendPayload sender network header payload).events) :
      wire [event] = [] ∧ progressOf [event] = [] := by
    obtain rfl | rfl := calls event member <;> exact ⟨rfl, rfl⟩
  refine ⟨fun before after split => ?_, fun connects => absurd connects refused, fun failed => ?_,
    Punctual.nil.append ?_, reports_increasing _, reports_last⟩
  · have nothing : wire before = [] := List.flatMap_eq_nil_iff.mpr fun event member => by
      have none := (accepted event (split ▸ List.mem_append_left _ member)).1
      rwa [wire, List.flatMap_singleton] at none
    rw [nothing]
    exact List.nil_prefix
  · obtain same | same := calls _ failed <;> cases same
  · refine List.filterMap_eq_nil_iff.mpr fun event member => ?_
    obtain rfl | rfl := calls event member <;> rfl

/-- A moment is a prefix of the calls, and so is what was accepted until then. -/
theorem begins_of_accepted {events : List ClientEvent} {message : Bytes}
    (accepted : wire events <+: message) (before after : List ClientEvent)
    (split : events = before ++ after) : wire before <+: message := by
  rw [split, wire_append] at accepted
  exact (List.prefix_append _ _).trans accepted

/-- A connected run is right exactly when no `send` of it has met a broken pipe. -/
theorem rightOnWire_iff_of_connected (connects : network.Connects) :
    RightOnWire sender network header payload (sendPayload sender network header payload) ↔
      (transmit sender.reportsProgress { sends := network.sends, log := [] } header payload).1 ≠
        .error .killed := by
  obtain ⟨created, valid, connected⟩ := connects
  have transmits := (transmit_transmits sender.reportsProgress
    { sends := network.sends, log := [] } header payload).follows
  cases transmitted : transmit sender.reportsProgress { sends := network.sends, log := [] }
      header payload with
  | mk outcome socket =>
    cases outcome with
    | ok value =>
      obtain ⟨unfailed, wired, result, reported, punctual⟩ :=
        sendPayload_unfailed created valid connected transmitted
      refine iff_of_true ⟨begins_of_accepted (wired ▸ List.prefix_rfl), fun _ _ => ⟨wired, result,
        fun called => ?_⟩, fun failed => absurd failed unfailed, punctual, reports_increasing _,
        reports_last⟩ nofun
      rw [reported, if_pos called]
    | error stop =>
      obtain ⟨result, ⟨before, first, events⟩, ⟨count, less, wired⟩, reported, punctual⟩ :=
        sendPayload_failed created valid connected transmitted
      have member : .sendFailed ∈ (sendPayload sender network header payload).events := by
        rw [events]
        cases stop <;> simp
      cases stop with
      | killed =>
        refine iff_of_false (fun right => ?_) (not_not_intro rfl)
        rw [(right.fails member).1] at result
        cases result
      | failed =>
        refine iff_of_true ⟨begins_of_accepted (wired ▸ List.take_prefix _ _), fun _ unfailed => ?_,
          fun _ => ⟨result, ⟨before, events, first⟩, fun same => ?_, reported⟩, punctual,
          reports_increasing _, reports_last⟩ nofun
        · obtain reliable | unfailed := unfailed
          · rw [transmitted] at transmits
            obtain ⟨value, same⟩ := transmits.ok_of_reliable reliable
            cases same
          · exact absurd member unfailed
        · have length := congrArg List.length (wired.symm.trans same)
          rw [List.length_take, Nat.min_eq_left less.le] at length
          exact absurd length less.ne

end Right

/-- A run is right about what it puts on the wire exactly when there is no connection or the
schedule comes to no broken pipe before another failure and before the end of the message. -/
theorem sendPayload_wire_iff (sender : Sender) (network : Network) (header : FileHeader)
    (payload : Bytes) :
    RightOnWire sender network header payload (sendPayload sender network header payload) ↔
      ¬ (network.Connects ∧ Breaks network.sends (bufferSizes header payload)) := by
  by_cases connects : network.Connects
  case neg =>
    exact iff_of_true (rightOnWire_of_unconnected connects) fun broken => connects broken.1
  case pos =>
    have follows := (transmit_transmits sender.reportsProgress
      { sends := network.sends, log := [] } header payload).follows
    rw [rightOnWire_iff_of_connected connects, ne_eq, follows.error_iff, and_iff_right connects]
    rfl

/-- A sender that reports its progress. -/
def sampleSender : Sender where
  readable _ := none
  openssl := .keyMarked
  random := sampleRandomness
  reportsProgress := true

/-- A connection whose sends have these outcomes, and then no others fail, and whose peer does not
answer. -/
def scheduled (outcomes : List SendOutcome) : Network where
  socketCreated := true
  addressValid := true
  connected := true
  sends index := outcomes.getD index (.accepts 4096)
  reply _ := { rest := [], cuts := fun _ => 1, ending := .closed }

/-- Short sends, and one that fails: the socket is closed after a part of the payload. -/
theorem sendPayload_wire_short :
    let run := sendPayload sampleSender (scheduled [.accepts 3, .accepts 4096, .accepts 1, .fails])
      ⟨ascii "a", 2, false⟩ (ascii "hi")
    RightOnWire sampleSender (scheduled [.accepts 3, .accepts 4096, .accepts 1, .fails])
        ⟨ascii "a", 2, false⟩ (ascii "hi") run ∧
      wire run.events = ascii "UAIRDROP:2:a:2\nh" ∧ run.result = .ok false := by
  refine ⟨(sendPayload_wire_iff _ _ _ _).mpr ?_, by decide +kernel, by decide +kernel⟩
  rintro ⟨-, index, broken, -⟩
  have few : index < 4 := by
    by_contra many
    have beyond : (scheduled [.accepts 3, .accepts 4096, .accepts 1, .fails]).sends index =
        .accepts 4096 := by
      show List.getD _ _ _ = _
      rw [List.getD_eq_getElem?_getD, List.getElem?_eq_none (not_lt.mp many)]
      rfl
    rw [beyond] at broken
    cases broken
  revert broken
  decide +revert

/-- The peer reads the header and closes while a payload of 10000 bytes is sent. -/
theorem not_rightOnWire_peerCloses :
    ¬ RightOnWire sampleSender (scheduled [.accepts 4096, .accepts 4096, .brokenPipe])
      ⟨ascii "a", 10000, false⟩ (List.replicate 10000 0)
      (sendPayload sampleSender (scheduled [.accepts 4096, .accepts 4096, .brokenPipe])
        ⟨ascii "a", 10000, false⟩ (List.replicate 10000 0)) := by
  have follows := (transmit_transmits sampleSender.reportsProgress
    { sends := (scheduled [.accepts 4096, .accepts 4096, .brokenPipe]).sends, log := [] }
    ⟨ascii "a", 10000, false⟩ (List.replicate 10000 0)).follows
  refine fun right => (rightOnWire_iff_of_connected ⟨rfl, rfl, rfl⟩).mp right
    (follows.error_iff.mpr ⟨2, rfl, fun earlier before => ⟨4096, ?_⟩, fun fills => ?_⟩)
  · revert before
    decide +revert
  · -- There are four buffers, and each of them takes a send.
    rw [bufferSizes, List.length_replicate] at fills
    have few := length_le_of_fills (by decide) fills
    revert few
    decide

end UniversalAirdrop
