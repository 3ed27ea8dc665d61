/-
This file proves that the handler's framing does not depend on how the stream is
segmented. The header loop and the payload loop share the bytes of one chunk
through the overflow, and the newline may fall anywhere in a chunk; the
invariants relate what each loop has collected to the part of the stream that
was consumed.

`serve` is the handler as a function of the whole stream: it cuts at the first
newline and takes the declared number of bytes off what follows. The handler
refines it on every channel over the stream.
-/

import UniversalAirdrop.TcpServer

namespace UniversalAirdrop

open Imperative Streams

/-! ### The header loop -/

/-- What the header loop makes of the stream: the part before the first newline, with the
overflow and the unread bytes together holding the part after it. -/
def HeaderReadOf (channel : Channel UInt8) : HeaderRead → Prop
  | .found headerStr overflow inbound =>
    cut headerDelim channel.rest = some (headerStr, overflow ++ inbound.rest) ∧
      inbound.ending = channel.ending
  | .failed => headerDelim ∉ channel.rest ∧ channel.ending ≠ .silent
  | .blocked => headerDelim ∉ channel.rest ∧ channel.ending = .silent

/-- At the head of every pass the collected text and the unread bytes make up the stream, and
no newline was collected. -/
structure HeaderInvariant (channel : Channel UInt8) (state : HeaderState) : Prop where
  split : channel.rest = state.headerStr ++ state.inbound.rest
  absent : headerDelim ∉ state.headerStr
  ending : state.inbound.ending = channel.ending

theorem headerLoop_pass {channel : Channel UInt8} {state next : HeaderState}
    (holds : HeaderInvariant channel state) (stepped : headerLoop.step state = .inl next) :
    HeaderInvariant channel next := by
  simp only [headerLoop] at stepped
  split at stepped
  case h_1 => cases stepped
  case h_2 => cases stepped
  case h_3 chunk after received =>
    split at stepped
    case h_1 => cases stepped
    case h_2 missing =>
      cases stepped
      obtain ⟨consumed, -, -, ending⟩ := Channel.rest_of_recv_chunk (by decide) received
      refine ⟨?_, ?_, ending.trans holds.ending⟩
      · rw [holds.split, consumed, List.append_assoc]
      · rw [List.mem_append, not_or]
        exact ⟨holds.absent, cut_eq_none_iff.mp missing⟩

theorem headerLoop_leave {channel : Channel UInt8} {state : HeaderState} {result : HeaderRead}
    (holds : HeaderInvariant channel state) (stepped : headerLoop.step state = .inr result) :
    HeaderReadOf channel result := by
  have absentIfEnded (finished : state.inbound.rest = []) : headerDelim ∉ channel.rest := by
    rw [holds.split, finished, List.append_nil]
    exact holds.absent
  simp only [headerLoop] at stepped
  split at stepped
  case h_1 received =>
    cases stepped
    obtain ⟨finished, ending⟩ := Channel.rest_of_recv_ended received
    exact ⟨absentIfEnded finished, holds.ending.symm.trans ending⟩
  case h_2 ending notSilent received =>
    cases stepped
    obtain ⟨finished, same⟩ := Channel.rest_of_recv_ended received
    refine ⟨absentIfEnded finished, ?_⟩
    rw [← holds.ending, same]
    exact fun silent => notSilent silent
  case h_3 chunk after received =>
    split at stepped
    case h_2 => cases stepped
    case h_1 before overflow found =>
      cases stepped
      obtain ⟨consumed, -, -, ending⟩ := Channel.rest_of_recv_chunk (by decide) received
      refine ⟨?_, ending.trans holds.ending⟩
      rw [holds.split, consumed, cut_append_of_notMem holds.absent, cut_append_of_some found]
      rfl

/-- The header loop cuts the stream at its first newline, however it is segmented. -/
theorem headerLoop_run (channel : Channel UInt8) :
    HeaderReadOf channel (headerLoop.run { inbound := channel, headerStr := [] }) :=
  headerLoop.run_spec (HeaderInvariant channel) (HeaderReadOf channel)
    ⟨rfl, List.not_mem_nil, rfl⟩ (fun _ _ => headerLoop_pass) fun _ _ => headerLoop_leave

/-! ### The payload loop -/

/-- What is due to the payload: the stream after the header, as far as the declared size goes.
At the head of every pass the payload and the unread bytes make it up, and no more than the
declared size was received. -/
structure PayloadInvariant (size : ℕ) (rest : Bytes) (ending : Ending) (state : PayloadState) :
    Prop where
  counted : state.received = state.payload.length
  bounded : state.received ≤ size
  split : rest.take size = (state.payload ++ state.inbound.rest).take size
  ending : state.inbound.ending = ending

theorem payloadLoop_pass {size : ℕ} {rest : Bytes} {ending : Ending} {state next : PayloadState}
    (holds : PayloadInvariant size rest ending state)
    (stepped : (payloadLoop size).step state = .inl next) :
    PayloadInvariant size rest ending next := by
  simp only [payloadLoop] at stepped
  split at stepped
  case isFalse => cases stepped
  case isTrue unfinished =>
    split at stepped
    case h_1 => cases stepped
    case h_2 => cases stepped
    case h_3 chunk after received =>
      cases stepped
      have positive : 0 < min chunkSize (size - state.received) := by
        have chunkPositive : 0 < chunkSize := by decide
        omega
      obtain ⟨consumed, -, fits, sameEnding⟩ := Channel.rest_of_recv_chunk positive received
      refine ⟨?_, ?_, ?_, sameEnding.trans holds.ending⟩
      · rw [List.length_append, holds.counted]
      · show state.received + chunk.length ≤ size
        omega
      · rw [holds.split, consumed, List.append_assoc]

theorem payloadLoop_leave {size : ℕ} {rest : Bytes} {ending : Ending} {state : PayloadState}
    {result : PayloadRead} (holds : PayloadInvariant size rest ending state)
    (stepped : (payloadLoop size).step state = .inr result) :
    result = if rest.length < size ∧ ending = .silent then .blocked
      else .ended (rest.take size) := by
  have lengths : min size rest.length =
      min size (state.payload.length + state.inbound.rest.length) := by
    have same := congrArg List.length holds.split
    rwa [List.length_take, List.length_take, List.length_append] at same
  have counted := holds.counted
  simp only [payloadLoop] at stepped
  split at stepped
  case isFalse complete =>
    cases stepped
    rw [if_neg (by omega), holds.split, List.take_append_of_le_length (by omega),
      List.take_of_length_le]
    have bounded := holds.bounded
    omega
  case isTrue unfinished =>
    have whole (finished : state.inbound.rest = []) : rest.take size = state.payload := by
      rw [holds.split, finished, List.append_nil, List.take_of_length_le (by omega)]
    have short (finished : state.inbound.rest = []) : rest.length < size := by
      rw [finished, List.length_nil] at lengths
      omega
    split at stepped
    case h_1 received =>
      cases stepped
      obtain ⟨finished, silent⟩ := Channel.rest_of_recv_ended received
      rw [if_pos ⟨short finished, holds.ending.symm.trans silent⟩]
    case h_2 stopped notSilent received =>
      cases stepped
      obtain ⟨finished, same⟩ := Channel.rest_of_recv_ended received
      rw [if_neg, whole finished]
      rintro ⟨-, silent⟩
      exact notSilent (same.symm.trans (holds.ending.trans silent))
    case h_3 => cases stepped

/-- The overflow counts as payload, as far as the declared size goes. -/
theorem payloadInvariant_entry (size : ℕ) (overflow : Bytes) (inbound : Channel UInt8) :
    PayloadInvariant size (overflow ++ inbound.rest) inbound.ending
      (payloadEntry size overflow inbound) := by
  refine ⟨rfl, ?_, ?_, rfl⟩
  · show (overflow.take (min overflow.length size)).length ≤ size
    rw [List.length_take]
    omega
  · show _ = (overflow.take (min overflow.length size) ++ inbound.rest).take size
    by_cases fits : overflow.length ≤ size
    · rw [Nat.min_eq_left fits, List.take_length]
    · rw [Nat.min_eq_right (by omega), List.take_append_of_le_length (by omega),
        List.take_append_of_le_length (by rw [List.length_take]; omega), List.take_take,
        Nat.min_self]

/-- The payload loop takes the declared number of bytes off the stream, or what there is. -/
theorem payloadLoop_run (size : ℕ) (overflow : Bytes) (inbound : Channel UInt8) :
    (payloadLoop size).run (payloadEntry size overflow inbound) =
      if (overflow ++ inbound.rest).length < size ∧ inbound.ending = .silent then .blocked
      else .ended ((overflow ++ inbound.rest).take size) :=
  (payloadLoop size).run_spec (PayloadInvariant size (overflow ++ inbound.rest) inbound.ending) _
    (payloadInvariant_entry size overflow inbound) (fun _ _ => payloadLoop_pass)
    fun _ _ => payloadLoop_leave

/-- What the payload loop has received at the head of a pass is a prefix of what follows the
header, of no more than the declared size. -/
theorem payloadLoop_reaches {size : ℕ} {overflow : Bytes} {inbound : Channel UInt8}
    {state : PayloadState}
    (reached : (payloadLoop size).Reaches (payloadEntry size overflow inbound) state) :
    state.received ≤ size ∧
      state.payload = (overflow ++ inbound.rest).take state.received := by
  have holds := reached.invariant _ _ (payloadInvariant_entry size overflow inbound)
    fun _ _ => payloadLoop_pass
  refine ⟨holds.bounded, ?_⟩
  have prefixes := congrArg (List.take state.received) holds.split
  rw [List.take_take, List.take_take, Nat.min_eq_left holds.bounded,
    List.take_append_of_le_length holds.counted.le, holds.counted, List.take_length] at prefixes
  rw [holds.counted, prefixes]

/-! ### The handler as a function of the stream -/

/-- The handler after the header, on the bytes that follow the newline. -/
def serveFile (server : TcpServer) (host : Host) (connection : Connection)
    (header : FileHeader) (rest : Bytes) : ServerAct Unit := do
  Act.emit (.makeDirectory (cStr server.receiveDir))
  call (vectorReserve host.allocates header.size.toNat)
  if rest.length < header.size.toNat ∧ connection.inbound.ending = .silent then Act.halt .blocked
  else do
    let ok ← savePayload server host header (rest.take header.size.toNat)
    respond connection ok

/-- The handler on a whole stream: cut at the first newline, parse, and take the declared number
of bytes off what follows. -/
def serve (server : TcpServer) (host : Host) (connection : Connection) : ServerAct Unit :=
  match cut headerDelim connection.inbound.rest with
  | none => if connection.inbound.ending = .silent then Act.halt .blocked else Act.emit .close
  | some (line, rest) => do
    match ← call (parseFileHeader line) with
    | none => Act.emit .close
    | some header => serveFile server host connection header rest

theorem receiveFile_eq_serveFile (server : TcpServer) (host : Host) (connection : Connection)
    (header : FileHeader) (overflow : Bytes) (inbound : Channel UInt8)
    (ending : inbound.ending = connection.inbound.ending) :
    receiveFile server host connection header overflow inbound =
      serveFile server host connection header (overflow ++ inbound.rest) := by
  simp only [receiveFile, serveFile, payloadLoop_run, ending]
  by_cases waiting : (overflow ++ inbound.rest).length < header.size.toNat ∧
      connection.inbound.ending = .silent
  · simp only [if_pos waiting]
  · simp only [if_neg waiting]

/-- The handler refines `serve`: it makes of a stream what `serve` makes of it, however the
stream is segmented. -/
theorem handleClient_eq_serve (server : TcpServer) (host : Host) (connection : Connection) :
    handleClient server host connection = serve server host connection := by
  have read := headerLoop_run connection.inbound
  unfold handleClient serve
  cases result : headerLoop.run { inbound := connection.inbound, headerStr := [] } with
  | blocked =>
    rw [result] at read
    rw [cut_eq_none_iff.mpr read.1]
    exact (if_pos read.2).symm
  | failed =>
    rw [result] at read
    rw [cut_eq_none_iff.mpr read.1]
    exact (if_neg read.2).symm
  | found headerStr overflow inbound =>
    rw [result] at read
    rw [read.1]
    refine congrArg (call (parseFileHeader headerStr) >>= ·) (funext fun parsed => ?_)
    cases parsed with
    | none => rfl
    | some header =>
      exact receiveFile_eq_serveFile server host connection header overflow inbound read.2

/-- The segmentation does not show: only the bytes of the stream, its end and the state of the
connection at the response do. -/
theorem handleClient_congr (server : TcpServer) (host : Host) {first second : Connection}
    (rest : first.inbound.rest = second.inbound.rest)
    (ending : first.inbound.ending = second.inbound.ending)
    (brokenPipe : first.brokenPipe = second.brokenPipe) :
    handleClient server host first = handleClient server host second := by
  rw [handleClient_eq_serve, handleClient_eq_serve]
  simp only [serve, serveFile, respond, rest, ending, brokenPipe]

/-- The stream begins with a header that parses, and `rest` follows its newline. -/
def Announces (stream : Bytes) (header : FileHeader) (rest : Bytes) : Prop :=
  ∃ line, cut headerDelim stream = some (line, rest) ∧
    parseFileHeader line = .ok (some header)

/-- A stream announces one file. -/
theorem Announces.unique {stream : Bytes} {first second : FileHeader} {rest other : Bytes}
    (announced : Announces stream first rest) (again : Announces stream second other) :
    first = second ∧ rest = other := by
  obtain ⟨line, found, parsed⟩ := announced
  obtain ⟨line', found', parsed'⟩ := again
  rw [found, Option.some.injEq, Prod.mk.injEq] at found'
  obtain ⟨rfl, rfl⟩ := found'
  rw [parsed, Except.ok.injEq, Option.some.injEq] at parsed'
  exact ⟨parsed', rfl⟩

/-- The run of a handler that has received `payload` under an accepted header: it saves and
responds. -/
def saveRun (server : TcpServer) (host : Host) (connection : Connection) (header : FileHeader)
    (payload : Bytes) : ServerAct Unit := do
  Act.emit (.makeDirectory (cStr server.receiveDir))
  let ok ← savePayload server host header payload
  respond connection ok

/-- A run under an accepted header gets to the payload's end: the declared size is reserved, and
nothing is waited for. -/
structure Arrives (host : Host) (connection : Connection) (header : FileHeader) (rest : Bytes) :
    Prop where
  reserved : vectorReserve host.allocates header.size.toNat = .ok ()
  notWaiting : ¬ (rest.length < header.size.toNat ∧ connection.inbound.ending = .silent)

/-- A run that gets to the payload's end saves what arrived of the declared size and
responds. -/
theorem handleClient_of_announces (server : TcpServer) {host : Host} {connection : Connection}
    {header : FileHeader} {rest : Bytes}
    (announced : Announces connection.inbound.rest header rest)
    (arrives : Arrives host connection header rest) :
    handleClient server host connection =
      saveRun server host connection header (rest.take header.size.toNat) := by
  obtain ⟨line, found, parsed⟩ := announced
  simp only [handleClient_eq_serve, serve, found, parsed, call_ok_bind, serveFile,
    arrives.reserved, if_neg arrives.notWaiting, saveRun]

/-- A run whose declared size cannot be reserved ends there. -/
theorem handleClient_of_unreserved (server : TcpServer) {host : Host} {connection : Connection}
    {header : FileHeader} {rest : Bytes} {fault : Fault}
    (announced : Announces connection.inbound.rest header rest)
    (unreserved : vectorReserve host.allocates header.size.toNat = .error fault) :
    handleClient server host connection =
      ⟨[.makeDirectory (cStr server.receiveDir)], .error (.threw fault)⟩ := by
  obtain ⟨line, found, parsed⟩ := announced
  simp only [handleClient_eq_serve, serve, found, parsed, call_ok_bind, serveFile, unreserved,
    call_error_bind]
  rfl

/-- A run that waits for more than the peer sends stays there. -/
theorem handleClient_of_waiting (server : TcpServer) {host : Host} {connection : Connection}
    {header : FileHeader} {rest : Bytes}
    (announced : Announces connection.inbound.rest header rest)
    (reserved : vectorReserve host.allocates header.size.toNat = .ok ())
    (waiting : rest.length < header.size.toNat ∧ connection.inbound.ending = .silent) :
    handleClient server host connection =
      ⟨[.makeDirectory (cStr server.receiveDir)], .error .blocked⟩ := by
  obtain ⟨line, found, parsed⟩ := announced
  simp only [handleClient_eq_serve, serve, found, parsed, call_ok_bind, serveFile, reserved,
    if_pos waiting]
  rfl

/-- A run that does not get to the payload's end only makes the receive directory. -/
theorem handleClient_of_not_arrives (server : TcpServer) {host : Host} {connection : Connection}
    {header : FileHeader} {rest : Bytes}
    (announced : Announces connection.inbound.rest header rest)
    (stays : ¬ Arrives host connection header rest) :
    (handleClient server host connection).events = [.makeDirectory (cStr server.receiveDir)] := by
  cases reserved : vectorReserve host.allocates header.size.toNat with
  | error fault => rw [handleClient_of_unreserved server announced reserved]
  | ok done =>
    have waiting : rest.length < header.size.toNat ∧ connection.inbound.ending = .silent := by
      by_contra moves
      exact stays ⟨reserved, moves⟩
    rw [handleClient_of_waiting server announced reserved waiting]

/-- A run ends where the parser throws. -/
theorem handleClient_of_thrown (server : TcpServer) (host : Host) {connection : Connection}
    {line rest : Bytes} {fault : Fault}
    (found : cut headerDelim connection.inbound.rest = some (line, rest))
    (thrown : parseFileHeader line = .error fault) :
    handleClient server host connection = Act.halt (.threw fault) := by
  rw [handleClient_eq_serve]
  simp only [serve, found, thrown, call_error_bind]

/-- A stream that ends, without a newline or with a rejected header, leads to nothing but the
closing of the socket. -/
theorem handleClient_of_rejected (server : TcpServer) (host : Host) {connection : Connection}
    (ends : connection.inbound.ending ≠ .silent)
    (rejected : ∀ line rest, cut headerDelim connection.inbound.rest = some (line, rest) →
      parseFileHeader line = .ok none) :
    handleClient server host connection = Act.emit .close := by
  rw [handleClient_eq_serve]
  cases found : cut headerDelim connection.inbound.rest with
  | none => simp only [serve, found, if_neg ends]
  | some pieces =>
    simp only [serve, found, rejected pieces.1 pieces.2 found, call_ok_bind]

/-- A run without an accepted header does nothing but close the socket. -/
theorem handleClient_of_not_announces (server : TcpServer) (host : Host) {connection : Connection}
    (refused : ¬ ∃ header rest, Announces connection.inbound.rest header rest) :
    ∀ event ∈ (handleClient server host connection).events, event = .close := by
  rw [handleClient_eq_serve, serve]
  cases found : cut headerDelim connection.inbound.rest with
  | none =>
    by_cases silent : connection.inbound.ending = .silent
    · simp [silent]
    · simp [silent]
  | some pieces =>
    obtain ⟨line, rest⟩ := pieces
    cases parsed : parseFileHeader line with
    | error fault => simp [parsed]
    | ok header =>
      cases header with
      | none => simp [parsed]
      | some header => exact absurd ⟨header, rest, line, found, parsed⟩ refused

/-- Where a call of a run comes from. -/
theorem mem_handleClient_cases {server : TcpServer} {host : Host} {connection : Connection}
    {event : ServerEvent} (member : event ∈ (handleClient server host connection).events) :
    event = .close ∨ event = .makeDirectory (cStr server.receiveDir) ∨
      ∃ header rest, Announces connection.inbound.rest header rest ∧
        Arrives host connection header rest ∧
        event ∈ (saveRun server host connection header (rest.take header.size.toNat)).events := by
  by_cases accepted : ∃ header rest, Announces connection.inbound.rest header rest
  case neg => exact Or.inl (handleClient_of_not_announces server host accepted event member)
  case pos =>
    obtain ⟨header, rest, announced⟩ := accepted
    by_cases arrives : Arrives host connection header rest
    case neg =>
      rw [handleClient_of_not_arrives server announced arrives, List.mem_singleton] at member
      exact Or.inr (Or.inl member)
    case pos =>
      rw [handleClient_of_announces server announced arrives] at member
      exact Or.inr (Or.inr ⟨header, rest, announced, arrives, member⟩)

/-- Framing does not depend on segmentation: for every stream that ends and every choice of what
each `recv` returns, a stream without a newline gives neither a file nor a response; otherwise
the header loop finds exactly what stands before the first newline, the payload loop at the
head of every pass has received a prefix of what follows it within the declared size and leaves
with the declared number of bytes or all there are, and these are what is saved. -/
theorem handleClient_framing (server : TcpServer) (host : Host) (stream : Bytes)
    (cuts : ℕ → ℕ) (ending : Ending) (ends : ending ≠ .silent) (brokenPipe : Bool) :
    let connection : Connection :=
      { inbound := { rest := stream, cuts, ending }, brokenPipe }
    (headerDelim ∉ stream → handleClient server host connection = Act.emit .close) ∧
    (∀ line rest, cut headerDelim stream = some (line, rest) →
      ∃ overflow inbound,
        headerLoop.run { inbound := connection.inbound, headerStr := [] } =
          .found line overflow inbound ∧
        ∀ header, parseFileHeader line = .ok (some header) →
          vectorReserve host.allocates header.size.toNat = .ok () →
          (∀ state,
            (payloadLoop header.size.toNat).Reaches
              (payloadEntry header.size.toNat overflow inbound) state →
            state.received ≤ header.size.toNat ∧ state.payload = rest.take state.received) ∧
          (payloadLoop header.size.toNat).run
              (payloadEntry header.size.toNat overflow inbound) =
            .ended (rest.take (min header.size.toNat rest.length)) ∧
          handleClient server host connection =
            saveRun server host connection header
              (rest.take (min header.size.toNat rest.length)) ∧
          (header.encrypted = false →
            savedFiles (savePayload server host header
                (rest.take (min header.size.toNat rest.length))).events =
              [(server.receiveDir, header.filename,
                rest.take (min header.size.toNat rest.length))])) ∧
    ∀ otherCuts,
      handleClient server host
          { inbound := { rest := stream, cuts := otherCuts, ending }, brokenPipe } =
        handleClient server host connection := by
  intro connection
  refine ⟨?_, ?_, fun otherCuts => handleClient_congr server host rfl rfl rfl⟩
  · intro missing
    refine handleClient_of_rejected server host ends fun line rest found => ?_
    rw [cut_eq_none_iff.mpr missing] at found
    cases found
  · intro line rest found
    have read := headerLoop_run connection.inbound
    cases result : headerLoop.run { inbound := connection.inbound, headerStr := [] } with
    | blocked =>
      rw [result] at read
      exact absurd read.2 ends
    | failed =>
      rw [result] at read
      rw [cut_eq_none_iff.mpr read.1] at found
      cases found
    | found headerStr overflow inbound =>
      rw [result] at read
      have same : some (headerStr, overflow ++ inbound.rest) = some (line, rest) :=
        read.1.symm.trans found
      obtain ⟨rfl, rfl⟩ := Prod.mk.inj (Option.some.inj same)
      refine ⟨overflow, inbound, rfl, fun header parsed reserved => ?_⟩
      have runs : inbound.ending ≠ .silent := fun silent => ends (read.2.symm.trans silent)
      have arrives : ¬ ((overflow ++ inbound.rest).length < header.size.toNat ∧
          connection.inbound.ending = .silent) := fun waiting => ends waiting.2
      rw [← List.take_eq_take_min]
      refine ⟨fun state reached => payloadLoop_reaches reached, ?_, ?_, ?_⟩
      · rw [payloadLoop_run, if_neg fun waiting => runs waiting.2]
      · exact handleClient_of_announces server ⟨_, found, parsed⟩ ⟨reserved, arrives⟩
      · intro unencrypted
        rw [savePayload, unencrypted, if_neg (by decide), savedFiles_writeFile]

/-- A two-byte file read byte by byte and in whole chunks. -/
theorem handleClient_framing_bytewise :
    savedFiles (handleClient sampleServer Host.healthy
        { inbound := { rest := ascii "UAIRDROP:2:a:2\nhi", cuts := fun _ => 1, ending := .closed }
          brokenPipe := false }).events =
      [(ascii "./received", ascii "a", ascii "hi")] ∧
    handleClient sampleServer Host.healthy
        { inbound := { rest := ascii "UAIRDROP:2:a:2\nhi", cuts := fun _ => 4096
                       ending := .closed }
          brokenPipe := false } =
      handleClient sampleServer Host.healthy
        { inbound := { rest := ascii "UAIRDROP:2:a:2\nhi", cuts := fun _ => 1, ending := .closed }
          brokenPipe := false } := by
  have framing := handleClient_framing sampleServer Host.healthy (ascii "UAIRDROP:2:a:2\nhi")
    (fun _ => 1) .closed (by decide) false
  exact ⟨by decide +kernel, framing.2.2 fun _ => 4096⟩

end UniversalAirdrop
