/-
This file proves what `send_file` makes of a response, whoever sends it: any
bytes, the end of the stream, or a failing read.

A read that fails ends the run in an exception, with the socket open, because
the result is used as a length before it is looked at. Of a response that
arrives, the run only asks whether the digit of an acknowledgement stands
somewhere in it.
-/

import UniversalAirdrop.Transfer

namespace UniversalAirdrop

open Imperative Streams

/-! ### What the read of the response returns -/

/-- What the one read of the response returns, once the message is sent. -/
def responseTo (network : Network) (header : FileHeader) (payload : Bytes) : Received UInt8 :=
  (network.reply (serializeFileHeader header ++ payload)).recv (respBufSize - 1)

/-- What was read begins with an acknowledgement. -/
def Acknowledges (received : Received UInt8) : Prop :=
  ∃ resp after, received = .chunk resp after ∧ respStr .fileAck <+: resp

/-- A run deals with what it has read: it returns, the last thing it does is to close the socket,
and it reports success only for an acknowledgement. -/
structure HandlesResponse (received : Received UInt8) (run : ClientAct Bool) : Prop where
  returns : ∃ ok, run.result = .ok ok
  closes : ∃ before, run.events = before ++ [.close]
  truthful : run.result = .ok true → Acknowledges received

/-- The digit four. -/
def ackDigit : UInt8 := 52

/-- The read has not failed, and a response with the digit of an acknowledgement in it begins with
an acknowledgement. -/
structure Unmistakable (received : Received UInt8) : Prop where
  succeeds : received ≠ .ended .failed
  begins : ∀ resp after, received = .chunk resp after → ackDigit ∈ resp →
    respStr .fileAck <+: resp

/-- A response of the handler that arrives whole is unmistakable. -/
theorem unmistakable_respStr (ok : Bool) (after : Channel UInt8) :
    Unmistakable (.chunk (respStr (ackOrErr ok)) after) where
  succeeds same := by cases same
  begins resp rest same digit := by
    cases same
    cases ok with
    | true => exact List.prefix_rfl
    | false =>
      have absent : ackDigit ∉ respStr .fileErr := by decide
      exact absurd digit absent

/-! ### The response step -/

/-- A failing read is used as a length. -/
theorem awaitResponse_of_failed {reply : Channel UInt8}
    (failed : reply.recv (respBufSize - 1) = .ended .failed) :
    (awaitResponse reply).result = .error (.threw .lengthError) := by
  rw [awaitResponse, failed]
  rfl

/-- After a read that has not failed the socket is closed, and the run returns. -/
theorem awaitResponse_of_received {reply : Channel UInt8}
    (answered : reply.recv (respBufSize - 1) ≠ .ended .silent)
    (succeeds : reply.recv (respBufSize - 1) ≠ .ended .failed) :
    (awaitResponse reply).events = [.close] ∧ ∃ ok, (awaitResponse reply).result = .ok ok := by
  unfold awaitResponse
  cases received : reply.recv (respBufSize - 1) with
  | chunk resp after => exact ⟨rfl, _, rfl⟩
  | ended ending =>
    cases ending with
    | silent => exact absurd received answered
    | failed => exact absurd received succeeds
    | closed => exact ⟨rfl, _, rfl⟩

/-- The result is a success exactly when the digit stands in what was read. -/
theorem awaitResponse_true_iff_ackDigit {reply : Channel UInt8} :
    (awaitResponse reply).result = .ok true ↔
      ∃ resp after, reply.recv (respBufSize - 1) = .chunk resp after ∧ ackDigit ∈ resp := by
  simp only [awaitResponse_result_true_iff, containsAck_iff]
  rfl

/-- A run that gets to the response ends as its response step does. -/
theorem sendFile_of_reaches {sender : Sender} {network : Network} {filepath passphrase : Bytes}
    {file : FileData} {payload : Bytes}
    (read : readFile sender.readable filepath = some file)
    (built : payloadOf sender file passphrase = .ok payload)
    (reaches : ReachesResponse sender network (headerOf file.filename payload passphrase)
      payload) :
    ∃ before, (sendFile sender network filepath passphrase).events = before ++
        (awaitResponse (network.reply (serializeFileHeader
          (headerOf file.filename payload passphrase) ++ payload))).events ∧
      (sendFile sender network filepath passphrase).result =
        (awaitResponse (network.reply (serializeFileHeader
          (headerOf file.filename payload passphrase) ++ payload))).result := by
  obtain ⟨log, -, events, result⟩ := sendPayload_eq_of_reaches reaches
  rw [sendFile, read]
  simp only [built, Act.lift_ok_bind]
  exact ⟨.openSocket :: log, events, result⟩

/-- Exactly when a run that has sent its message deals with what it reads in return: the read has
not failed, and a response with the digit of an acknowledgement in it begins with one. -/
theorem sendFile_handlesResponse_iff {sender : Sender} {network : Network}
    {filepath passphrase : Bytes} {file : FileData} {payload : Bytes}
    (read : readFile sender.readable filepath = some file)
    (built : payloadOf sender file passphrase = .ok payload)
    (reaches : ReachesResponse sender network (headerOf file.filename payload passphrase) payload)
    (answered : responseTo network (headerOf file.filename payload passphrase) payload ≠
      .ended .silent) :
    HandlesResponse (responseTo network (headerOf file.filename payload passphrase) payload)
        (sendFile sender network filepath passphrase) ↔
      Unmistakable (responseTo network (headerOf file.filename payload passphrase) payload) := by
  obtain ⟨before, events, result⟩ := sendFile_of_reaches read built reaches
  rw [responseTo] at answered ⊢
  constructor
  · intro handles
    refine ⟨fun failed => ?_, fun resp after received digit => ?_⟩
    · obtain ⟨ok, returned⟩ := handles.returns
      rw [result, awaitResponse_of_failed failed] at returned
      cases returned
    · have success := awaitResponse_true_iff_ackDigit.mpr ⟨resp, after, received, digit⟩
      rw [← result] at success
      obtain ⟨begun, rest, same, begins⟩ := handles.truthful success
      rw [received] at same
      cases same
      exact begins
  · intro unmistakable
    obtain ⟨closed, ok, returned⟩ := awaitResponse_of_received answered unmistakable.succeeds
    refine ⟨⟨ok, result.trans returned⟩, ⟨before, ?_⟩, fun success => ?_⟩
    · rw [events, closed]
    · rw [result] at success
      obtain ⟨resp, after, received, digit⟩ := awaitResponse_true_iff_ackDigit.mp success
      exact ⟨resp, after, received, unmistakable.begins resp after received digit⟩

/-! ### Peers that answer -/

/-- A peer that takes the whole message and answers with `resp`. -/
def Network.answering (resp : Bytes) (ending : Ending) : Network where
  socketCreated := true
  addressValid := true
  connected := true
  sends _ := .accepts 4096
  reply _ := { rest := resp, cuts := fun _ => resp.length, ending }

/-- Every response that fits into the buffer is what some peer is read to answer. -/
theorem responseTo_answering {resp : Bytes} (nonempty : resp ≠ [])
    (fits : resp.length ≤ respBufSize - 1) (ending : Ending) (header : FileHeader)
    (payload : Bytes) :
    ∃ after, responseTo (.answering resp ending) header payload = .chunk resp after := by
  have whole := Channel.recv_append nonempty fits [] (fun _ => resp.length) ending rfl
  rw [List.append_nil] at whole
  exact ⟨_, whole⟩

/-- And so is every end of the stream. -/
theorem responseTo_answering_nil (ending : Ending) (header : FileHeader) (payload : Bytes) :
    responseTo (.answering [] ending) header payload = .ended ending :=
  Channel.recv_of_nil rfl _

/-- A two-byte file is sent to a peer that answers with `resp`, and the run deals with that. -/
def HandlesAnswer (resp : Bytes) (ending : Ending) : Prop :=
  HandlesResponse
    (responseTo (.answering resp ending) (headerOf (ascii "a") (ascii "hi") []) (ascii "hi"))
    (sendFile (Transfer.sample (ascii "a") (ascii "hi") []).sender (.answering resp ending)
      (ascii "a") [])

/-- A whole acknowledgement. -/
theorem handlesAnswer_fileAck : HandlesAnswer (respStr .fileAck) .closed := by
  have read : readFile (Transfer.sample (ascii "a") (ascii "hi") []).sender.readable (ascii "a") =
      some ⟨ascii "a", ascii "hi"⟩ := by decide +kernel
  have nonempty : respStr .fileAck ≠ [] := by decide
  obtain ⟨after, received⟩ := responseTo_answering nonempty (by decide) .closed
    (headerOf (ascii "a") (ascii "hi") []) (ascii "hi")
  refine (sendFile_handlesResponse_iff read rfl
    (reaches_of_reliable rfl rfl rfl fun _ => ⟨4096, rfl⟩) ?_).mpr ?_
  · rw [received]
    intro same
    cases same
  · rw [received]
    exact unmistakable_respStr true after

/-- The connection is reset before the response, and the run throws with the socket open. A web
server answers, and the run reports success. -/
theorem not_handlesAnswer :
    ¬ HandlesAnswer [] .failed ∧ ¬ HandlesAnswer (ascii "HTTP/1.1 400 Bad Request") .closed := by
  constructor
  · intro handles
    obtain ⟨ok, returned⟩ := handles.returns
    have threw : (sendFile (Transfer.sample (ascii "a") (ascii "hi") []).sender
        (.answering [] .failed) (ascii "a") []).result = .error (.threw .lengthError) := by
      decide +kernel
    rw [threw] at returned
    cases returned
  · intro handles
    have success : (sendFile (Transfer.sample (ascii "a") (ascii "hi") []).sender
        (.answering (ascii "HTTP/1.1 400 Bad Request") .closed) (ascii "a") []).result =
          .ok true := by
      decide +kernel
    obtain ⟨resp, after, received, begins⟩ := handles.truthful success
    have nonempty : ascii "HTTP/1.1 400 Bad Request" ≠ [] := by decide +kernel
    obtain ⟨rest, same⟩ := responseTo_answering nonempty (by decide +kernel) .closed
      (headerOf (ascii "a") (ascii "hi") []) (ascii "hi")
    rw [received] at same
    cases same
    revert begins
    decide +kernel

end UniversalAirdrop
