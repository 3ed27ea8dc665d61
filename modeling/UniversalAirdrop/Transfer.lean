/-
This file puts a sender and a server together. The server runs on the bytes the
sender's socket has accepted, and the sender reads what the server answers. The
network decides how many bytes each call moves, in both directions and
independently, and how each direction ends; a transfer is judged over all of
these decisions.

The two ends agree on a file only through its header, so everything turns on
what the header is read as: a name without a colon is read back, and a name with
one is split again.
-/

import UniversalAirdrop.Sending
import UniversalAirdrop.Receiving

namespace UniversalAirdrop

open Imperative Streams

/-! ### The two ends and what is between them -/

/-- A call of `send_file` against a server. Both ends use the same key derivation and the same
cipher. -/
structure Transfer where
  sender : Sender
  filepath : Bytes
  passphrase : Bytes
  server : TcpServer
  host : Host
  sameKdf : host.openssl.pbkdf2 = sender.openssl.pbkdf2
  sameCipher : host.openssl.gcm = sender.openssl.gcm

/-- What is decided between the two ends: how the connection is made, how many bytes each call
moves in each direction, how the stream ends for either reader, and whether the connection is
broken by the time the server responds. -/
structure Link where
  socketCreated : Bool
  addressValid : Bool
  connected : Bool
  sends : ℕ → SendOutcome
  cuts : ℕ → ℕ
  ending : Ending
  brokenPipe : Bool
  replyCuts : ℕ → ℕ
  replyEnding : Ending

/-- The server's side of a connection over which `accepted` was sent. -/
def Link.connection (link : Link) (accepted : Bytes) : Connection where
  inbound := { rest := accepted, cuts := link.cuts, ending := link.ending }
  brokenPipe := link.brokenPipe

namespace Transfer

/-- What the server answers to the accepted bytes. -/
def reply (transfer : Transfer) (link : Link) (accepted : Bytes) : Channel UInt8 where
  rest :=
    if link.brokenPipe then []
    else (responses
      (handleClient transfer.server transfer.host (link.connection accepted)).events).flatten
  cuts := link.replyCuts
  ending := link.replyEnding

/-- The server as the sender meets it. -/
def network (transfer : Transfer) (link : Link) : Network where
  socketCreated := link.socketCreated
  addressValid := link.addressValid
  connected := link.connected
  sends := link.sends
  reply := transfer.reply link

/-- The run of the sender. -/
def senderRun (transfer : Transfer) (link : Link) : ClientAct Bool :=
  sendFile transfer.sender (transfer.network link) transfer.filepath transfer.passphrase

/-- The run of the server, on what the sender's socket has accepted. -/
def serverRun (transfer : Transfer) (link : Link) : ServerAct Unit :=
  handleClient transfer.server transfer.host
    (link.connection (wire (transfer.senderRun link).events))

/-- The name of the file. -/
def filename (transfer : Transfer) : Bytes := getFilename transfer.filepath

/-- The sender is given the path of a file that has this name and holds these bytes. -/
structure Sends (transfer : Transfer) (name bytes : Bytes) : Prop where
  path : IsPathOf transfer.filepath name
  oneName : pathSeparator ∉ name
  readable : transfer.sender.readable transfer.filepath = some bytes

theorem Sends.filename {transfer : Transfer} {name bytes : Bytes}
    (sends : transfer.Sends name bytes) : transfer.filename = name :=
  getFilename_of_isPathOf sends.path sends.oneName

/-- The header of the file with its payload. -/
def header (transfer : Transfer) (payload : Bytes) : FileHeader :=
  headerOf transfer.filename payload transfer.passphrase

/-- What is sent when the file is sent as `payload`. -/
def message (transfer : Transfer) (payload : Bytes) : Bytes :=
  serializeFileHeader (transfer.header payload) ++ payload

/-- The run of the sender gets to the response: the file is read, its payload is built, and all of
the message is sent. -/
structure Responds (transfer : Transfer) (link : Link) (bytes payload : Bytes) : Prop where
  readable : transfer.sender.readable transfer.filepath = some bytes
  built : payloadOf transfer.sender { filename := transfer.filename, bytes } transfer.passphrase =
    .ok payload
  reaches : ReachesResponse transfer.sender (transfer.network link) (transfer.header payload)
    payload

variable {transfer : Transfer} {link : Link} {bytes payload : Bytes}

theorem senderRun_eq (readable : transfer.sender.readable transfer.filepath = some bytes)
    (built : payloadOf transfer.sender { filename := transfer.filename, bytes }
      transfer.passphrase = .ok payload) :
    transfer.senderRun link =
      sendPayload transfer.sender (transfer.network link) (transfer.header payload) payload := by
  have read : readFile transfer.sender.readable transfer.filepath =
      some { filename := transfer.filename, bytes } := by
    rw [readFile, readable]
    rfl
  rw [senderRun, sendFile, read]
  simp only [built, Act.lift_ok_bind]
  rfl

/-- A run that reports success got to the response. -/
theorem responds_of_senderRun_true
    (readable : transfer.sender.readable transfer.filepath = some bytes)
    (success : (transfer.senderRun link).result = .ok true) :
    ∃ payload, Responds transfer link bytes payload := by
  cases built : payloadOf transfer.sender { filename := transfer.filename, bytes }
      transfer.passphrase with
  | error reason =>
    have read : readFile transfer.sender.readable transfer.filepath =
        some { filename := transfer.filename, bytes } := by
      rw [readFile, readable]
      rfl
    rw [senderRun, sendFile, read] at success
    simp only [built, Act.lift_error_bind] at success
    cases success
  | ok payload =>
    rw [senderRun_eq readable built] at success
    exact ⟨payload, readable, built, reaches_of_sendPayload_true success⟩

namespace Responds

/-- The server runs on the whole message. -/
theorem serverRun_eq (responds : Responds transfer link bytes payload) :
    transfer.serverRun link = handleClient transfer.server transfer.host
      (link.connection (transfer.message payload)) := by
  rw [serverRun, senderRun_eq responds.readable responds.built,
    (sendPayload_of_reaches responds.reaches).1]
  rfl

/-- The sender's result is what it makes of the server's answer to the whole message. -/
theorem senderRun_result (responds : Responds transfer link bytes payload) :
    (transfer.senderRun link).result =
      (awaitResponse (transfer.reply link (transfer.message payload))).result := by
  rw [senderRun_eq responds.readable responds.built,
    (sendPayload_of_reaches responds.reaches).2]
  rfl

end Responds

/-! ### The response -/

/-- The text of a response that is an acknowledgement is recognised from its tenth byte on, and
that of an error never. -/
theorem containsAck_take_respStr (ok : Bool) {count : ℕ} (within : count ≤ 11) :
    containsAck ((respStr (ackOrErr ok)).take count) = true ↔ ok = true ∧ 10 ≤ count := by
  have digits : ∀ count ≤ 11, (52 : UInt8) ∈ (respStr (ackOrErr ok)).take count ↔
      ok = true ∧ 10 ≤ count := by
    cases ok <;> decide +kernel
  rw [containsAck_iff, digits count within]

/-- A response is taken for an acknowledgement exactly when it is one and the first read delivers
ten bytes of it. -/
theorem awaitResponse_respStr {reply : Channel UInt8} {ok : Bool}
    (text : reply.rest = respStr (ackOrErr ok)) :
    (awaitResponse reply).result = .ok true ↔ ok = true ∧ 10 ≤ reply.cuts 0 := by
  have length : reply.rest.length = 11 := by
    rw [text]
    cases ok <;> decide
  have unfinished : reply.rest ≠ [] := by
    intro finished
    rw [finished] at length
    cases length
  have delivered : reply.delivered (respBufSize - 1) = min (max 1 (reply.cuts 0)) 11 := by
    rw [Channel.delivered, length]
    rfl
  rw [awaitResponse_result_true_iff, Channel.recv_of_ne_nil unfinished, delivered, text]
  constructor
  · rintro ⟨resp, after, same, acknowledged⟩
    rw [Received.chunk.injEq] at same
    rw [← same.1, containsAck_take_respStr ok (Nat.min_le_right _ _)] at acknowledged
    exact ⟨acknowledged.1, by omega⟩
  · rintro ⟨acked, enough⟩
    exact ⟨_, _, rfl, (containsAck_take_respStr ok (Nat.min_le_right _ _)).mpr
      ⟨acked, by omega⟩⟩

/-- Without a response there is no success. -/
theorem awaitResponse_nil {reply : Channel UInt8} (nothing : reply.rest = []) :
    (awaitResponse reply).result ≠ .ok true := by
  intro success
  obtain ⟨resp, after, received, -⟩ := awaitResponse_result_true_iff.mp success
  rw [Channel.recv_of_nil nothing] at received
  cases received

/-- The sender reports success exactly when the server saves the message, the connection still
holds, and the first read of the response delivers ten bytes of it. -/
theorem senderRun_true_iff (responds : Responds transfer link bytes payload) :
    (transfer.senderRun link).result = .ok true ↔
      (∃ header rest data, Saves transfer.server transfer.host
        (link.connection (transfer.message payload)) header rest data) ∧
      link.brokenPipe = false ∧ 10 ≤ link.replyCuts 0 := by
  rw [responds.senderRun_result]
  cases unbroken : link.brokenPipe with
  | true =>
    have nothing : (transfer.reply link (transfer.message payload)).rest = [] := by
      rw [reply, unbroken]
      rfl
    exact iff_of_false (awaitResponse_nil nothing) fun both => nomatch both.2.1
  | false =>
    have text : (transfer.reply link (transfer.message payload)).rest =
        (responses (handleClient transfer.server transfer.host
          (link.connection (transfer.message payload))).events).flatten := by
      rw [reply, unbroken]
      rfl
    rcases responses_handleClient transfer.server transfer.host
      (link.connection (transfer.message payload)) with silent | refused | saves
    · rw [silent] at text
      refine iff_of_false (awaitResponse_nil text) ?_
      rintro ⟨⟨header, rest, data, saves⟩, -⟩
      rw [saves.responses] at silent
      cases silent
    · have error : (transfer.reply link (transfer.message payload)).rest =
          respStr (ackOrErr false) := by
        rw [text, refused]
        rfl
      rw [awaitResponse_respStr error]
      refine iff_of_false (fun both => nomatch both.1) ?_
      rintro ⟨⟨header, rest, data, saves⟩, -⟩
      rw [saves.responses] at refused
      exact respStr_fileErr_ne_fileAck (List.singleton_inj.mp refused).symm
    · obtain ⟨header, rest, data, saved⟩ := saves
      have ack : (transfer.reply link (transfer.message payload)).rest =
          respStr (ackOrErr true) := by
        rw [text, saved.responses]
        rfl
      rw [awaitResponse_respStr ack]
      exact ⟨fun both => ⟨⟨header, rest, data, saved⟩, rfl, both.2⟩, fun both => ⟨rfl, both.2.2⟩⟩

/-! ### Agreement on the outcome -/

/-- The sender reports success exactly when the server has sent an acknowledgement. -/
def Agrees (transfer : Transfer) (link : Link) : Prop :=
  (transfer.senderRun link).result = .ok true ↔
    respStr .fileAck ∈ responses (transfer.serverRun link).events

/-- Exactly when both ends agree on the outcome of a run that gets to the response, over a
connection that carries it: the first read of the response delivers ten bytes of it, or the
server does not save the message. -/
theorem agrees_iff (responds : Responds transfer link bytes payload)
    (unbroken : link.brokenPipe = false) :
    Agrees transfer link ↔
      ((∃ header rest data, Saves transfer.server transfer.host
          (link.connection (transfer.message payload)) header rest data) →
        10 ≤ link.replyCuts 0) := by
  rw [Agrees, senderRun_true_iff responds, responds.serverRun_eq, fileAck_mem_responses_iff,
    and_iff_right unbroken]
  exact and_iff_left_iff_imp

/-- A transfer of a file with this name, content and passphrase between hosts on which nothing
fails, to a server whose passphrase is set. -/
def sample (name content passphrase : Bytes) : Transfer where
  sender :=
    { readable := fun path => if path = name then some content else none
      openssl := .keyMarked
      random := sampleRandomness
      reportsProgress := false }
  filepath := name
  passphrase := passphrase
  server := sampleServer
  host := Host.healthy
  sameKdf := rfl
  sameCipher := rfl

end Transfer

/-- A connection on which nothing fails, and which stays open until the server has answered. -/
def Link.sample (replyCuts : ℕ → ℕ) : Link where
  socketCreated := true
  addressValid := true
  connected := true
  sends _ := .accepts 4096
  cuts _ := 4096
  ending := .silent
  brokenPipe := false
  replyCuts := replyCuts
  replyEnding := .closed

namespace Transfer

theorem sample_readable (name content passphrase : Bytes) :
    (sample name content passphrase).sender.readable (sample name content passphrase).filepath =
      some content := by
  show (if name = name then some content else none) = some content
  rw [if_pos rfl]

theorem sample_sends {name : Bytes} (content passphrase : Bytes) (oneName : pathSeparator ∉ name) :
    (sample name content passphrase).Sends name content :=
  ⟨Or.inl rfl, oneName, sample_readable name content passphrase⟩

theorem sample_responds (replyCuts : ℕ → ℕ) (name content : Bytes) :
    Responds (sample name content []) (Link.sample replyCuts) content content where
  readable := sample_readable name content []
  built := rfl
  reaches := reaches_of_reliable rfl rfl rfl fun _ => ⟨4096, rfl⟩

/-- A response that arrives byte by byte: the file was saved and acknowledged, and the sender
reports an error. -/
theorem disagree_bytewise :
    Responds (sample (ascii "a") (ascii "hi") []) (Link.sample fun _ => 1) (ascii "hi")
        (ascii "hi") ∧
      savedFiles ((sample (ascii "a") (ascii "hi") []).serverRun (Link.sample fun _ => 1)).events =
        [(ascii "./received", ascii "a", ascii "hi")] ∧
      ((sample (ascii "a") (ascii "hi") []).senderRun (Link.sample fun _ => 1)).result =
        .ok false ∧
      ¬ Agrees (sample (ascii "a") (ascii "hi") []) (Link.sample fun _ => 1) := by
  have failed : ((sample (ascii "a") (ascii "hi") []).senderRun
      (Link.sample fun _ => 1)).result = .ok false := by decide +kernel
  have acked : respStr .fileAck ∈ responses ((sample (ascii "a") (ascii "hi") []).serverRun
      (Link.sample fun _ => 1)).events := by decide +kernel
  refine ⟨sample_responds _ _ _, by decide +kernel,
    failed, fun agrees => ?_⟩
  rw [agrees.mpr acked] at failed
  cases failed

/-- A response that arrives in one piece. -/
theorem agrees_whole :
    Agrees (sample (ascii "a") (ascii "hi") []) (Link.sample fun _ => 11) :=
  (agrees_iff (sample_responds (fun _ => 11) _ _) rfl).mpr fun _ => by decide

end Transfer

end UniversalAirdrop
