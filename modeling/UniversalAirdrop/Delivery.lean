/-
This file proves what a transfer delivers. A file whose name has neither a colon
nor a newline is announced as what it is, so an unencrypted transfer over a
connection that holds delivers it, and an encrypted one delivers it unless it is
empty: decryption reports failure by an empty result.
-/

import UniversalAirdrop.Transfer

namespace UniversalAirdrop

open Imperative Streams

/-! ### What a message announces -/

/-- A file name that is neither split nor cut on its way: no colon, no newline, and none of the
bytes that no file name has. -/
structure PlainName (name : Bytes) : Prop where
  nonempty : name ≠ []
  noColon : fieldDelim ∉ name
  noNewline : headerDelim ∉ name
  noSeparator : pathSeparator ∉ name
  noNul : (0 : UInt8) ∉ name

/-- A serialized header without a colon or a newline in its filename announces itself. -/
theorem announces_serializeFileHeader {header : FileHeader}
    (noColon : fieldDelim ∉ header.filename) (noNewline : headerDelim ∉ header.filename)
    (payload : Bytes) : Announces (serializeFileHeader header ++ payload) header payload :=
  ⟨headerLine header, cut_serializeFileHeader header noNewline payload,
    parseFileHeader_headerLine header noColon⟩

/-- A header whose filename has a newline but no colon announces nothing: the line ends inside of
the filename field. -/
theorem not_announces_of_newline {header other : FileHeader}
    (noColon : fieldDelim ∉ header.filename) (newline : headerDelim ∈ header.filename)
    (payload rest : Bytes) :
    ¬ Announces (serializeFileHeader header ++ payload) other rest := by
  rintro ⟨line, found, parsed⟩
  rw [parseFileHeader_of_newline noColon newline found] at parsed
  cases parsed

namespace Transfer

variable {transfer : Transfer} {link : Link} {bytes : Bytes}

/-- The payload of a file when OpenSSL works: its bytes, or the salt, the initialisation vector and
the sealed text. -/
def sentPayload (transfer : Transfer) (bytes : Bytes) : Bytes :=
  if transfer.passphrase = [] then bytes
  else transfer.sender.random.salt ++ transfer.sender.random.iv ++
    transfer.host.openssl.gcm.sealed
      (transfer.host.openssl.pbkdf2 transfer.passphrase transfer.sender.random.salt)
      transfer.sender.random.iv bytes

theorem payloadOf_eq (works : transfer.sender.openssl.Works) (small : bytes.length < 2 ^ 31)
    (name : Bytes) :
    payloadOf transfer.sender { filename := name, bytes } transfer.passphrase =
      .ok (transfer.sentPayload bytes) := by
  unfold payloadOf sentPayload
  by_cases unset : transfer.passphrase = []
  · simp only [if_pos unset]
  · simp only [if_neg unset, encrypt_of_works works transfer.sender.random small, ok_bind,
      transfer.sameKdf, transfer.sameCipher]
    rfl

theorem length_sentPayload_le (transfer : Transfer) (bytes : Bytes) :
    (transfer.sentPayload bytes).length ≤
      bytes.length + (saltLen + aesIvLen + aesTagLen) := by
  unfold sentPayload
  split
  · exact Nat.le_add_right _ _
  · rw [List.length_append, List.length_append, Aead.length_sealed,
      transfer.sender.random.length_salt, transfer.sender.random.length_iv]
    omega

theorem toNat_header_size {payload : Bytes} (fits : payload.length < 2 ^ 64) :
    (transfer.header payload).size.toNat = payload.length :=
  UInt64.toNat_ofNat_of_lt' fits

/-- A message under a name without a colon or a newline announces its own header and payload. -/
theorem announces_message (noColon : fieldDelim ∉ transfer.filename)
    (noNewline : headerDelim ∉ transfer.filename) (payload : Bytes) :
    Announces (transfer.message payload) (transfer.header payload) payload :=
  announces_serializeFileHeader noColon noNewline payload

/-- The payload of such a message arrives whole, if the server can reserve it. -/
theorem arrives_message {payload : Bytes} (fits : payload.length < 2 ^ 64)
    (reserved : vectorReserve transfer.host.allocates payload.length = .ok ())
    (accepted : Bytes) :
    Arrives transfer.host (link.connection accepted) (transfer.header payload) payload where
  reserved := by rw [toNat_header_size fits, reserved]
  notWaiting waiting := by
    rw [toNat_header_size fits] at waiting
    exact lt_irrefl _ waiting.1

/-- The server saves what it decodes a message to that announces its own payload. -/
theorem saves_message {payload data : Bytes} (noColon : fieldDelim ∉ transfer.filename)
    (noNewline : headerDelim ∉ transfer.filename) (fits : payload.length < 2 ^ 64)
    (reserved : vectorReserve transfer.host.allocates payload.length = .ok ())
    (decodes : plaintextOf transfer.server transfer.host (transfer.header payload) payload =
      .ok (some data))
    (created : transfer.host.storage.createDirectories = true)
    (opens : transfer.host.storage.opens = true)
    (accepts : transfer.host.storage.accepts data = true) :
    Saves transfer.server transfer.host (link.connection (transfer.message payload))
      (transfer.header payload) payload data where
  announced := announces_message noColon noNewline payload
  arrives := arrives_message fits reserved _
  decodes := by rw [toNat_header_size fits, List.take_length, decodes]
  created := created
  opens := opens
  accepts := accepts

/-- What the server saves of a message under a name without a colon is decoded from the payload
that was sent. -/
theorem decodes_of_saves_message {payload rest data : Bytes} {header : FileHeader}
    (noColon : fieldDelim ∉ transfer.filename) (fits : payload.length < 2 ^ 64)
    (saves : Saves transfer.server transfer.host (link.connection (transfer.message payload))
      header rest data) :
    header = transfer.header payload ∧
      plaintextOf transfer.server transfer.host (transfer.header payload) payload =
        .ok (some data) := by
  have announced : Announces (transfer.message payload) header rest := saves.announced
  have noNewline : headerDelim ∉ transfer.filename := fun newline =>
    not_announces_of_newline noColon newline payload rest announced
  obtain ⟨rfl, rfl⟩ := announced.unique (announces_message noColon noNewline payload)
  have decodes := saves.decodes
  rw [toNat_header_size fits, List.take_length] at decodes
  exact ⟨rfl, decodes⟩

end Transfer

/-! ### Delivery -/

/-- A connection without errors, over which one read gets the whole response. -/
structure Link.Works (link : Link) : Prop where
  socketCreated : link.socketCreated = true
  addressValid : link.addressValid = true
  connected : link.connected = true
  sends : Reliable link.sends
  unbroken : link.brokenPipe = false
  oneRecv : 11 ≤ link.replyCuts 0

/-- Over a connection without errors the sender gets to the response. -/
theorem Link.Works.responds {transfer : Transfer} {link : Link} {bytes payload : Bytes}
    (works : link.Works)
    (readable : transfer.sender.readable transfer.filepath = some bytes)
    (built : payloadOf transfer.sender { filename := transfer.filename, bytes }
      transfer.passphrase = .ok payload) : transfer.Responds link bytes payload :=
  ⟨readable, built,
    reaches_of_reliable works.socketCreated works.addressValid works.connected works.sends⟩

theorem Link.sample_works : (Link.sample fun _ => 11).Works :=
  ⟨rfl, rfl, rfl, fun _ => ⟨4096, rfl⟩, rfl, le_rfl⟩

namespace Transfer

variable {transfer : Transfer} {link : Link} {name bytes : Bytes}

/-- An unencrypted transfer of a file with a plain name delivers it: for every content that fits,
every schedule of the sends and every segmentation, both runs end, the server has written the
content once under the name and has acknowledged it, and the sender reports success. -/
theorem delivers_unencrypted (works : link.Works) (sends : transfer.Sends name bytes)
    (plain : PlainName name) (unset : transfer.passphrase = [])
    (fits : vectorReserve transfer.host.allocates bytes.length = .ok ())
    (created : transfer.host.storage.createDirectories = true)
    (opens : transfer.host.storage.opens = true)
    (accepts : transfer.host.storage.accepts bytes = true) :
    (transfer.senderRun link).result = .ok true ∧
      (transfer.serverRun link).result = .ok () ∧
      savedFiles (transfer.serverRun link).events =
        [(transfer.server.receiveDir, name, bytes)] ∧
      responses (transfer.serverRun link).events = [respStr .fileAck] := by
  obtain rfl := sends.filename
  have built : payloadOf transfer.sender { filename := transfer.filename, bytes }
      transfer.passphrase = .ok bytes := if_pos unset
  have unencrypted : (transfer.header bytes).encrypted = false := by
    show decide (transfer.passphrase ≠ []) = false
    simp [unset]
  have responds := works.responds sends.readable built
  have saves : Saves transfer.server transfer.host (link.connection (transfer.message bytes))
      (transfer.header bytes) bytes bytes :=
    saves_message plain.noColon plain.noNewline (lt_of_vectorReserve fits) fits
      (plaintextOf_unencrypted _ _ unencrypted _) created opens accepts
  refine ⟨(senderRun_true_iff responds).mpr ⟨⟨_, _, _, saves⟩, works.unbroken,
    le_trans (by decide) works.oneRecv⟩, ?_, ?_, ?_⟩
  · rw [responds.serverRun_eq, saves.result, respond_result]
    exact if_neg (by rw [Link.connection, works.unbroken]; exact Bool.false_ne_true)
  · rw [responds.serverRun_eq, saves.savedFiles]
    rfl
  · rw [responds.serverRun_eq, saves.responses]

/-- A file of two bytes. -/
theorem delivers_unencrypted_sample :
    ((sample (ascii "a") (ascii "hi") []).senderRun (Link.sample fun _ => 11)).result = .ok true ∧
      savedFiles ((sample (ascii "a") (ascii "hi") []).serverRun
          (Link.sample fun _ => 11)).events =
        [(ascii "./received", ascii "a", ascii "hi")] := by
  have plain : PlainName (ascii "a") := ⟨by decide, by decide, by decide, by decide, by decide⟩
  have delivers := delivers_unencrypted Link.sample_works
    (sample_sends (ascii "hi") [] plain.noSeparator) plain rfl (by decide) rfl rfl rfl
  exact ⟨delivers.1, delivers.2.2.1⟩

/-! ### Encrypted delivery -/

/-- The transfer delivers a file: the server has written its bytes once, under its name, where they
are stored, and acknowledged them, and the sender reports success. -/
def Delivers (transfer : Transfer) (link : Link) (name bytes : Bytes) : Prop :=
  (transfer.senderRun link).result = .ok true ∧
    responses (transfer.serverRun link).events = [respStr .fileAck] ∧
    savedFiles (transfer.serverRun link).events = [(transfer.server.receiveDir, name, bytes)] ∧
    ∀ files : Files, files.after (transfer.serverRun link).events
      (transfer.server.receivedPath name) = some bytes

theorem sentPayload_of_set (set : transfer.passphrase ≠ []) (bytes : Bytes) :
    transfer.sentPayload bytes =
      transfer.sender.random.salt ++ transfer.sender.random.iv ++
        transfer.host.openssl.gcm.sealed
          (transfer.host.openssl.pbkdf2 transfer.passphrase transfer.sender.random.salt)
          transfer.sender.random.iv bytes := if_neg set

theorem header_encrypted (set : transfer.passphrase ≠ []) (payload : Bytes) :
    (transfer.header payload).encrypted = true := decide_eq_true set

/-- What the server decodes the payload of an encrypted file to: what the sealed text opens to
under its own key, if that is not empty. -/
theorem plaintextOf_sentPayload (works : transfer.host.openssl.Works)
    (set : transfer.passphrase ≠ []) (small : bytes.length < 2 ^ 31) :
    ∃ plaintext, plaintextOf transfer.server transfer.host
        (transfer.header (transfer.sentPayload bytes)) (transfer.sentPayload bytes) =
          .ok plaintext ∧
      ∀ data, plaintext = some data ↔ transfer.server.passphrase ≠ [] ∧ data ≠ [] ∧
        transfer.host.openssl.gcm.openSealed
          (transfer.host.openssl.pbkdf2 transfer.server.passphrase transfer.sender.random.salt)
          transfer.sender.random.iv
          (transfer.host.openssl.gcm.sealed
            (transfer.host.openssl.pbkdf2 transfer.passphrase transfer.sender.random.salt)
            transfer.sender.random.iv bytes) = some data := by
  have bounded : (transfer.sentPayload bytes).length <
      2 ^ 31 + (saltLen + aesIvLen + aesTagLen) :=
    lt_of_le_of_lt (length_sentPayload_le transfer bytes) (Nat.add_lt_add_right small _)
  obtain ⟨plaintext, decodes, exactly⟩ :=
    plaintextOf_encrypted works (header_encrypted set _) bounded
  refine ⟨plaintext, decodes, fun data => ?_⟩
  rw [exactly, sentPayload_of_set set, authentic_sealed_iff transfer.sender.random.length_salt
    transfer.sender.random.length_iv]

/-- Under one passphrase an encrypted transfer delivers exactly the files that are not empty. -/
theorem delivers_encrypted_iff (works : link.Works) (sends : transfer.Sends name bytes)
    (plain : PlainName name) (set : transfer.passphrase ≠ [])
    (same : transfer.server.passphrase = transfer.passphrase)
    (senderWorks : transfer.sender.openssl.Works) (hostWorks : transfer.host.openssl.Works)
    (small : bytes.length < 2 ^ 31 - (saltLen + aesIvLen + aesTagLen))
    (fits : vectorReserve transfer.host.allocates
      (bytes.length + (saltLen + aesIvLen + aesTagLen)) = .ok ())
    (storage : transfer.host.storage.Works) :
    Delivers transfer link name bytes ↔ bytes ≠ [] := by
  obtain rfl := sends.filename
  have below : bytes.length < 2 ^ 31 := lt_of_lt_of_le small (Nat.sub_le _ _)
  have length : (transfer.sentPayload bytes).length =
      bytes.length + (saltLen + aesIvLen + aesTagLen) := by
    rw [sentPayload_of_set set, List.length_append, List.length_append, Aead.length_sealed,
      transfer.sender.random.length_salt, transfer.sender.random.length_iv]
    omega
  have reserved : vectorReserve transfer.host.allocates (transfer.sentPayload bytes).length =
      .ok () := by rw [length, fits]
  have responds := works.responds sends.readable
    (payloadOf_eq senderWorks below transfer.filename)
  obtain ⟨plaintext, decodes, exactly⟩ := plaintextOf_sentPayload hostWorks set below
  simp only [same, Aead.openSealed_sealed, Option.some.injEq] at exactly
  constructor
  · rintro ⟨success, -, -⟩ empty
    obtain ⟨⟨header, rest, data, saves⟩, -⟩ := (senderRun_true_iff responds).mp success
    have decoded := (decodes_of_saves_message plain.noColon (lt_of_vectorReserve reserved)
      saves).2
    rw [decodes, Except.ok.injEq, exactly] at decoded
    exact decoded.2.1 (decoded.2.2 ▸ empty)
  · intro nonempty
    rw [(exactly bytes).mpr ⟨set, nonempty, rfl⟩] at decodes
    have saves : Saves transfer.server transfer.host
        (link.connection (transfer.message (transfer.sentPayload bytes)))
        (transfer.header (transfer.sentPayload bytes)) (transfer.sentPayload bytes) bytes :=
      saves_message plain.noColon plain.noNewline (lt_of_vectorReserve reserved) reserved decodes
        storage.created storage.opens (storage.accepts bytes)
    refine ⟨(senderRun_true_iff responds).mpr ⟨⟨_, _, _, saves⟩, works.unbroken,
      le_trans (by decide) works.oneRecv⟩, ?_, ?_, fun files => ?_⟩
    · rw [responds.serverRun_eq, saves.responses]
    · rw [responds.serverRun_eq, saves.savedFiles]
      rfl
    · rw [responds.serverRun_eq, saves.after]
      show Function.update files (transfer.server.receivedPath transfer.filename) _ _ = _
      rw [Function.update_self, storage.faithful bytes (storage.accepts bytes)]

/-- The empty file under a passphrase: the server decrypts it to nothing and reports an error. -/
theorem delivers_encrypted_empty :
    (Link.sample fun _ => 11).Works ∧
      (sample (ascii "a") [] (ascii "mypass")).server.passphrase = ascii "mypass" ∧
      ((sample (ascii "a") [] (ascii "mypass")).senderRun (Link.sample fun _ => 11)).result =
        .ok false ∧
      savedFiles ((sample (ascii "a") [] (ascii "mypass")).serverRun
        (Link.sample fun _ => 11)).events = [] ∧
      ¬ Delivers (sample (ascii "a") [] (ascii "mypass")) (Link.sample fun _ => 11) (ascii "a")
        [] := by
  have failed : ((sample (ascii "a") [] (ascii "mypass")).senderRun
      (Link.sample fun _ => 11)).result = .ok false := by decide +kernel
  refine ⟨Link.sample_works, rfl, failed, by decide +kernel, fun delivers => ?_⟩
  rw [delivers.1] at failed
  cases failed

/-- Two bytes under a passphrase. -/
theorem delivers_encrypted_sample :
    Delivers (sample (ascii "a") (ascii "hi") (ascii "mypass")) (Link.sample fun _ => 11)
      (ascii "a") (ascii "hi") := by
  have plain : PlainName (ascii "a") := ⟨by decide, by decide, by decide, by decide, by decide⟩
  exact (delivers_encrypted_iff Link.sample_works
    (sample_sends (ascii "hi") (ascii "mypass") plain.noSeparator) plain (by decide) rfl
    OpenSsl.keyMarked_works OpenSsl.keyMarked_works (by decide) (by decide)
    Storage.healthy_works).mpr (by decide)

end Transfer

end UniversalAirdrop
