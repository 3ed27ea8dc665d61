/-
This file proves what a receiving run saves and answers. Between the payload and
the file stands one decision: which bytes, if any, are handed to `write_file`.
An unencrypted payload is handed over as it is; an encrypted one is handed over
decrypted, if there is a passphrase, the payload splits and the result is not
empty.

From this follow the runs that save and acknowledge, what happens to a payload
that breaks off before the declared size, and which encrypted payloads are
accepted.
-/

import UniversalAirdrop.Framing

namespace UniversalAirdrop

open Imperative Streams

/-! ### What is handed to write-file -/

/-- The bytes a handler hands to `write_file`, if any. -/
def plaintextOf (server : TcpServer) (host : Host) (header : FileHeader) (payload : Bytes) :
    Except Halt (Option Bytes) :=
  if header.encrypted then
    if server.passphrase = [] then return none
    else do
      match ← throwing (deserializeEncrypted payload) with
      | none => return none
      | some blob =>
        let decrypted ← decrypt host.openssl blob server.passphrase
        if decrypted = [] then return none else return some decrypted
  else return some payload

theorem savePayload_eq (server : TcpServer) (host : Host) (header : FileHeader)
    (payload : Bytes) :
    savePayload server host header payload =
      Act.lift (plaintextOf server host header payload) >>= fun plaintext =>
        match plaintext with
        | none => pure false
        | some data => writeFile host.storage server.receiveDir header.filename data := by
  unfold savePayload plaintextOf
  cases header.encrypted with
  | false => rfl
  | true =>
    by_cases unset : server.passphrase = []
    · simp only [if_pos unset]
      rfl
    · simp only [if_true, if_neg unset]
      cases deserializeEncrypted payload with
      | error fault => rfl
      | ok split =>
        cases split with
        | none => rfl
        | some blob =>
          simp only [ok_bind, call_ok_bind, throwing_ok]
          cases decrypt host.openssl blob server.passphrase with
          | error reason => rfl
          | ok decrypted =>
            simp only [ok_bind, Act.lift_ok_bind]
            by_cases empty : decrypted = []
            · simp only [if_pos empty]
              rfl
            · simp only [if_neg empty]
              rfl

/-- An unencrypted payload is handed over as it is. -/
theorem plaintextOf_unencrypted (server : TcpServer) (host : Host) {header : FileHeader}
    (unencrypted : header.encrypted = false) (payload : Bytes) :
    plaintextOf server host header payload = .ok (some payload) := by
  rw [plaintextOf, unencrypted]
  rfl

/-- Only the key derivation can make the decoding of a payload throw, and only a cipher field
too long for an `int` can kill it: no payload is too short for the places it is split at. -/
theorem plaintextOf_eq_error_iff {server : TcpServer} {host : Host} {header : FileHeader}
    {payload : Bytes} {reason : Halt} :
    plaintextOf server host header payload = .error reason ↔
      header.encrypted = true ∧ server.passphrase ≠ [] ∧ saltLen + aesIvLen ≤ payload.length ∧
        ((reason = .threw .runtimeError ∧ host.openssl.succeeds .pbkdf2 = false) ∨
          (reason = .killed ∧ host.openssl.Overruns (payload.length - (saltLen + aesIvLen)))) := by
  unfold plaintextOf
  cases header.encrypted with
  | false => simp [pure, Except.pure]
  | true =>
    by_cases unset : server.passphrase = []
    · simp [unset, pure, Except.pure]
    · simp only [if_true, if_neg unset, deserializeEncrypted_eq]
      by_cases short : payload.length < saltLen + aesIvLen
      · rw [if_pos short]
        refine ⟨nofun, fun thrown => ?_⟩
        exact absurd thrown.2.2.1 (not_le.mpr short)
      · rw [if_neg short, throwing_ok, ok_bind]
        have ivLength : ((payload.drop saltLen).take aesIvLen).length = aesIvLen := by
          rw [List.length_take, List.length_drop]
          omega
        have throws : decrypt host.openssl ⟨payload.take saltLen,
            (payload.drop saltLen).take aesIvLen, payload.drop (saltLen + aesIvLen)⟩
            server.passphrase = .error reason ↔
              (reason = .threw .runtimeError ∧ host.openssl.succeeds .pbkdf2 = false) ∨
                (reason = .killed ∧
                  host.openssl.Overruns (payload.drop (saltLen + aesIvLen)).length) :=
          decrypt_eq_error_iff ivLength
        rw [List.length_drop] at throws
        simp only [not_lt.mp short, ne_eq, unset, not_false_eq_true, true_and, ← throws]
        cases decrypt host.openssl ⟨payload.take saltLen, (payload.drop saltLen).take aesIvLen,
            payload.drop (saltLen + aesIvLen)⟩ server.passphrase with
        | error thrown =>
          rw [error_bind, Except.error.injEq, Except.error.injEq]
        | ok bytes =>
          rw [ok_bind]
          split <;> exact ⟨nofun, nofun⟩

/-- A payload that is, byte for byte, a salt, an initialisation vector and the sealed text of a
non-empty plaintext under the key of a passphrase that is set. -/
def Authentic (openssl : OpenSsl) (passphrase payload plaintext : Bytes) : Prop :=
  passphrase ≠ [] ∧ plaintext ≠ [] ∧
    ∃ salt iv : Bytes, salt.length = saltLen ∧ iv.length = aesIvLen ∧
      payload = salt ++ iv ++ openssl.gcm.sealed (openssl.pbkdf2 passphrase salt) iv plaintext

/-- What a sealed payload is authentic for: what it opens to. -/
theorem authentic_sealed_iff {openssl : OpenSsl} {passphrase salt iv cipher plaintext : Bytes}
    (saltLength : salt.length = saltLen) (ivLength : iv.length = aesIvLen) :
    Authentic openssl passphrase (salt ++ iv ++ cipher) plaintext ↔
      passphrase ≠ [] ∧ plaintext ≠ [] ∧
        openssl.gcm.openSealed (openssl.pbkdf2 passphrase salt) iv cipher = some plaintext := by
  rw [Authentic, Aead.openSealed_eq_some_iff]
  refine and_congr_right fun _ => and_congr_right fun _ => ?_
  constructor
  · rintro ⟨salt', iv', saltLength', ivLength', same⟩
    rw [List.append_assoc, List.append_assoc] at same
    obtain ⟨rfl, ivOn⟩ := List.append_inj same (saltLength.trans saltLength'.symm)
    obtain ⟨rfl, sealedText⟩ := List.append_inj ivOn (ivLength.trans ivLength'.symm)
    exact sealedText
  · intro same
    exact ⟨salt, iv, saltLength, ivLength, by rw [← same]⟩

theorem Authentic.length_le {openssl : OpenSsl} {passphrase payload plaintext : Bytes}
    (authentic : Authentic openssl passphrase payload plaintext) :
    saltLen + aesIvLen ≤ payload.length := by
  obtain ⟨-, -, salt, iv, saltLength, ivLength, rfl⟩ := authentic
  rw [List.length_append, List.length_append, saltLength, ivLength]
  exact Nat.le_add_right _ _

/-- What is handed over of a payload that splits, when OpenSSL works: what it opens to, if that
is not empty. -/
theorem plaintextOf_append {server : TcpServer} {host : Host} (works : host.openssl.Works)
    {header : FileHeader} (encrypted : header.encrypted = true) (set : server.passphrase ≠ [])
    {salt iv cipher : Bytes} (saltLength : salt.length = saltLen)
    (ivLength : iv.length = aesIvLen) (small : cipher.length < 2 ^ 31 + aesTagLen) :
    plaintextOf server host header (salt ++ iv ++ cipher) =
      .ok ((host.openssl.gcm.openSealed (host.openssl.pbkdf2 server.passphrase salt) iv
        cipher).filter (· ≠ [])) := by
  have split : deserializeEncrypted (salt ++ iv ++ cipher) = .ok (some ⟨salt, iv, cipher⟩) := by
    show deserializeEncrypted (serializeEncrypted ⟨salt, iv, cipher⟩) = _
    exact deserializeEncrypted_serializeEncrypted saltLength ivLength
  have decrypted : decrypt host.openssl ⟨salt, iv, cipher⟩ server.passphrase =
      .ok ((host.openssl.gcm.openSealed (host.openssl.pbkdf2 server.passphrase salt) iv
        cipher).getD []) := decrypt_of_works works ivLength small _
  rw [plaintextOf, if_pos encrypted, if_neg set, split, throwing_ok]
  simp only [ok_bind, decrypted]
  cases host.openssl.gcm.openSealed (host.openssl.pbkdf2 server.passphrase salt) iv cipher with
  | none => rfl
  | some bytes =>
    by_cases empty : bytes = []
    · rw [empty]
      rfl
    · have kept : (some bytes).filter (fun plaintext : Bytes => decide (plaintext ≠ [])) =
          some bytes := Option.filter_some_pos (decide_eq_true empty)
      rw [Option.getD_some, if_neg empty, kept]
      rfl

/-- What is handed over of an encrypted payload, when OpenSSL works: exactly the plaintext it is
authentic for. -/
theorem plaintextOf_encrypted {server : TcpServer} {host : Host} (works : host.openssl.Works)
    {header : FileHeader} (encrypted : header.encrypted = true) {payload : Bytes}
    (small : payload.length < 2 ^ 31 + (saltLen + aesIvLen + aesTagLen)) :
    ∃ plaintext, plaintextOf server host header payload = .ok plaintext ∧
      ∀ data, plaintext = some data ↔
        Authentic host.openssl server.passphrase payload data := by
  by_cases unset : server.passphrase = []
  · refine ⟨none, ?_, fun data => iff_of_false nofun fun authentic => authentic.1 unset⟩
    rw [plaintextOf, if_pos encrypted, if_pos unset]
    rfl
  · by_cases short : payload.length < saltLen + aesIvLen
    · refine ⟨none, ?_, fun data => iff_of_false nofun fun authentic =>
        absurd authentic.length_le (not_le.mpr short)⟩
      rw [plaintextOf, if_pos encrypted, if_neg unset, deserializeEncrypted_eq, if_pos short]
      rfl
    · have split : payload = payload.take saltLen ++ (payload.drop saltLen).take aesIvLen ++
          payload.drop (saltLen + aesIvLen) := by
        rw [← List.drop_drop, List.append_assoc, List.take_append_drop, List.take_append_drop]
      have saltLength : (payload.take saltLen).length = saltLen := by
        rw [List.length_take]
        omega
      have ivLength : ((payload.drop saltLen).take aesIvLen).length = aesIvLen := by
        rw [List.length_take, List.length_drop]
        omega
      have cipherSmall : (payload.drop (saltLen + aesIvLen)).length < 2 ^ 31 + aesTagLen := by
        rw [List.length_drop]
        omega
      rw [split]
      refine ⟨_, plaintextOf_append works encrypted unset saltLength ivLength cipherSmall,
        fun data => ?_⟩
      rw [authentic_sealed_iff saltLength ivLength, Option.filter_eq_some_iff, and_iff_right unset,
        and_comm, decide_eq_true_iff]

/-! ### The end of a run -/

theorem respond_events (connection : Connection) (ok : Bool) :
    (respond connection ok).events =
      .send (respStr (ackOrErr ok)) :: if connection.brokenPipe then [] else [.close] := by
  unfold respond
  rw [Act.events_emit_bind]
  cases connection.brokenPipe <;> rfl

theorem respond_result (connection : Connection) (ok : Bool) :
    (respond connection ok).result =
      if connection.brokenPipe then .error .killed else .ok () := by
  unfold respond
  rw [Act.result_emit_bind]
  cases connection.brokenPipe <;> rfl

@[simp] theorem Files.after_respond (files : Files) (connection : Connection) (ok : Bool) :
    files.after (respond connection ok).events = files := by
  rw [respond_events]
  cases connection.brokenPipe <;> rfl

@[simp] theorem responses_respond (connection : Connection) (ok : Bool) :
    responses (respond connection ok).events = [respStr (ackOrErr ok)] := by
  rw [respond_events]
  cases connection.brokenPipe <;> rfl

@[simp] theorem savedFiles_respond (connection : Connection) (ok : Bool) :
    savedFiles (respond connection ok).events = [] := by
  rw [respond_events]
  cases connection.brokenPipe <;> rfl

section SaveRun

variable (server : TcpServer) {host : Host} (connection : Connection) {header : FileHeader}
  {payload : Bytes}

/-- A payload whose decoding does not return leaves only the directory behind. -/
theorem saveRun_of_error {reason : Halt}
    (halted : plaintextOf server host header payload = .error reason) :
    (saveRun server host connection header payload).events =
        [.makeDirectory (cStr server.receiveDir)] ∧
      (saveRun server host connection header payload).result = .error reason := by
  rw [saveRun, savePayload_eq, halted]
  exact ⟨rfl, rfl⟩

/-- A refused payload is answered with an error, and nothing is written. -/
theorem saveRun_of_refused (refused : plaintextOf server host header payload = .ok none) :
    (saveRun server host connection header payload).events =
        .makeDirectory (cStr server.receiveDir) :: (respond connection false).events ∧
      (saveRun server host connection header payload).result =
        (respond connection false).result := by
  rw [saveRun, savePayload_eq, refused]
  exact ⟨rfl, rfl⟩

/-- The result of a write is what is answered. -/
theorem saveRun_of_written {data : Bytes}
    (decoded : plaintextOf server host header payload = .ok (some data))
    (created : host.storage.createDirectories = true) :
    (saveRun server host connection header payload).events =
        .makeDirectory (cStr server.receiveDir) ::
          ((writeFile host.storage server.receiveDir header.filename data).events ++
            (respond connection (host.storage.opens && host.storage.accepts data)).events) ∧
      (saveRun server host connection header payload).result =
        (respond connection (host.storage.opens && host.storage.accepts data)).result := by
  have result := writeFile_result host.storage server.receiveDir header.filename data
  rw [if_pos created] at result
  rw [saveRun, savePayload_eq, decoded]
  simp only [Act.lift_ok_bind, Act.events_emit_bind, Act.result_emit_bind]
  exact ⟨congrArg _ (Act.events_bind_of_ok result _), Act.result_bind_of_ok result _⟩

/-- A write that cannot create its directory throws, and nothing is answered. -/
theorem saveRun_of_uncreated {data : Bytes}
    (decoded : plaintextOf server host header payload = .ok (some data))
    (uncreated : host.storage.createDirectories = false) :
    (saveRun server host connection header payload).events =
        .makeDirectory (cStr server.receiveDir) ::
          (writeFile host.storage server.receiveDir header.filename data).events ∧
      (saveRun server host connection header payload).result =
        .error (.threw .filesystemError) := by
  have result := writeFile_result host.storage server.receiveDir header.filename data
  rw [uncreated, if_neg (by decide)] at result
  rw [saveRun, savePayload_eq, decoded]
  simp only [Act.lift_ok_bind, Act.events_emit_bind, Act.result_emit_bind]
  exact ⟨congrArg _ (Act.events_bind_of_error result _), Act.result_bind_of_error result _⟩

/-- The ways a run that saves can go: what holds of each of them holds of the run. -/
theorem saveRun_cases {motive : ServerAct Unit → Prop}
    (halted : ∀ reason, plaintextOf server host header payload = .error reason →
      motive ⟨[.makeDirectory (cStr server.receiveDir)], .error reason⟩)
    (refused : plaintextOf server host header payload = .ok none →
      motive ⟨.makeDirectory (cStr server.receiveDir) :: (respond connection false).events,
        (respond connection false).result⟩)
    (uncreated : ∀ data, plaintextOf server host header payload = .ok (some data) →
      host.storage.createDirectories = false →
      motive ⟨.makeDirectory (cStr server.receiveDir) ::
          (writeFile host.storage server.receiveDir header.filename data).events,
        .error (.threw .filesystemError)⟩)
    (written : ∀ data, plaintextOf server host header payload = .ok (some data) →
      host.storage.createDirectories = true →
      motive ⟨.makeDirectory (cStr server.receiveDir) ::
          ((writeFile host.storage server.receiveDir header.filename data).events ++
            (respond connection (host.storage.opens && host.storage.accepts data)).events),
        (respond connection (host.storage.opens && host.storage.accepts data)).result⟩) :
    motive (saveRun server host connection header payload) := by
  cases decodes : plaintextOf server host header payload with
  | error reason =>
    obtain ⟨events, result⟩ := saveRun_of_error server connection decodes
    rw [Act.eq_mk events result]
    exact halted reason decodes
  | ok decoded =>
    cases decoded with
    | none =>
      obtain ⟨events, result⟩ := saveRun_of_refused server connection decodes
      rw [Act.eq_mk events result]
      exact refused decodes
    | some data =>
      cases created : host.storage.createDirectories with
      | false =>
        obtain ⟨events, result⟩ := saveRun_of_uncreated server connection decodes created
        rw [Act.eq_mk events result]
        exact uncreated data decodes created
      | true =>
        obtain ⟨events, result⟩ := saveRun_of_written server connection decodes created
        rw [Act.eq_mk events result]
        exact written data decodes created

/-- What a run saves is what is handed over. -/
theorem savedFiles_saveRun {decoded : Option Bytes}
    (decodes : plaintextOf server host header payload = .ok decoded) :
    savedFiles (saveRun server host connection header payload).events =
      (decoded.map fun data => (server.receiveDir, header.filename, data)).toList := by
  cases decoded with
  | none =>
    rw [(saveRun_of_refused server connection decodes).1]
    exact savedFiles_respond connection false
  | some data =>
    cases created : host.storage.createDirectories with
    | false =>
      rw [(saveRun_of_uncreated server connection decodes created).1]
      exact savedFiles_writeFile _ _ _ _
    | true =>
      rw [(saveRun_of_written server connection decodes created).1]
      show savedFiles (_ ++ _) = _
      rw [savedFiles_append, savedFiles_writeFile, savedFiles_respond, List.append_nil]
      rfl

/-- Once the payload is decoded, a run reads nothing outside of a vector. -/
theorem saveRun_result_ne_outOfBounds {decoded : Option Bytes}
    (decodes : plaintextOf server host header payload = .ok decoded) :
    (saveRun server host connection header payload).result ≠ .error (.threw .outOfBounds) := by
  have responded (ok : Bool) :
      (respond connection ok).result ≠ .error (.threw .outOfBounds) := by
    rw [respond_result]
    cases connection.brokenPipe <;> exact nofun
  cases decoded with
  | none =>
    rw [(saveRun_of_refused server connection decodes).2]
    exact responded false
  | some data =>
    cases created : host.storage.createDirectories with
    | false =>
      rw [(saveRun_of_uncreated server connection decodes created).2]
      exact nofun
    | true =>
      rw [(saveRun_of_written server connection decodes created).2]
      exact responded _

end SaveRun

/-! ### Runs that save -/

/-- The run saves `data` and acknowledges it: the stream announces a file, the payload arrives and
is decoded to `data`, and the write succeeds. -/
structure Saves (server : TcpServer) (host : Host) (connection : Connection)
    (header : FileHeader) (rest data : Bytes) : Prop where
  announced : Announces connection.inbound.rest header rest
  arrives : Arrives host connection header rest
  decodes : plaintextOf server host header (rest.take header.size.toNat) = .ok (some data)
  created : host.storage.createDirectories = true
  opens : host.storage.opens = true
  accepts : host.storage.accepts data = true

section Saves

variable {server : TcpServer} {host : Host} {connection : Connection} {header : FileHeader}
  {rest data : Bytes}

theorem Saves.events (saves : Saves server host connection header rest data) :
    (handleClient server host connection).events =
      .makeDirectory (cStr server.receiveDir) ::
        ((writeFile host.storage server.receiveDir header.filename data).events ++
          (respond connection true).events) := by
  rw [handleClient_of_announces server saves.announced saves.arrives,
    (saveRun_of_written server connection saves.decodes saves.created).1, saves.opens,
    saves.accepts]
  rfl

theorem Saves.result (saves : Saves server host connection header rest data) :
    (handleClient server host connection).result = (respond connection true).result := by
  rw [handleClient_of_announces server saves.announced saves.arrives,
    (saveRun_of_written server connection saves.decodes saves.created).2, saves.opens,
    saves.accepts]
  rfl

theorem Saves.responses (saves : Saves server host connection header rest data) :
    responses (handleClient server host connection).events = [respStr .fileAck] := by
  rw [saves.events]
  show UniversalAirdrop.responses (_ ++ _) = _
  rw [responses_append, responses_writeFile, responses_respond, List.nil_append]
  rfl

theorem Saves.savedFiles (saves : Saves server host connection header rest data) :
    savedFiles (handleClient server host connection).events =
      [(server.receiveDir, header.filename, data)] := by
  rw [saves.events]
  show UniversalAirdrop.savedFiles (_ ++ _) = _
  rw [savedFiles_append, savedFiles_writeFile, savedFiles_respond, List.append_nil]

/-- After a run that saves, the file holds what was stored, and no other file has changed. -/
theorem Saves.after (saves : Saves server host connection header rest data) (files : Files) :
    files.after (handleClient server host connection).events =
      Function.update files (server.receivedPath header.filename)
        (some (host.storage.stored data)) := by
  rw [saves.events, Files.after_cons, Files.after_append, Files.after_respond, after_writeFile,
    saves.created, saves.opens]
  rfl

end Saves

/-- A run answers at most once, and with an acknowledgement exactly when it saves. -/
theorem responses_handleClient (server : TcpServer) (host : Host) (connection : Connection) :
    responses (handleClient server host connection).events = [] ∨
      responses (handleClient server host connection).events = [respStr .fileErr] ∨
        ∃ header rest data, Saves server host connection header rest data := by
  by_cases accepted : ∃ header rest, Announces connection.inbound.rest header rest
  case neg =>
    refine Or.inl (List.filterMap_eq_nil_iff.mpr fun event member => ?_)
    rw [handleClient_of_not_announces server host accepted event member]
  case pos =>
    obtain ⟨header, rest, announced⟩ := accepted
    by_cases arrives : Arrives host connection header rest
    case neg =>
      rw [handleClient_of_not_arrives server announced arrives]
      exact Or.inl rfl
    case pos =>
      rw [handleClient_of_announces server announced arrives]
      refine saveRun_cases server connection (motive := fun run =>
        responses run.events = [] ∨ responses run.events = [respStr .fileErr] ∨
          ∃ header rest data, Saves server host connection header rest data)
        ?halted ?refused ?uncreated ?written
      case halted => exact fun reason _ => Or.inl rfl
      case refused => exact fun _ => Or.inr (Or.inl (responses_respond connection false))
      case uncreated => exact fun data _ _ => Or.inl (responses_writeFile _ _ _ _)
      case written =>
        intro data decodes created
        cases written : host.storage.opens && host.storage.accepts data with
        | true =>
          rw [Bool.and_eq_true] at written
          exact Or.inr (Or.inr ⟨header, rest, data,
            ⟨announced, arrives, decodes, created, written.1, written.2⟩⟩)
        | false =>
          refine Or.inr (Or.inl ?_)
          show responses (_ ++ _) = _
          rw [responses_append, responses_writeFile, responses_respond, List.nil_append]
          rfl

/-- An acknowledgement is sent exactly when the run saves. -/
theorem fileAck_mem_responses_iff {server : TcpServer} {host : Host} {connection : Connection} :
    respStr .fileAck ∈ responses (handleClient server host connection).events ↔
      ∃ header rest data, Saves server host connection header rest data := by
  constructor
  · intro acked
    rcases responses_handleClient server host connection with silent | refused | saves
    · rw [silent] at acked
      cases acked
    · rw [refused, List.mem_singleton] at acked
      exact absurd acked.symm respStr_fileErr_ne_fileAck
    · exact saves
  · rintro ⟨header, rest, data, saves⟩
    rw [saves.responses]
    exact List.mem_singleton_self _

/-! ### Transfers that break off -/

/-- A run saves whole files only: when fewer bytes than declared follow the header, no file
changes and no acknowledgement is sent, and when one is sent the file holds exactly the declared
number of bytes that follow the header. -/
def SavesWholeOnly (server : TcpServer) (header : FileHeader) (rest : Bytes)
    (events : List ServerEvent) : Prop :=
  (rest.length < header.size.toNat →
    (∀ files : Files, files.after events = files) ∧ respStr .fileAck ∉ responses events) ∧
  (respStr .fileAck ∈ responses events → ∀ files : Files,
    header.size.toNat ≤ rest.length ∧
      files.after events (server.receivedPath header.filename) =
        some (rest.take header.size.toNat))

section Unencrypted

variable (server : TcpServer) (host : Host) {connection : Connection} {header : FileHeader}
  {rest : Bytes}

/-- When a run under an unencrypted header acknowledges: the payload arrives and its write
succeeds. -/
theorem fileAck_mem_responses_unencrypted
    (announced : Announces connection.inbound.rest header rest)
    (unencrypted : header.encrypted = false) :
    respStr .fileAck ∈ responses (handleClient server host connection).events ↔
      Arrives host connection header rest ∧ host.storage.createDirectories = true ∧
        host.storage.opens = true ∧
        host.storage.accepts (rest.take header.size.toNat) = true := by
  have decodes := plaintextOf_unencrypted server host unencrypted (rest.take header.size.toNat)
  rw [fileAck_mem_responses_iff]
  constructor
  · rintro ⟨header', rest', data, saves⟩
    obtain ⟨rfl, rfl⟩ := announced.unique saves.announced
    obtain rfl : rest.take header.size.toNat = data :=
      Option.some.inj (Except.ok.inj (decodes.symm.trans saves.decodes))
    exact ⟨saves.arrives, saves.created, saves.opens, saves.accepts⟩
  · rintro ⟨arrives, created, opens, accepts⟩
    exact ⟨header, rest, _, announced, arrives, decodes, created, opens, accepts⟩

/-- What a run under an unencrypted header leaves behind when it opens the file. -/
theorem after_unencrypted_of_opened
    (announced : Announces connection.inbound.rest header rest)
    (unencrypted : header.encrypted = false) (arrives : Arrives host connection header rest)
    (created : host.storage.createDirectories = true) (opens : host.storage.opens = true)
    (files : Files) :
    files.after (handleClient server host connection).events =
      Function.update files (server.receivedPath header.filename)
        (some (host.storage.stored (rest.take header.size.toNat))) := by
  have decodes := plaintextOf_unencrypted server host unencrypted (rest.take header.size.toNat)
  rw [handleClient_of_announces server announced arrives,
    (saveRun_of_written server connection decodes created).1, Files.after_cons,
    Files.after_append, Files.after_respond, after_writeFile, created, opens]
  rfl

/-- A run under an unencrypted header that does not open the file changes nothing. -/
theorem after_unencrypted_of_unopened (announced : Announces connection.inbound.rest header rest)
    (unencrypted : header.encrypted = false)
    (unopened : ¬ (Arrives host connection header rest ∧
      host.storage.createDirectories = true ∧ host.storage.opens = true)) (files : Files) :
    files.after (handleClient server host connection).events = files := by
  by_cases arrives : Arrives host connection header rest
  · have decodes :=
      plaintextOf_unencrypted server host unencrypted (rest.take header.size.toNat)
    rw [handleClient_of_announces server announced arrives]
    cases created : host.storage.createDirectories with
    | false =>
      rw [(saveRun_of_uncreated server connection decodes created).1, Files.after_cons,
        after_writeFile, created]
      rfl
    | true =>
      have closed : host.storage.opens = false :=
        Bool.eq_false_iff.mpr fun opens => unopened ⟨arrives, created, opens⟩
      rw [(saveRun_of_written server connection decodes created).1, Files.after_cons,
        Files.after_append, Files.after_respond, after_writeFile, created, closed]
      rfl
  · rw [handleClient_of_not_arrives server announced arrives]
    rfl

end Unencrypted

/-- Exactly when a run under an unencrypted header saves whole files only: it ends before
write-file, or the file cannot be opened, or the declared number of bytes follows the header and
the destructor does not lose the tail of the file. -/
theorem handleClient_savesWholeOnly_iff (server : TcpServer) (host : Host)
    (connection : Connection) {header : FileHeader} {rest : Bytes}
    (announced : Announces connection.inbound.rest header rest)
    (unencrypted : header.encrypted = false) :
    SavesWholeOnly server header rest (handleClient server host connection).events ↔
      (Arrives host connection header rest → host.storage.createDirectories = true →
        host.storage.opens = true →
          header.size.toNat ≤ rest.length ∧
            ¬ host.storage.LosesTail (rest.take header.size.toNat)) := by
  have acked := fileAck_mem_responses_unencrypted server host announced unencrypted
  by_cases opened : Arrives host connection header rest ∧
      host.storage.createDirectories = true ∧ host.storage.opens = true
  · obtain ⟨arrives, created, opens⟩ := opened
    have after :=
      after_unencrypted_of_opened server host announced unencrypted arrives created opens
    rw [imp_iff_right arrives, imp_iff_right created, imp_iff_right opens]
    constructor
    · rintro ⟨short, whole⟩
      have complete : header.size.toNat ≤ rest.length := by
        by_contra partly
        -- A file that was not there is created.
        have unchanged := congrFun ((short (not_le.mp partly)).1 fun _ => none)
          (server.receivedPath header.filename)
        rw [after, Function.update_self] at unchanged
        cases unchanged
      refine ⟨complete, fun lost => ?_⟩
      have stored := (whole (acked.mpr ⟨arrives, created, opens, lost.1⟩) fun _ => none).2
      rw [after, Function.update_self, Option.some.injEq] at stored
      exact (Storage.stored_eq_iff lost.1).mp stored lost
    · rintro ⟨complete, keeps⟩
      refine ⟨fun short => absurd complete (not_le.mpr short), fun answered files => ?_⟩
      obtain ⟨-, -, -, accepts⟩ := acked.mp answered
      rw [after, Function.update_self, (Storage.stored_eq_iff accepts).mpr keeps]
      exact ⟨complete, rfl⟩
  · have unanswered : respStr .fileAck ∉
        responses (handleClient server host connection).events := fun answered =>
      have saved := acked.mp answered
      opened ⟨saved.1, saved.2.1, saved.2.2.1⟩
    have unchanged := after_unencrypted_of_unopened server host announced unencrypted opened
    refine iff_of_true ⟨fun _ => ⟨unchanged, unanswered⟩, fun answered => ?_⟩ ?_
    · exact absurd answered unanswered
    · intro arrives created opens
      exact absurd ⟨arrives, created, opens⟩ opened

/-- The first two bytes of a five-byte file, after which the peer closes: they are saved and
acknowledged. -/
theorem handleClient_brokenOff :
    Announces (ascii "UAIRDROP:2:a:5\nhi") ⟨ascii "a", 5, false⟩ (ascii "hi") ∧
      ¬ SavesWholeOnly sampleServer ⟨ascii "a", 5, false⟩ (ascii "hi")
        (handleClient sampleServer Host.healthy
          (closedAfter (ascii "UAIRDROP:2:a:5\nhi"))).events := by
  refine ⟨⟨ascii "UAIRDROP:2:a:5", by decide +kernel, by decide +kernel⟩, fun whole => ?_⟩
  have unacknowledged := (whole.1 (by decide +kernel)).2
  revert unacknowledged
  decide +kernel

/-- The five bytes of the file, when all of them arrive. -/
theorem handleClient_savesWholeOnly_complete :
    SavesWholeOnly sampleServer ⟨ascii "a", 5, false⟩ (ascii "hello")
      (handleClient sampleServer Host.healthy
        (closedAfter (ascii "UAIRDROP:2:a:5\nhello"))).events :=
  (handleClient_savesWholeOnly_iff sampleServer Host.healthy _
    ⟨ascii "UAIRDROP:2:a:5", by decide +kernel, by decide +kernel⟩ rfl).mpr fun _ _ _ =>
      ⟨by decide +kernel, fun lost => lost.2.2 rfl⟩

/-! ### Encrypted payloads -/

/-- What a run makes of an encrypted payload, when OpenSSL works and the payload is not too
large for it: it is saved exactly when it is authentic, with the plaintext it is authentic for;
otherwise no file changes and an error is sent. Nothing outside of a vector is read. -/
theorem handleClient_encrypted (server : TcpServer) (host : Host) (connection : Connection)
    {header : FileHeader} {rest : Bytes} (works : host.openssl.Works)
    (announced : Announces connection.inbound.rest header rest)
    (encrypted : header.encrypted = true) (arrives : Arrives host connection header rest)
    (small : (rest.take header.size.toNat).length < 2 ^ 31) :
    let run := handleClient server host connection
    let authentic := Authentic host.openssl server.passphrase (rest.take header.size.toNat)
    (savedFiles run.events ≠ [] ↔ ∃ plaintext, authentic plaintext) ∧
      (∀ plaintext, authentic plaintext →
        savedFiles run.events = [(server.receiveDir, header.filename, plaintext)]) ∧
      ((∀ plaintext, ¬ authentic plaintext) →
        (∀ files : Files, files.after run.events = files) ∧
          responses run.events = [respStr .fileErr]) ∧
      run.result ≠ .error (.threw .outOfBounds) := by
  intro run authentic
  obtain ⟨decoded, decodes, exactly⟩ :=
    plaintextOf_encrypted works encrypted (small.trans_le (Nat.le_add_right _ _))
  have saves : run = saveRun server host connection header (rest.take header.size.toNat) :=
    handleClient_of_announces server announced arrives
  have saved := savedFiles_saveRun server connection decodes
  have inside := saveRun_result_ne_outOfBounds server connection decodes
  rw [← saves] at saved inside
  refine ⟨?_, fun plaintext holds => ?_, fun refused => ?_, inside⟩
  · simp only [authentic, ← exactly]
    rw [saved]
    cases decoded <;> simp
  · rw [saved, (exactly plaintext).mpr holds]
    rfl
  · cases decoded with
    | some data => exact absurd ((exactly data).mp rfl) (refused data)
    | none =>
      have events := (saveRun_of_refused server connection decodes).1
      rw [← saves] at events
      refine ⟨fun files => ?_, ?_⟩
      · rw [events, Files.after_cons, Files.after_respond]
        rfl
      · rw [events]
        exact responses_respond connection false

/-- The sealed text of a two-byte file under the server's passphrase, as a payload. -/
def sealedPayload : Bytes :=
  sampleRandomness.salt ++ sampleRandomness.iv ++ OpenSsl.keyMarked.gcm.sealed
    (OpenSsl.keyMarked.pbkdf2 (ascii "mypass") sampleRandomness.salt) sampleRandomness.iv
    (ascii "hi")

/-- The two bytes are what is saved of it. -/
theorem handleClient_encrypted_sealed :
    savedFiles (handleClient sampleServer Host.healthy
        (closedAfter (ascii "UAIRDROP:6:a:46\n" ++ sealedPayload))).events =
      [(ascii "./received", ascii "a", ascii "hi")] := by
  have announced : Announces (ascii "UAIRDROP:6:a:46\n" ++ sealedPayload) ⟨ascii "a", 46, true⟩
      sealedPayload := ⟨ascii "UAIRDROP:6:a:46", by decide +kernel, by decide +kernel⟩
  have encrypted := handleClient_encrypted sampleServer Host.healthy
    (closedAfter (ascii "UAIRDROP:6:a:46\n" ++ sealedPayload)) OpenSsl.keyMarked_works announced
    rfl ⟨by decide +kernel, by decide +kernel⟩ (by decide +kernel)
  exact encrypted.2.1 (ascii "hi") ⟨by decide, by decide, sampleRandomness.salt,
    sampleRandomness.iv, sampleRandomness.length_salt, sampleRandomness.length_iv,
    by decide +kernel⟩

end UniversalAirdrop
