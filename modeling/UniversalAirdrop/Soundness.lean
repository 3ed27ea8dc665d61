/-
This file proves when a reported success means that the file is there. The
report rests on an acknowledgement, and the acknowledgement on what the server
read in the header. A name without a colon is read as it is, or the header is
rejected; a name with one is split again, and the server may save other bytes
under another name and acknowledge them. That is the only way for a report to be
wrong.
-/

import UniversalAirdrop.Delivery

namespace UniversalAirdrop

open Imperative Streams

namespace Transfer

variable {transfer : Transfer} {link : Link} {name bytes : Bytes}

/-! ### Misread messages -/

/-- The message that sends a file is read as another file's, which the server saves: the name has
a colon, the message announces something, the server can reserve its size and decode what follows
to `data`, and the write succeeds. -/
def Misread (transfer : Transfer) (bytes : Bytes) : Prop :=
  fieldDelim ∈ transfer.filename ∧ ∃ header rest data,
    Announces (transfer.message (transfer.sentPayload bytes)) header rest ∧
      vectorReserve transfer.host.allocates header.size.toNat = .ok () ∧
      plaintextOf transfer.server transfer.host header (rest.take header.size.toNat) =
        .ok (some data) ∧
      transfer.host.storage.createDirectories = true ∧ transfer.host.storage.opens = true ∧
      transfer.host.storage.accepts data = true

/-- The text that was sealed for an encrypted transfer opens under the server's key only if that is
the key it was sealed under. -/
def OpensUnderOneKey (transfer : Transfer) (bytes : Bytes) : Prop :=
  transfer.passphrase ≠ [] → ∀ data, transfer.host.openssl.gcm.openSealed
      (transfer.host.openssl.pbkdf2 transfer.server.passphrase transfer.sender.random.salt)
      transfer.sender.random.iv
      (transfer.host.openssl.gcm.sealed
        (transfer.host.openssl.pbkdf2 transfer.passphrase transfer.sender.random.salt)
        transfer.sender.random.iv bytes) = some data →
    transfer.host.openssl.pbkdf2 transfer.server.passphrase transfer.sender.random.salt =
      transfer.host.openssl.pbkdf2 transfer.passphrase transfer.sender.random.salt

/-- Success reports are sound: over every link, if the sender reports success, the server has
written the bytes that were sent under the file's name and nothing else, and the receiver's file of
that name holds them. -/
def Sound (transfer : Transfer) (name bytes : Bytes) : Prop :=
  ∀ link : Link, (transfer.senderRun link).result = .ok true →
    savedFiles (transfer.serverRun link).events = [(transfer.server.receiveDir, name, bytes)] ∧
    ∀ files : Files, files.after (transfer.serverRun link).events
      (transfer.server.receivedPath name) = some bytes

/-- A run that saves a message saves the sent bytes under its name, if the name has no colon. -/
theorem eq_of_saves (hostWorks : transfer.host.openssl.Works) (small : bytes.length < 2 ^ 31)
    (oneKey : OpensUnderOneKey transfer bytes) (noColon : fieldDelim ∉ transfer.filename)
    {header : FileHeader} {rest data : Bytes}
    (saves : Saves transfer.server transfer.host
      (link.connection (transfer.message (transfer.sentPayload bytes))) header rest data) :
    header.filename = transfer.filename ∧ data = bytes := by
  have fits : (transfer.sentPayload bytes).length < 2 ^ 64 :=
    lt_of_le_of_lt (length_sentPayload_le transfer bytes)
      (lt_trans (Nat.add_lt_add_right small _) (by decide))
  obtain ⟨rfl, decodes⟩ := decodes_of_saves_message noColon fits saves
  refine ⟨rfl, ?_⟩
  -- The server's key is the sender's, so it decodes what was encrypted.
  by_cases unset : transfer.passphrase = []
  · have unencrypted : (transfer.header (transfer.sentPayload bytes)).encrypted = false := by
      show decide (transfer.passphrase ≠ []) = false
      simp [unset]
    rw [plaintextOf_unencrypted _ _ unencrypted, Except.ok.injEq, Option.some.injEq,
      sentPayload, if_pos unset] at decodes
    exact decodes.symm
  · obtain ⟨plaintext, decoded, exactly⟩ := plaintextOf_sentPayload hostWorks unset small
    rw [decodes, Except.ok.injEq] at decoded
    have opened := ((exactly data).mp decoded.symm).2.2
    rw [oneKey unset data opened, Aead.openSealed_sealed, Option.some.injEq] at opened
    exact opened.symm

/-- A run that saves a message under a name with a colon saves it under another name. -/
theorem ne_of_saves (colon : fieldDelim ∈ name) {connection : Connection} {header : FileHeader}
    {rest data : Bytes}
    (saves : Saves transfer.server transfer.host connection header rest data) :
    header.filename ≠ name := by
  obtain ⟨line, -, parsed⟩ := saves.announced
  rintro rfl
  exact fieldDelim_notMem_filename parsed colon

/-- A network on which nothing goes wrong until all of the message has arrived. -/
def failingAfter : Link where
  socketCreated := true
  addressValid := true
  connected := true
  sends _ := .accepts 4096
  cuts _ := 4096
  ending := .failed
  brokenPipe := false
  replyCuts _ := 11
  replyEnding := .closed

/-- Exactly when success reports are sound: unless the message is misread. -/
theorem sound_iff (sends : transfer.Sends name bytes) (senderWorks : transfer.sender.openssl.Works)
    (hostWorks : transfer.host.openssl.Works) (small : bytes.length < 2 ^ 31)
    (faithful : transfer.host.storage.Faithful) (oneKey : OpensUnderOneKey transfer bytes) :
    Sound transfer name bytes ↔ ¬ Misread transfer bytes := by
  obtain rfl := sends.filename
  have built := payloadOf_eq senderWorks small transfer.filename
  constructor
  · rintro sound ⟨colon, header, rest, data, announced, reserved, decodes, created, opens, accepts⟩
    have responds : Responds transfer failingAfter bytes (transfer.sentPayload bytes) :=
      ⟨sends.readable, built, reaches_of_reliable rfl rfl rfl fun _ => ⟨4096, rfl⟩⟩
    have saves : Saves transfer.server transfer.host
        (failingAfter.connection (transfer.message (transfer.sentPayload bytes)))
        header rest data :=
      ⟨announced, ⟨reserved, fun waiting => nomatch waiting.2⟩, decodes, created, opens, accepts⟩
    have saved := (sound failingAfter
      ((senderRun_true_iff responds).mpr ⟨⟨_, _, _, saves⟩, rfl, by decide⟩)).1
    rw [responds.serverRun_eq, saves.savedFiles, List.singleton_inj, Prod.mk.injEq,
      Prod.mk.injEq] at saved
    exact ne_of_saves colon saves saved.2.1
  · intro read link success
    obtain ⟨payload, responds⟩ := responds_of_senderRun_true sends.readable success
    obtain rfl : payload = transfer.sentPayload bytes :=
      Except.ok.inj (responds.built.symm.trans built)
    obtain ⟨⟨header, rest, data, saves⟩, -⟩ := (senderRun_true_iff responds).mp success
    by_cases colon : fieldDelim ∈ transfer.filename
    · exact absurd ⟨colon, header, rest, data, saves.announced, saves.arrives.reserved,
        saves.decodes, saves.created, saves.opens, saves.accepts⟩ read
    · obtain ⟨named, rfl⟩ := eq_of_saves hostWorks small oneKey colon saves
      rw [responds.serverRun_eq]
      refine ⟨?_, fun files => ?_⟩
      · rw [saves.savedFiles, named]
      · rw [saves.after, named, Function.update_self, faithful data saves.accepts]

/-- A file named `a:0`: an empty file `a` is saved and acknowledged, and the sender reports
success. -/
theorem misreads_colon :
    ((sample (ascii "a:0") (ascii "hi") []).senderRun (Link.sample fun _ => 11)).result =
        .ok true ∧
      savedFiles ((sample (ascii "a:0") (ascii "hi") []).serverRun
        (Link.sample fun _ => 11)).events = [(ascii "./received", ascii "a", [])] ∧
      ¬ Sound (sample (ascii "a:0") (ascii "hi") []) (ascii "a:0") (ascii "hi") := by
  have success : ((sample (ascii "a:0") (ascii "hi") []).senderRun
      (Link.sample fun _ => 11)).result = .ok true := by decide +kernel
  refine ⟨success, by decide +kernel, fun sound => ?_⟩
  have saved := (sound (Link.sample fun _ => 11) success).1
  revert saved
  decide +kernel

/-- A file with an ordinary name, encrypted under the passphrase the server has. -/
theorem sound_sample :
    Sound (sample (ascii "a") (ascii "hi") (ascii "mypass")) (ascii "a") (ascii "hi") := by
  have noColon : fieldDelim ∉ (sample (ascii "a") (ascii "hi") (ascii "mypass")).filename := by
    decide
  exact (sound_iff (sample_sends (ascii "hi") (ascii "mypass") (by decide))
    OpenSsl.keyMarked_works OpenSsl.keyMarked_works (by decide) Storage.healthy_works.faithful
    fun _ _ _ => rfl).mpr fun misread => noColon misread.1

end Transfer

end UniversalAirdrop
