/-
This file models `main`: which command the arguments stand for, and what `cmd_send`
shows and returns. It proves what becomes of a file when one side types a receive
command and the other side a send command with the same port.

The passphrase of the sender decides whether the file is encrypted. Without one it
is delivered whatever passphrase the receiver has; with one it is delivered when it
is not empty and both derive the same key.
-/

import UniversalAirdrop.Progress
import UniversalAirdrop.Sessions
import UniversalAirdrop.Soundness

namespace UniversalAirdrop

open Imperative Streams

/-! ### What the arguments stand for -/

/-- What `main` calls: one of the commands, or it prints the usage. -/
inductive Invocation
  | usage
  | discover (name : Bytes)
  | send (ip : Bytes) (port : UInt16) (filepath passphrase : Bytes)
  | receive (port : UInt16) (outputDir passphrase : Bytes)
  deriving DecidableEq, Repr

/-- The choice that `main` makes. An exception of `stoi` leaves `main`. -/
def invocation (argv : List Bytes) : Except Fault Invocation :=
  match argv with
  | _ :: cmd :: args =>
    if cmd = ascii "discover" ∧ 1 ≤ args.length then return .discover (args.getD 0 [])
    else if cmd = ascii "send" ∧ 3 ≤ args.length then do
      let passphrase := args.getD 3 []
      let port ← stoi (args.getD 1 [])
      return .send (args.getD 0 []) (UInt16.ofInt port) (args.getD 2 []) passphrase
    else if cmd = ascii "receive" then do
      let port ← match args with
        | [] => pure defaultTcpPort
        | portStr :: _ => (stoi portStr).map UInt16.ofInt
      return .receive port (args.getD 1 (ascii "./received")) (args.getD 2 [])
    else return .usage
  | _ => return .usage

/-- `cmd_send`, with the exit code that `main` returns. -/
def cmdSend (sender : Sender) (network : Network) (filepath passphrase : Bytes) : ClientAct ℕ := do
  let ok ← sendFile { sender with reportsProgress := true } network filepath passphrase
  return if ok then 0 else 1

/-- The percentage that the callback of `cmd_send` shows, and the progress bar of the window. -/
def percent (sent total : UInt64) : UInt64 := sent * 100 / total

theorem invocation_send (program ip portStr filepath : Bytes) (more : List Bytes) :
    invocation (program :: ascii "send" :: ip :: portStr :: filepath :: more) =
      (stoi portStr).map fun port =>
        .send ip (UInt16.ofInt port) filepath (more.headD []) := by
  have notDiscover : ascii "send" ≠ ascii "discover" := by decide
  rw [invocation, if_neg fun both => notDiscover both.1, if_pos ⟨rfl, by simp⟩]
  show (stoi portStr >>= _) = _
  cases stoi portStr <;> cases more <;> rfl

theorem invocation_receive (program portStr dir : Bytes) (more : List Bytes) :
    invocation (program :: ascii "receive" :: portStr :: dir :: more) =
      (stoi portStr).map fun port => .receive (UInt16.ofInt port) dir (more.headD []) := by
  have notDiscover : ascii "receive" ≠ ascii "discover" := by decide
  have notSend : ascii "receive" ≠ ascii "send" := by decide
  rw [invocation, if_neg fun both => notDiscover both.1, if_neg fun both => notSend both.1,
    if_pos rfl]
  show ((stoi portStr).map UInt16.ofInt >>= _) = _
  cases stoi portStr <;> cases more <;> rfl

/-! ### What the sender sees -/

/-- As long as hundred times the total is a 64-bit number, the percentage is the quotient. -/
theorem toNat_percent {sent total : ℕ} (within : sent ≤ total) (fits : total * 100 < 2 ^ 64) :
    (percent (UInt64.ofNat sent) (UInt64.ofNat total)).toNat = sent * 100 / total := by
  have product : sent * 100 < 2 ^ 64 := lt_of_le_of_lt (Nat.mul_le_mul_right _ within) fits
  have hundred : (100 : UInt64).toNat = 100 := rfl
  have size : UInt64.size = 2 ^ 64 := rfl
  rw [percent, UInt64.toNat_div, UInt64.toNat_mul, UInt64.toNat_ofNat_of_lt' (by omega),
    UInt64.toNat_ofNat_of_lt' (by omega), hundred, Nat.mod_eq_of_lt product]

/-- The percentages that are shown for some calls of the callback. -/
def shown (events : List ClientEvent) : List UInt64 :=
  (progressOf events).map fun report => percent (UInt64.ofNat report.1) (UInt64.ofNat report.2)

/-- The reports of a run with a callback: at every moment the first of all reports, each when what
it says was accepted, and all of them if the whole message was accepted. -/
structure Reported (header payload : Bytes) (events : List ClientEvent) : Prop where
  first : progressOf events <+: reports payload.length (chunkCount payload.length)
  punctual : Punctual header payload events
  accepted : wire events <+: header ++ payload
  all : header ≠ [] → wire events = header ++ payload →
    progressOf events = reports payload.length (chunkCount payload.length)

theorem sendPayload_reported (sender : Sender) (network : Network) (header : FileHeader)
    (payload : Bytes) (called : sender.reportsProgress = true) :
    Reported (serializeFileHeader header) payload
      (sendPayload sender network header payload).events := by
  by_cases connects : network.socketCreated = true ∧ network.addressValid = true ∧
      network.connected = true
  case neg =>
    have silent := @sendPayload_of_unconnected sender network header payload connects
    have nothing : wire (sendPayload sender network header payload).events = [] :=
      List.flatMap_eq_nil_iff.mpr fun event member => by
        obtain rfl | rfl := silent event member <;> rfl
    have unreported : progressOf (sendPayload sender network header payload).events = [] :=
      List.filterMap_eq_nil_iff.mpr fun event member => by
        obtain rfl | rfl := silent event member <;> rfl
    refine ⟨?_, Punctual.nil.append unreported, ?_, fun nonempty same => ?_⟩
    · rw [unreported]
      exact List.nil_prefix
    · rw [nothing]
      exact List.nil_prefix
    · rw [nothing] at same
      exact absurd (List.append_eq_nil_iff.mp same.symm).1 nonempty
  case pos =>
    obtain ⟨created, valid, connected⟩ := connects
    cases transmitted : transmit sender.reportsProgress { sends := network.sends, log := [] }
        header payload with
    | mk outcome socket =>
      cases outcome with
      | ok value =>
        obtain ⟨-, wired, -, reported, punctual⟩ :=
          sendPayload_unfailed created valid connected transmitted
        rw [if_pos called] at reported
        exact ⟨reported ▸ List.prefix_rfl, punctual, wired ▸ List.prefix_rfl,
          fun _ _ => reported⟩
      | error stop =>
        obtain ⟨-, -, ⟨count, less, wired⟩, reported, punctual⟩ :=
          sendPayload_failed created valid connected transmitted
        refine ⟨reported, punctual, wired ▸ List.take_prefix _ _, fun _ same => ?_⟩
        have length := congrArg List.length (wired.symm.trans same)
        rw [List.length_take, Nat.min_eq_left less.le] at length
        exact absurd length less.ne

section Shown

variable {header payload : Bytes} {events : List ClientEvent}

/-- What is shown for a report, as a natural number. -/
theorem Reported.toNat_percent (reported : Reported header payload events)
    (fits : payload.length * 100 < 2 ^ 64) {report : ℕ × ℕ} (member : report ∈ progressOf events) :
    report.2 = payload.length ∧ 0 < report.1 ∧ report.1 ≤ payload.length ∧
      (percent (UInt64.ofNat report.1) (UInt64.ofNat report.2)).toNat =
        report.1 * 100 / payload.length := by
  obtain ⟨before, after, split⟩ := List.append_of_mem (mem_progressOf.mp member)
  obtain ⟨same, positive, within, -⟩ := reported.punctual before report.1 report.2 after split
  refine ⟨same, positive, same ▸ within, ?_⟩
  rw [UniversalAirdrop.toNat_percent within (same ▸ fits), same]

theorem Reported.shown_monotone (reported : Reported header payload events)
    (fits : payload.length * 100 < 2 ^ 64) : (shown events).Pairwise (· ≤ ·) := by
  have increasing : (progressOf events).Pairwise fun first second => first.1 < second.1 :=
    (List.pairwise_map.mp (reports_increasing payload.length)).sublist reported.first.sublist
  refine List.pairwise_map.mpr (increasing.imp_of_mem fun first second less => ?_)
  rw [UInt64.le_iff_toNat_le, (reported.toNat_percent fits first).2.2.2,
    (reported.toNat_percent fits second).2.2.2]
  exact Nat.div_le_div_right (Nat.mul_le_mul_right _ less.le)

theorem Reported.shown_le (reported : Reported header payload events)
    (fits : payload.length * 100 < 2 ^ 64) {percentage : UInt64}
    (member : percentage ∈ shown events) : percentage ≤ 100 := by
  obtain ⟨report, among, rfl⟩ := List.mem_map.mp member
  obtain ⟨-, -, within, value⟩ := reported.toNat_percent fits among
  have hundred : (100 : UInt64).toNat = 100 := rfl
  rw [UInt64.le_iff_toNat_le, value, hundred]
  exact Nat.div_le_of_le_mul (Nat.mul_le_mul_right 100 within)

/-- The last of all reports shows 100, and no earlier one does. -/
theorem Reported.hundred_iff (reported : Reported header payload events) (nonempty : header ≠ [])
    (fits : payload.length * 100 < 2 ^ 64) :
    100 ∈ shown events ↔ payload ≠ [] ∧ wire events = header ++ payload := by
  have hundred : (100 : UInt64).toNat = 100 := rfl
  constructor
  · intro member
    obtain ⟨report, among, same⟩ := List.mem_map.mp member
    obtain ⟨total, positive, within, value⟩ := reported.toNat_percent fits among
    rw [same, hundred] at value
    have whole : payload.length * 100 ≤ report.1 * 100 :=
      (Nat.mul_comm _ _).trans_le ((Nat.le_div_iff_mul_le (positive.trans_le within)).mp value.le)
    have sent : report.1 = payload.length := by omega
    obtain ⟨before, after, split⟩ := List.append_of_mem (mem_progressOf.mp among)
    obtain ⟨-, -, -, accepted⟩ := reported.punctual before report.1 report.2 after split
    refine ⟨List.length_pos_iff.mp (positive.trans_le within), ?_⟩
    -- Everything was accepted before the report, and no more than everything ever is.
    rw [sent, List.take_length] at accepted
    refine reported.accepted.eq_of_length (le_antisymm reported.accepted.length_le ?_)
    rw [← accepted, split, wire_append, List.length_append]
    exact Nat.le_add_right _ _
  · rintro ⟨content, whole⟩
    have positive : 0 < payload.length := List.length_pos_iff.mpr content
    have last := List.mem_of_getLast? (reports_last positive)
    rw [← reported.all nonempty whole] at last
    refine List.mem_map.mpr ⟨_, last, UInt64.toNat_inj.mp ?_⟩
    rw [(reported.toNat_percent fits last).2.2.2, hundred, Nat.mul_comm,
      Nat.mul_div_cancel _ positive]

end Shown

/-- Whatever the sends accept, what is shown to the sender is never divided by zero, never goes
back and never exceeds 100, and 100 is shown exactly if the payload is not empty and the socket has
accepted all of it. -/
theorem shown_truthful (sender : Sender) (network : Network) (header : FileHeader)
    (payload : Bytes) (called : sender.reportsProgress = true)
    (fits : payload.length * 100 < 2 ^ 64) :
    let run := sendPayload sender network header payload
    (∀ sent total, ClientEvent.progress sent total ∈ run.events → UInt64.ofNat total ≠ 0) ∧
      (shown run.events).Pairwise (· ≤ ·) ∧ (∀ percentage ∈ shown run.events, percentage ≤ 100) ∧
      (100 ∈ shown run.events ↔
        payload ≠ [] ∧ wire run.events = serializeFileHeader header ++ payload) := by
  have reported := sendPayload_reported sender network header payload called
  have nonempty : serializeFileHeader header ≠ [] := by
    simp [serializeFileHeader]
  intro run
  refine ⟨fun sent total member zero => ?_, reported.shown_monotone fits,
    fun percentage member => reported.shown_le fits member, reported.hundred_iff nonempty fits⟩
  obtain ⟨same, positive, within, -⟩ := reported.toNat_percent fits (mem_progressOf.mpr member)
  have number := congrArg UInt64.toNat zero
  have size : UInt64.size = 2 ^ 64 := rfl
  dsimp only at same positive within
  rw [UInt64.toNat_ofNat_of_lt' (by omega)] at number
  have none : (0 : UInt64).toNat = 0 := rfl
  omega

/-- A sender with a callback. -/
def reportingSender : Sender :=
  { (Transfer.sample (ascii "a") (ascii "hi") []).sender with reportsProgress := true }

/-- A file of two bytes that arrives. -/
theorem shown_truthful_sample :
    100 ∈ shown (sendPayload reportingSender
      ((Transfer.sample (ascii "a") (ascii "hi") []).network (Link.sample fun _ => 11))
      ⟨ascii "a", 2, false⟩ (ascii "hi")).events :=
  (shown_truthful reportingSender _ _ (ascii "hi") rfl (by decide)).2.2.2.mpr
    ⟨by decide, by decide +kernel⟩

/-! ### Two commands -/

namespace Transfer

variable {transfer : Transfer} {link : Link} {name bytes : Bytes}

/-- The receiver decodes what the sender sends: it is not encrypted, or it is not empty and both
derive the same key. -/
def Opens (transfer : Transfer) (bytes : Bytes) : Prop :=
  transfer.passphrase = [] ∨
    transfer.server.passphrase ≠ [] ∧ bytes ≠ [] ∧
      transfer.host.openssl.pbkdf2 transfer.server.passphrase transfer.sender.random.salt =
        transfer.host.openssl.pbkdf2 transfer.passphrase transfer.sender.random.salt

theorem plaintextOf_sentPayload_iff (works : transfer.host.openssl.Works)
    (small : bytes.length < 2 ^ 31) (oneKey : OpensUnderOneKey transfer bytes) :
    (∃ data, plaintextOf transfer.server transfer.host
      (transfer.header (transfer.sentPayload bytes)) (transfer.sentPayload bytes) =
        .ok (some data)) ↔ transfer.Opens bytes := by
  by_cases unset : transfer.passphrase = []
  · have unencrypted : (transfer.header (transfer.sentPayload bytes)).encrypted = false := by
      show decide (transfer.passphrase ≠ []) = false
      simp [unset]
    exact iff_of_true ⟨_, plaintextOf_unencrypted _ _ unencrypted _⟩ (Or.inl unset)
  · obtain ⟨plaintext, decodes, exactly⟩ := plaintextOf_sentPayload works unset small
    rw [Opens, or_iff_right unset, decodes]
    constructor
    · rintro ⟨data, same⟩
      obtain ⟨set, nonempty, opened⟩ := (exactly data).mp (Except.ok.inj same)
      have sameKey := oneKey unset data opened
      rw [sameKey, Aead.openSealed_sealed, Option.some.injEq] at opened
      exact ⟨set, opened ▸ nonempty, sameKey⟩
    · rintro ⟨set, nonempty, sameKey⟩
      refine ⟨bytes, congrArg Except.ok ((exactly bytes).mpr ⟨set, nonempty, ?_⟩)⟩
      rw [sameKey, Aead.openSealed_sealed]

/-- A transfer of a file with a plain name succeeds exactly if the receiver decodes it, and then
the file is there. -/
theorem succeeds_iff (works : link.Works) (sends : transfer.Sends name bytes)
    (plain : PlainName name) (senderWorks : transfer.sender.openssl.Works)
    (hostWorks : transfer.host.openssl.Works) (storage : transfer.host.storage.Works)
    (small : bytes.length < 2 ^ 31) (oneKey : OpensUnderOneKey transfer bytes)
    (fits : vectorReserve transfer.host.allocates (transfer.sentPayload bytes).length = .ok ()) :
    ((transfer.senderRun link).result = .ok true ↔ transfer.Opens bytes) ∧
      ((transfer.senderRun link).result = .ok true → ∀ files : Files,
        files.after (transfer.serverRun link).events (transfer.server.receivedPath name) =
          some bytes) := by
  obtain rfl := sends.filename
  have responds := works.responds sends.readable
    (payloadOf_eq senderWorks small transfer.filename)
  rw [senderRun_true_iff responds]
  constructor
  · rw [← plaintextOf_sentPayload_iff hostWorks small oneKey]
    constructor
    · rintro ⟨⟨header, rest, data, saves⟩, -⟩
      exact ⟨data, (decodes_of_saves_message plain.noColon (lt_of_vectorReserve fits) saves).2⟩
    · rintro ⟨data, decodes⟩
      exact ⟨⟨_, _, _, saves_message plain.noColon plain.noNewline (lt_of_vectorReserve fits) fits
        decodes storage.created storage.opens (storage.accepts data)⟩, works.unbroken,
        le_trans (by decide) works.oneRecv⟩
  · rintro ⟨⟨header, rest, data, saves⟩, -⟩ files
    obtain ⟨named, rfl⟩ := eq_of_saves hostWorks small oneKey plain.noColon saves
    rw [responds.serverRun_eq, saves.after, named, Function.update_self,
      storage.faithful data saves.accepts]

end Transfer

/-- Two machines on which nothing fails. -/
structure Machines where
  sender : Sender
  host : Host
  sameKdf : host.openssl.pbkdf2 = sender.openssl.pbkdf2
  sameCipher : host.openssl.gcm = sender.openssl.gcm
  senderWorks : sender.openssl.Works
  hostWorks : host.openssl.Works
  storage : host.storage.Works

/-- What a send command on one machine is to a receive command on the other. `cmd_receive` sets the
passphrase of its server unless it is empty, which it is anyway. -/
def Machines.transfer (machines : Machines) (filepath passphrase dir receiverPassphrase : Bytes)
    (noNul : (0 : UInt8) ∉ dir) : Transfer where
  sender := { machines.sender with reportsProgress := true }
  filepath
  passphrase
  server := { receiveDir := dir, passphrase := receiverPassphrase, noNul }
  host := machines.host
  sameKdf := machines.sameKdf
  sameCipher := machines.sameCipher

theorem cmdSend_result_zero_iff (sender : Sender) (network : Network)
    (filepath passphrase : Bytes) :
    (cmdSend sender network filepath passphrase).result = .ok 0 ↔
      (sendFile { sender with reportsProgress := true } network filepath passphrase).result =
        .ok true := by
  cases result : (sendFile { sender with reportsProgress := true } network filepath
      passphrase).result with
  | error reason =>
    rw [cmdSend, Act.result_bind_of_error result]
    exact iff_of_false nofun nofun
  | ok success =>
    rw [cmdSend, Act.result_bind_of_ok result]
    cases success <;> simp

/-- Two commands that are typed with the same text for the port use the same port, whatever number
it is, and throw alike. Between machines on which nothing fails, over a connection that holds, the
send command returns 0 exactly if the receiver decodes the file: if it is sent without a passphrase,
whatever passphrase the receiver has, or if it is not empty and both derive the same key. Then the
file is in the directory of the receiver. -/
theorem commands_deliver_iff (machines : Machines) {name bytes : Bytes}
    (program ip portStr filepath dir : Bytes) (passphrase receiverPassphrase : List Bytes)
    (noNul : (0 : UInt8) ∉ dir) {link : Link} (works : link.Works)
    (path : IsPathOf filepath name) (readable : machines.sender.readable filepath = some bytes)
    (plain : PlainName name) (small : bytes.length < 2 ^ 31) :
    let transfer := machines.transfer filepath (passphrase.headD []) dir
      (receiverPassphrase.headD []) noNul
    ((∃ port, invocation (program :: ascii "send" :: ip :: portStr :: filepath :: passphrase) =
          .ok (.send ip port filepath (passphrase.headD [])) ∧
        invocation (program :: ascii "receive" :: portStr :: dir :: receiverPassphrase) =
          .ok (.receive port dir (receiverPassphrase.headD []))) ∨
      ∃ fault, invocation (program :: ascii "send" :: ip :: portStr :: filepath :: passphrase) =
          .error fault ∧
        invocation (program :: ascii "receive" :: portStr :: dir :: receiverPassphrase) =
          .error fault) ∧
    (Transfer.OpensUnderOneKey transfer bytes →
      vectorReserve machines.host.allocates (transfer.sentPayload bytes).length = .ok () →
      ((cmdSend machines.sender (transfer.network link) filepath (passphrase.headD [])).result =
          .ok 0 ↔ transfer.Opens bytes) ∧
        ((cmdSend machines.sender (transfer.network link) filepath
            (passphrase.headD [])).result = .ok 0 → ∀ files : Files,
          files.after (transfer.serverRun link).events
            (locate (dir ++ pathSeparator :: name)) = some bytes)) := by
  intro transfer
  rw [invocation_send, invocation_receive]
  constructor
  · cases stoi portStr with
    | ok port => exact Or.inl ⟨UInt16.ofInt port, rfl, rfl⟩
    | error fault => exact Or.inr ⟨fault, rfl, rfl⟩
  · intro oneKey fits
    rw [cmdSend_result_zero_iff]
    exact @Transfer.succeeds_iff transfer link name bytes works
      ⟨path, plain.noSeparator, readable⟩ plain machines.senderWorks machines.hostWorks
      machines.storage small oneKey fits

/-- A machine with a file `a` and a machine that receives. -/
def sampleMachines : Machines where
  sender := (Transfer.sample (ascii "a") (ascii "hi") []).sender
  host := (Transfer.sample (ascii "a") (ascii "hi") []).host
  sameKdf := (Transfer.sample (ascii "a") (ascii "hi") []).sameKdf
  sameCipher := (Transfer.sample (ascii "a") (ascii "hi") []).sameCipher
  senderWorks := OpenSsl.keyMarked_works
  hostWorks := OpenSsl.keyMarked_works
  storage := Storage.healthy_works

/-- Without a passphrase, to a receiver that has one. -/
theorem commands_deliver_unencrypted :
    let transfer := sampleMachines.transfer (ascii "a") [] (ascii "./in") (ascii "mypass")
      (by decide)
    (cmdSend sampleMachines.sender (transfer.network (Link.sample fun _ => 11)) (ascii "a")
        []).result = .ok 0 ∧
      Files.after (fun _ => none) (transfer.serverRun (Link.sample fun _ => 11)).events
        (locate (ascii "./in/a")) = some (ascii "hi") := by
  have plain : PlainName (ascii "a") := ⟨by decide, by decide, by decide, by decide, by decide⟩
  obtain ⟨-, delivers⟩ := commands_deliver_iff sampleMachines (ascii "airdrop")
    (ascii "10.0.0.2") (ascii "9090") (ascii "a") (ascii "./in") [] [ascii "mypass"] (by decide)
    Link.sample_works (Or.inl rfl) (Transfer.sample_readable _ _ []) plain (by decide)
  obtain ⟨returns, stored⟩ := delivers (fun set => absurd rfl set) (by decide)
  have zero := returns.mpr (Or.inl rfl)
  exact ⟨zero, stored zero _⟩

end UniversalAirdrop
