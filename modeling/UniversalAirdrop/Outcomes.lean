/-
This file proves how a transfer ends for both sides, whatever the name of the
file. The server reads the header line that it finds, so the name and the content
alone decide whether it rejects the message, throws, or takes it for the
announcement of a file and of so many bytes.

If these are more than what follows, the server waits for them while the sender
waits for the response, and neither gets any further. Otherwise both end. A name
without a colon never makes them wait.
-/

import UniversalAirdrop.Concurrency
import UniversalAirdrop.Delivery

namespace UniversalAirdrop

open Imperative Streams Numeral

/-! ### What a message is read as -/

/-- What the header line of a message is read as, with what follows it. -/
inductive Reading
  | rejected
  | thrown (fault : Fault)
  | announced (header : FileHeader) (rest : Bytes)

/-- The bytes of a message after its name. -/
def afterName (payload : Bytes) : Bytes :=
  fieldDelim :: (decimal (UInt64.ofNat payload.length).toNat ++ headerDelim :: payload)

/-- What the server reads a message as, by the name of the file: with a colon, the name is what
stands before the first one, and the size what stands between it and the next. -/
def readingOf (filename payload : Bytes) (encrypted : Bool) : Reading :=
  match cut fieldDelim filename with
  | none =>
    if headerDelim ∈ filename then .rejected
    else .announced ⟨filename, UInt64.ofNat payload.length, encrypted⟩ payload
  | some (name, more) =>
    if headerDelim ∈ name then .rejected
    else
      match cut headerDelim (more ++ afterName payload) with
      | none => .rejected
      | some (line, rest) =>
        if line = [] then .rejected
        else
          match stoull (line.takeWhile (· ≠ fieldDelim)) with
          | .error fault => .thrown fault
          | .ok size => .announced ⟨name, size, encrypted⟩ rest

/-- The type of a message is read as it was written. -/
theorem encrypted_of_readingOf {filename payload rest : Bytes} {encrypted : Bool}
    {header : FileHeader} (same : readingOf filename payload encrypted = .announced header rest) :
    header.encrypted = encrypted := by
  rw [readingOf] at same
  split at same
  case h_1 =>
    split at same
    case isTrue => cases same
    case isFalse =>
      cases same
      rfl
  case h_2 name more found =>
    split at same
    case isTrue => cases same
    case isFalse =>
      split at same
      case h_1 => cases same
      case h_2 line left cutAt =>
        split at same
        case isTrue => cases same
        case isFalse =>
          split at same
          case h_1 => cases same
          case h_2 =>
            cases same
            rfl

/-- The stream has a header line, and the parser makes of it what the reading says. -/
def ReadsAs (stream : Bytes) : Reading → Prop
  | .rejected => ∃ line rest, cut headerDelim stream = some (line, rest) ∧
      parseFileHeader line = .ok none
  | .thrown fault => ∃ line rest, cut headerDelim stream = some (line, rest) ∧
      parseFileHeader line = .error fault
  | .announced header rest => Announces stream header rest

/-- The beginning of a message up to a colon in its name. -/
def upToColon (type : MsgType) (name : Bytes) : Bytes :=
  magic ++ fieldDelim :: decimal type.code ++ fieldDelim :: (name ++ [fieldDelim])

theorem message_of_colon (name more payload : Bytes) (encrypted : Bool) :
    serializeFileHeader ⟨name ++ fieldDelim :: more, UInt64.ofNat payload.length, encrypted⟩ ++
        payload =
      upToColon (FileHeader.type ⟨name, UInt64.ofNat payload.length, encrypted⟩) name ++
        (more ++ afterName payload) := by
  simp [serializeFileHeader, headerLine, afterName, upToColon, FileHeader.type]

theorem headerDelim_notMem_upToColon (type : MsgType) {name : Bytes}
    (plain : headerDelim ∉ name) : headerDelim ∉ upToColon type name := by
  have inMagic : headerDelim ∉ magic := by decide
  have notDelim : headerDelim ≠ fieldDelim := by decide
  simp [upToColon, inMagic, notDelim, plain, headerDelim_notMem_decimal]

/-- A line that begins with a name and a colon is parsed by what follows these. -/
theorem parseFileHeader_of_colon {name line : Bytes} (header : FileHeader)
    (plain : fieldDelim ∉ name) :
    parseFileHeader (upToColon header.type name ++ line) =
      if line = [] then .ok none
      else (stoull (line.takeWhile (· ≠ fieldDelim))).map fun size =>
        some ⟨name, size, header.encrypted⟩ := by
  have nameRead : getline fieldDelim (name ++ fieldDelim :: line) = some (name, line) :=
    getline_append_delim plain line
  have whole : upToColon header.type name ++ line = magic ++ fieldDelim ::
      decimal header.type.code ++ fieldDelim :: (name ++ fieldDelim :: line) := by
    simp [upToColon]
  rw [whole]
  by_cases empty : line = []
  · rw [if_pos empty]
    rw [empty] at nameRead ⊢
    have missing : fileHeaderFields (magic ++ fieldDelim :: decimal header.type.code ++
        fieldDelim :: (name ++ [fieldDelim])) = none := by
      rw [fileHeaderFields, List.append_assoc, List.cons_append, getline_append_delim notMem_magic]
      simp only [Option.bind_eq_bind, Option.bind_some]
      rw [getline_append_delim (fieldDelim_notMem_decimal _)]
      simp only [Option.bind_some, nameRead]
      rfl
    rw [parseFileHeader, if_pos (by rw [List.append_assoc]; exact List.prefix_append _ _), missing]
  · rw [if_neg empty]
    exact parseFileHeader_append header nameRead (exists_getline empty)

/-- The server reads every message as its name says. -/
theorem readsAs_message (filename payload : Bytes) (encrypted : Bool) :
    ReadsAs (serializeFileHeader ⟨filename, UInt64.ofNat payload.length, encrypted⟩ ++ payload)
      (readingOf filename payload encrypted) := by
  rw [readingOf]
  cases found : cut fieldDelim filename with
  | none =>
    have noColon := cut_eq_none_iff.mp found
    by_cases newline : headerDelim ∈ filename
    · obtain ⟨line, rest, cutAt⟩ : ∃ line rest, cut headerDelim (serializeFileHeader
          ⟨filename, UInt64.ofNat payload.length, encrypted⟩ ++ payload) = some (line, rest) :=
        exists_cut (List.mem_append_left _ (List.mem_append_right _ List.mem_cons_self))
      rw [if_pos newline]
      exact ⟨line, rest, cutAt, parseFileHeader_of_newline noColon newline cutAt⟩
    · rw [if_neg newline]
      exact announces_serializeFileHeader noColon newline payload
  | some pieces =>
    obtain ⟨name, more⟩ := pieces
    obtain ⟨rfl, plain⟩ := eq_of_cut_eq_some found
    rw [message_of_colon]
    dsimp only
    by_cases newline : headerDelim ∈ name
    · -- The line ends inside of the first part of the name.
      obtain ⟨before, after, cutAt⟩ := exists_cut newline
      obtain ⟨rfl, absent⟩ := eq_of_cut_eq_some cutAt
      have plainBefore : fieldDelim ∉ before := fun member =>
        plain (List.mem_append_left _ member)
      have inMagic : headerDelim ∉ magic := by decide
      have notDelim : headerDelim ≠ fieldDelim := by decide
      have absentLine (type : MsgType) : headerDelim ∉
          magic ++ fieldDelim :: decimal type.code ++ fieldDelim :: before := by
        simp [inMagic, notDelim, absent, headerDelim_notMem_decimal]
      have split (type : MsgType) : upToColon type (before ++ headerDelim :: after) ++
          (more ++ afterName payload) = (magic ++ fieldDelim :: decimal type.code ++
            fieldDelim :: before) ++ headerDelim :: (after ++ fieldDelim ::
              (more ++ afterName payload)) := by
        simp [upToColon]
      rw [if_pos newline, split]
      exact ⟨_, _, cut_append_delim (absentLine _) _, parseFileHeader_of_cutName _ plainBefore⟩
    · rw [if_neg newline]
      have cutMessage := cut_append_of_notMem (headerDelim_notMem_upToColon (FileHeader.type
        ⟨name, UInt64.ofNat payload.length, encrypted⟩) newline) (more ++ afterName payload)
      obtain ⟨line, rest, cutAt⟩ : ∃ line rest, cut headerDelim (more ++ afterName payload) =
          some (line, rest) := exists_cut (by simp [afterName])
      rw [cutAt] at cutMessage ⊢
      have parsed := @parseFileHeader_of_colon name line
        ⟨name, UInt64.ofNat payload.length, encrypted⟩ plain
      dsimp only
      by_cases empty : line = []
      · rw [if_pos empty] at parsed ⊢
        exact ⟨_, _, cutMessage, parsed⟩
      · rw [if_neg empty] at parsed ⊢
        cases converts : stoull (line.takeWhile (· ≠ fieldDelim)) with
        | error fault =>
          rw [converts] at parsed
          exact ⟨_, _, cutMessage, parsed⟩
        | ok size =>
          rw [converts] at parsed
          exact ⟨_, cutMessage, parsed⟩

/-! ### The server on what it reads -/

section Server

variable (server : TcpServer) (host : Host) {connection : Connection}

/-- A rejected line leads to nothing but the closing of the socket. -/
theorem handleClient_of_readsRejected (reads : ReadsAs connection.inbound.rest .rejected) :
    handleClient server host connection = Act.emit .close := by
  obtain ⟨line, rest, found, parsed⟩ := reads
  rw [handleClient_eq_serve]
  simp only [serve, found, parsed, call_ok_bind]

/-- Exactly when the handler waits for a peer that keeps the connection open. -/
theorem blocked_iff {reading : Reading} (reads : ReadsAs connection.inbound.rest reading)
    (stays : connection.inbound.ending = .silent) :
    (handleClient server host connection).result = .error .blocked ↔
      ∃ header rest, reading = .announced header rest ∧
        vectorReserve host.allocates header.size.toNat = .ok () ∧
        rest.length < header.size.toNat := by
  cases reading with
  | rejected =>
    rw [handleClient_of_readsRejected server host reads]
    exact iff_of_false nofun fun ⟨_, _, same, _⟩ => nomatch same
  | thrown fault =>
    obtain ⟨line, rest, found, parsed⟩ := reads
    rw [handleClient_of_thrown server host found parsed]
    exact iff_of_false nofun fun ⟨_, _, same, _⟩ => nomatch same
  | announced header rest =>
    have announced : Announces connection.inbound.rest header rest := reads
    cases reserved : vectorReserve host.allocates header.size.toNat with
    | error fault =>
      rw [handleClient_of_unreserved server announced reserved]
      refine iff_of_false nofun ?_
      rintro ⟨header', rest', same, reserved', -⟩
      cases same
      rw [reserved] at reserved'
      cases reserved'
    | ok done =>
      by_cases short : rest.length < header.size.toNat
      · rw [handleClient_of_waiting server announced reserved ⟨short, stays⟩]
        exact iff_of_true rfl ⟨header, rest, rfl, reserved, short⟩
      · rw [handleClient_of_announces server announced ⟨reserved, fun waiting => short waiting.1⟩]
        refine iff_of_false (saveRun_result_ne_blocked server connection) ?_
        rintro ⟨header', rest', same, -, short'⟩
        cases same
        exact short short'

end Server

/-! ### Both sides -/

/-- A connection without errors between two processes that run: the sender keeps it open until it
has its response, and the server keeps it open exactly while it waits for more. -/
structure Link.Live (link : Link) (transfer : Transfer) : Prop where
  works : link.Works
  stays : link.ending = .silent
  closes : link.replyEnding = .silent ↔ (transfer.serverRun link).result = .error .blocked

namespace Transfer

variable {transfer : Transfer} {link : Link} {name bytes payload : Bytes}

/-- What the message is read as that sends a payload under a name. -/
def reading (transfer : Transfer) (name payload : Bytes) : Reading :=
  readingOf name payload (transfer.passphrase ≠ [])

theorem readsAs_reading (payload : Bytes) :
    ReadsAs (transfer.message payload) (transfer.reading transfer.filename payload) :=
  readsAs_message transfer.filename payload (transfer.passphrase ≠ [])

/-- The message announces more bytes than follow its header line, and the server can reserve as
many. -/
def Overstates (transfer : Transfer) (name payload : Bytes) : Prop :=
  ∃ header rest, transfer.reading name payload = .announced header rest ∧
    vectorReserve transfer.host.allocates header.size.toNat = .ok () ∧
    rest.length < header.size.toNat

theorem not_overstates_of_plain (plain : fieldDelim ∉ name) :
    ¬ transfer.Overstates name payload := by
  rintro ⟨header, rest, same, -, short⟩
  rw [reading, readingOf, cut_eq_none_iff.mpr plain] at same
  dsimp only at same
  split at same
  case isTrue => cases same
  case isFalse =>
    cases same
    have atMost : (UInt64.ofNat payload.length).toNat ≤ payload.length := by
      rw [UInt64.toNat_ofNat']
      exact Nat.mod_le _ _
    exact absurd short (Nat.not_lt.mpr atMost)

/-- The sender waits for a response exactly while there is none and the server's end is open. -/
theorem awaitResponse_blocked_iff (reply : Channel UInt8) :
    (awaitResponse reply).result = .error .blocked ↔ reply.rest = [] ∧ reply.ending = .silent := by
  rw [awaitResponse]
  by_cases nothing : reply.rest = []
  · rw [Channel.recv_of_nil nothing, and_iff_right nothing]
    cases reply.ending with
    | silent => exact iff_of_true rfl rfl
    | closed | failed => exact iff_of_false nofun nofun
  · rw [Channel.recv_of_ne_nil nothing]
    exact iff_of_false nofun fun both => nothing both.1

theorem reply_rest (works : link.Works) (accepted : Bytes) :
    (transfer.reply link accepted).rest = (responses
      (handleClient transfer.server transfer.host (link.connection accepted)).events).flatten := by
  rw [reply, works.unbroken]
  rfl

/-- The sender waits for a response exactly while the server waits for more. -/
theorem senderRun_blocked_iff (responds : transfer.Responds link bytes payload)
    (live : link.Live transfer) :
    (transfer.senderRun link).result = .error .blocked ↔
      (transfer.serverRun link).result = .error .blocked := by
  rw [responds.senderRun_result, awaitResponse_blocked_iff, ← live.closes]
  refine and_iff_right_of_imp fun silent => ?_
  have waits := live.closes.mp silent
  rw [responds.serverRun_eq] at waits
  obtain ⟨header, rest, same, reserved, short⟩ := (blocked_iff transfer.server transfer.host
    (transfer.readsAs_reading payload) live.stays).mp waits
  have announced : Announces (transfer.message payload) header rest := by
    have reads := transfer.readsAs_reading payload
    rw [same] at reads
    exact reads
  rw [reply_rest live.works, @handleClient_of_waiting transfer.server transfer.host
    (link.connection (transfer.message payload)) header rest announced reserved
    ⟨short, live.stays⟩]
  rfl

/-- Both sides wait for each other for ever exactly when the message announces more bytes than
follow its header line and the server can reserve as many, and never if there is no colon in the
name. -/
theorem standsOff_iff (sends : transfer.Sends name bytes)
    (responds : transfer.Responds link bytes payload) (live : link.Live transfer) :
    ((transfer.senderRun link).result = .error .blocked ↔ transfer.Overstates name payload) ∧
      ((transfer.serverRun link).result = .error .blocked ↔ transfer.Overstates name payload) ∧
      (fieldDelim ∉ name → ¬ transfer.Overstates name payload) := by
  obtain rfl := sends.filename
  have waits : (transfer.serverRun link).result = .error .blocked ↔
      transfer.Overstates transfer.filename payload := by
    rw [responds.serverRun_eq]
    exact blocked_iff transfer.server transfer.host (transfer.readsAs_reading payload) live.stays
  exact ⟨(senderRun_blocked_iff responds live).trans waits, waits, not_overstates_of_plain⟩

/-- A file named `a:9` with two bytes. -/
def overstating : Transfer := sample (ascii "a:9") (ascii "hi") []

/-- The connection stays open at both ends. -/
def openLink : Link := { Link.sample fun _ => 11 with replyEnding := .silent }

theorem live_openLink : openLink.Live overstating where
  works := ⟨rfl, rfl, rfl, fun _ => ⟨4096, rfl⟩, rfl, le_rfl⟩
  stays := rfl
  closes := iff_of_true rfl (by decide +kernel)

theorem standsOff_overstating :
    ((overstating.senderRun openLink).result = .error .blocked ↔
        overstating.Overstates (ascii "a:9") (ascii "hi")) ∧
      overstating.Overstates (ascii "a:9") (ascii "hi") := by
  have sends : overstating.Sends (ascii "a:9") (ascii "hi") :=
    sample_sends (ascii "hi") [] (by decide)
  have responds : overstating.Responds openLink (ascii "hi") (ascii "hi") :=
    live_openLink.works.responds sends.readable rfl
  obtain ⟨sender, server, -⟩ := standsOff_iff sends responds live_openLink
  exact ⟨sender, server.mp (by decide +kernel)⟩

/-! ### How an unencrypted transfer ends -/

/-- The ways an unencrypted transfer can end: the message is refused, the server's process dies,
both sides wait for each other, the server cannot store the bytes, or some bytes are stored under
some name. -/
inductive Outcome
  | refused
  | died (fault : Fault)
  | standOff
  | unstored
  | stored (name data : Bytes)

/-- How the transfer of a file ends, by its name and its content. -/
def outcome (transfer : Transfer) (name bytes : Bytes) : Outcome :=
  match transfer.reading name bytes with
  | .rejected => .refused
  | .thrown fault => .died fault
  | .announced header rest =>
    let data := rest.take header.size.toNat
    match vectorReserve transfer.host.allocates header.size.toNat with
    | .error fault => .died fault
    | .ok () =>
      if rest.length < header.size.toNat then .standOff
      else if transfer.host.storage.opens && transfer.host.storage.accepts data then
        .stored header.filename data
      else .unstored

/-- The sender's run ends, and not with success. -/
def Fails (transfer : Transfer) (link : Link) : Prop :=
  (transfer.senderRun link).result ≠ .ok true ∧
    (transfer.senderRun link).result ≠ .error .blocked

/-- Both runs end as the outcome says. -/
def EndsAs (transfer : Transfer) (link : Link) : Outcome → Prop
  | .refused => transfer.serverRun link = Act.emit .close ∧ transfer.Fails link
  | .died fault => (transfer.serverRun link).result = .error (.threw fault) ∧
      savedFiles (transfer.serverRun link).events = [] ∧ transfer.Fails link
  | .standOff => (transfer.serverRun link).result = .error .blocked ∧
      savedFiles (transfer.serverRun link).events = [] ∧
      (transfer.senderRun link).result = .error .blocked
  | .unstored => (transfer.serverRun link).result = .ok () ∧
      responses (transfer.serverRun link).events = [respStr .fileErr] ∧ transfer.Fails link
  | .stored name data => (transfer.serverRun link).result = .ok () ∧
      savedFiles (transfer.serverRun link).events = [(transfer.server.receiveDir, name, data)] ∧
      (∀ files : Files, files.after (transfer.serverRun link).events
        (transfer.server.receivedPath name) = some data) ∧
      (transfer.senderRun link).result = .ok true

/-- A sender without an acknowledgement fails when the server does not wait. -/
theorem fails_of_responses (responds : transfer.Responds link bytes payload)
    (live : link.Live transfer)
    (unacked : respStr .fileAck ∉ responses (transfer.serverRun link).events)
    (moves : (transfer.serverRun link).result ≠ .error .blocked) : transfer.Fails link := by
  constructor
  · intro success
    obtain ⟨⟨header, rest, data, saves⟩, -⟩ := (senderRun_true_iff responds).mp success
    rw [responds.serverRun_eq, saves.responses] at unacked
    exact unacked (List.mem_singleton_self _)
  · exact fun blocked => moves ((senderRun_blocked_iff responds live).mp blocked)

/-- Every unencrypted transfer over a connection that holds ends as its name and its content say,
and as the server's storage takes them or not. -/
theorem endsAs_outcome (live : link.Live transfer) (sends : transfer.Sends name bytes)
    (unset : transfer.passphrase = [])
    (created : transfer.host.storage.createDirectories = true)
    (faithful : transfer.host.storage.Faithful) :
    transfer.EndsAs link (transfer.outcome name bytes) := by
  obtain rfl := sends.filename
  have responds : transfer.Responds link bytes bytes :=
    live.works.responds sends.readable (if_pos unset)
  have serverRun := responds.serverRun_eq
  have fails := fails_of_responses responds live
  have reads := transfer.readsAs_reading bytes
  rw [outcome]
  cases same : transfer.reading transfer.filename bytes with
  | rejected =>
    rw [same] at reads
    rw [@handleClient_of_readsRejected transfer.server transfer.host
      (link.connection (transfer.message bytes)) reads] at serverRun
    rw [serverRun] at fails
    exact ⟨serverRun, fails List.not_mem_nil fun same => by cases same⟩
  | thrown fault =>
    rw [same] at reads
    obtain ⟨line, rest, found, parsed⟩ := reads
    rw [@handleClient_of_thrown transfer.server transfer.host
      (link.connection (transfer.message bytes)) line rest fault found parsed] at serverRun
    rw [serverRun] at fails
    exact ⟨by rw [serverRun]; rfl, by rw [serverRun]; rfl,
      fails List.not_mem_nil fun same => by cases same⟩
  | announced header rest =>
    rw [same] at reads
    have announced : Announces (link.connection (transfer.message bytes)).inbound.rest header
        rest := reads
    dsimp only
    cases reserved : vectorReserve transfer.host.allocates header.size.toNat with
    | error fault =>
      rw [handleClient_of_unreserved transfer.server announced reserved] at serverRun
      rw [serverRun] at fails
      exact ⟨by rw [serverRun], by rw [serverRun]; rfl,
        fails List.not_mem_nil fun same => by cases same⟩
    | ok done =>
      dsimp only
      by_cases short : rest.length < header.size.toNat
      · rw [handleClient_of_waiting transfer.server announced reserved ⟨short, live.stays⟩]
          at serverRun
        have blocked : (transfer.serverRun link).result = .error .blocked := by rw [serverRun]
        rw [if_pos short]
        exact ⟨blocked, by rw [serverRun]; rfl,
          (senderRun_blocked_iff responds live).mpr blocked⟩
      · have unencrypted : header.encrypted = false := by
          rw [encrypted_of_readingOf same, unset]
          rfl
        have decodes := plaintextOf_unencrypted transfer.server transfer.host unencrypted
          (rest.take header.size.toNat)
        have arrives : Arrives transfer.host (link.connection (transfer.message bytes)) header
            rest := ⟨reserved, fun waiting => short waiting.1⟩
        rw [if_neg short]
        cases stores : transfer.host.storage.opens &&
            transfer.host.storage.accepts (rest.take header.size.toNat) with
        | true =>
          rw [Bool.and_eq_true] at stores
          have saves : Saves transfer.server transfer.host
              (link.connection (transfer.message bytes)) header rest
              (rest.take header.size.toNat) :=
            ⟨announced, arrives, decodes, created, stores.1, stores.2⟩
          refine ⟨?_, by rw [serverRun, saves.savedFiles], fun files => ?_,
            (senderRun_true_iff responds).mpr ⟨⟨header, rest, _, saves⟩, live.works.unbroken,
              le_trans (by decide) live.works.oneRecv⟩⟩
          · rw [serverRun, saves.result, respond_result]
            exact if_neg (by rw [Link.connection, live.works.unbroken]; exact Bool.false_ne_true)
          · rw [serverRun, saves.after, Function.update_self, faithful _ saves.accepts]
        | false =>
          obtain ⟨events, result⟩ := saveRun_of_written transfer.server
            (link.connection (transfer.message bytes)) decodes created
          rw [← handleClient_of_announces transfer.server announced arrives, ← serverRun, stores]
            at events result
          have answers : responses (transfer.serverRun link).events = [respStr .fileErr] := by
            rw [events]
            show responses (_ ++ _) = _
            rw [responses_append, responses_writeFile, responses_respond, List.nil_append]
            rfl
          have returns : (transfer.serverRun link).result = .ok () := by
            rw [result, respond_result]
            exact if_neg (by rw [Link.connection, live.works.unbroken]; exact Bool.false_ne_true)
          refine ⟨returns, answers, fails ?_ ?_⟩
          · rw [answers, List.mem_singleton]
            exact respStr_fileErr_ne_fileAck.symm
          · rw [returns]
            exact fun same => by cases same

/-- A file named `a:0`, of which nothing is stored under the name `a`. -/
theorem endsAs_outcome_misread :
    (sample (ascii "a:0") (ascii "hi") []).EndsAs (Link.sample fun _ => 11)
      ((sample (ascii "a:0") (ascii "hi") []).outcome (ascii "a:0") (ascii "hi")) := by
  have live : (Link.sample fun _ => 11).Live (sample (ascii "a:0") (ascii "hi") []) :=
    ⟨Link.sample_works, rfl, iff_of_false (by decide) (by decide +kernel)⟩
  exact endsAs_outcome live (sample_sends (ascii "hi") [] (by decide)) rfl rfl
    Storage.healthy_works.faithful

end Transfer

end UniversalAirdrop
