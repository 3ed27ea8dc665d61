/-
This file proves what a peer can do to the server. The bytes of a connection are
the peer's choice, and the handler lets them reach conversions that throw, an
allocation, and a path; a run ends normally exactly when none of these goes
wrong, and it stays inside of the receive directory exactly when the filename of
the header is an ordinary name.
-/

import UniversalAirdrop.Receiving

namespace UniversalAirdrop

open Imperative Streams

/-! ### Runs that end normally -/

/-- The run ends normally, having closed the socket once, and having sent one response if a
header was accepted and none otherwise. -/
structure Survives (connection : Connection) (run : ServerAct Unit) : Prop where
  returns : run.result = .ok ()
  closes : run.events.count .close = 1
  answers : (∃ header rest, Announces connection.inbound.rest header rest) →
    (responses run.events).length = 1
  keepsSilent : (¬ ∃ header rest, Announces connection.inbound.rest header rest) →
    responses run.events = []

/-- The peer asks for nothing that fails after its header was accepted: the declared size can be
reserved, the key can be derived if it is needed and decrypting does not run past the buffers, the
receive directory can be created if something is to be written, and the connection is not broken
by the time of the response. -/
structure Servable (server : TcpServer) (host : Host) (connection : Connection)
    (header : FileHeader) (rest : Bytes) : Prop where
  reserved : vectorReserve host.allocates header.size.toNat = .ok ()
  decrypts : header.encrypted = true → server.passphrase ≠ [] →
    saltLen + aesIvLen ≤ (rest.take header.size.toNat).length →
      host.openssl.succeeds .pbkdf2 = true ∧ ¬ host.openssl.Overruns
        ((rest.take header.size.toNat).length - (saltLen + aesIvLen))
  creates : host.storage.createDirectories = true ∨
    plaintextOf server host header (rest.take header.size.toNat) = .ok none
  unbroken : connection.brokenPipe = false

theorem Servable.decodes {server : TcpServer} {host : Host} {connection : Connection}
    {header : FileHeader} {rest : Bytes}
    (servable : Servable server host connection header rest) :
    ∃ decoded, plaintextOf server host header (rest.take header.size.toNat) = .ok decoded := by
  cases decodes : plaintextOf server host header (rest.take header.size.toNat) with
  | ok decoded => exact ⟨decoded, rfl⟩
  | error reason =>
    obtain ⟨encrypted, set, long, halted⟩ := plaintextOf_eq_error_iff.mp decodes
    obtain ⟨derives, inside⟩ := servable.decrypts encrypted set long
    obtain ⟨-, underived⟩ | ⟨-, overruns⟩ := halted
    · rw [derives] at underived
      cases underived
    · exact absurd overruns inside

theorem count_close_respond {connection : Connection} (unbroken : connection.brokenPipe = false)
    (ok : Bool) : (respond connection ok).events.count .close = 1 := by
  rw [respond_events, unbroken]
  rfl

/-- A response is survived when the connection is not broken. -/
theorem respond_result_ok_iff (connection : Connection) (ok : Bool) :
    (respond connection ok).result = .ok () ↔ connection.brokenPipe = false := by
  rw [respond_result]
  cases connection.brokenPipe <;> simp

/-- A run that saves what was decoded and responds ends normally exactly when the directory is
created, if something is to be written, and the connection is not broken. -/
theorem saveRun_result_ok_iff (server : TcpServer) {host : Host} (connection : Connection)
    {header : FileHeader} {payload : Bytes} {decoded : Option Bytes}
    (decodes : plaintextOf server host header payload = .ok decoded) :
    (saveRun server host connection header payload).result = .ok () ↔
      (host.storage.createDirectories = true ∨ decoded = none) ∧
        connection.brokenPipe = false := by
  cases decoded with
  | none =>
    rw [(saveRun_of_refused server connection decodes).2, respond_result_ok_iff]
    exact (and_iff_right (Or.inr rfl)).symm
  | some data =>
    cases created : host.storage.createDirectories with
    | false =>
      rw [(saveRun_of_uncreated server connection decodes created).2]
      simp
    | true =>
      rw [(saveRun_of_written server connection decodes created).2, respond_result_ok_iff]
      simp

/-- A run that ends normally has responded once and closed the socket once. -/
theorem saveRun_answers (server : TcpServer) {host : Host} (connection : Connection)
    {header : FileHeader} {payload : Bytes}
    (returns : (saveRun server host connection header payload).result = .ok ()) :
    (saveRun server host connection header payload).events.count .close = 1 ∧
      (responses (saveRun server host connection header payload).events).length = 1 := by
  revert returns
  refine saveRun_cases server connection (motive := fun run => run.result = .ok () →
      run.events.count .close = 1 ∧ (responses run.events).length = 1)
    ?halted ?refused ?uncreated ?written
  case halted =>
    intro reason _ returns
    cases returns
  case refused =>
    intro _ returns
    have unbroken := (respond_result_ok_iff connection false).mp returns
    exact ⟨count_close_respond unbroken false,
      congrArg List.length (responses_respond connection false)⟩
  case uncreated =>
    intro data _ _ returns
    cases returns
  case written =>
    intro data _ _ returns
    have unbroken := (respond_result_ok_iff connection
      (host.storage.opens && host.storage.accepts data)).mp returns
    constructor
    · have other : ServerEvent.makeDirectory (cStr server.receiveDir) ≠ .close := nofun
      rw [List.count_cons_of_ne other, List.count_append,
        count_close_respond unbroken,
        List.count_eq_zero.mpr (close_notMem_writeFile _ _ _ _)]
    · show (responses (_ ++ _)).length = 1
      rw [responses_append, responses_writeFile, responses_respond]
      rfl

/-- Exactly when a run under an accepted header ends normally. -/
theorem handleClient_result_ok_iff (server : TcpServer) (host : Host) (connection : Connection)
    {header : FileHeader} {rest : Bytes}
    (announced : Announces connection.inbound.rest header rest)
    (notWaiting : ¬ (rest.length < header.size.toNat ∧ connection.inbound.ending = .silent)) :
    (handleClient server host connection).result = .ok () ↔
      Servable server host connection header rest := by
  cases reserved : vectorReserve host.allocates header.size.toNat with
  | error fault =>
    rw [handleClient_of_unreserved server announced reserved]
    refine iff_of_false nofun fun servable => ?_
    rw [servable.reserved] at reserved
    cases reserved
  | ok done =>
    rw [handleClient_of_announces server announced ⟨reserved, notWaiting⟩]
    cases decodes : plaintextOf server host header (rest.take header.size.toNat) with
    | error reason =>
      rw [(saveRun_of_error server connection decodes).2]
      refine iff_of_false nofun fun servable => ?_
      obtain ⟨decoded, decoding⟩ := servable.decodes
      rw [decoding] at decodes
      cases decodes
    | ok decoded =>
      rw [saveRun_result_ok_iff server connection decodes]
      constructor
      · rintro ⟨created, unbroken⟩
        refine ⟨reserved, fun encrypted set long => ⟨?_, fun overruns => ?_⟩, ?_, unbroken⟩
        · by_contra underived
          have throws := plaintextOf_eq_error_iff.mpr
            ⟨encrypted, set, long, Or.inl ⟨rfl, Bool.eq_false_iff.mpr underived⟩⟩
          rw [decodes] at throws
          cases throws
        · have killed := plaintextOf_eq_error_iff.mpr
            ⟨encrypted, set, long, Or.inr ⟨rfl, overruns⟩⟩
          rw [decodes] at killed
          cases killed
        · rcases created with created | rfl
          · exact Or.inl created
          · exact Or.inr decodes
      · intro servable
        refine ⟨servable.creates.imp_right fun refused => ?_, servable.unbroken⟩
        exact Except.ok.inj (decodes.symm.trans refused)

/-- The line before the first newline, if there is one, is one that the parser does not throw
on, and if it is accepted the run after it can be served. -/
def Survivable (server : TcpServer) (host : Host) (connection : Connection) : Prop :=
  ∀ line rest, cut headerDelim connection.inbound.rest = some (line, rest) →
    (∀ fault, parseFileHeader line ≠ .error fault) ∧
      ∀ header, parseFileHeader line = .ok (some header) →
        Servable server host connection header rest

/-- Under an accepted header the run has to be served. -/
theorem survivable_iff_of_announces {server : TcpServer} {host : Host} {connection : Connection}
    {header : FileHeader} {rest : Bytes}
    (announced : Announces connection.inbound.rest header rest) :
    Survivable server host connection ↔ Servable server host connection header rest := by
  obtain ⟨line, found, parsed⟩ := announced
  constructor
  · intro survivable
    exact (survivable line rest found).2 header parsed
  · intro servable line' rest' cuts
    rw [found, Option.some.injEq, Prod.mk.injEq] at cuts
    obtain ⟨rfl, rfl⟩ := cuts
    rw [parsed]
    refine ⟨fun fault thrown => ?_, fun header' accepted => ?_⟩
    · cases thrown
    · cases accepted
      exact servable

/-- A run that can be served ends normally with the socket closed and the response sent. -/
theorem Servable.survives {server : TcpServer} {host : Host} {connection : Connection}
    {header : FileHeader} {rest : Bytes}
    (servable : Servable server host connection header rest)
    (announced : Announces connection.inbound.rest header rest)
    (ends : connection.inbound.ending ≠ .silent) :
    Survives connection (handleClient server host connection) := by
  have returns :=
    (handleClient_result_ok_iff server host connection announced
      fun waiting => ends waiting.2).mpr servable
  have run := handleClient_of_announces server announced
    ⟨servable.reserved, fun waiting => ends waiting.2⟩
  rw [run] at returns
  obtain ⟨closes, answers⟩ := saveRun_answers server connection returns
  rw [run]
  exact ⟨returns, closes, fun _ => answers, fun refused =>
    absurd ⟨header, rest, announced⟩ refused⟩

/-- Exactly when a run ends normally with the socket closed and the response sent: on every
stream that ends, however it is segmented. -/
theorem handleClient_survives_iff (server : TcpServer) (host : Host) (connection : Connection)
    (ends : connection.inbound.ending ≠ .silent) :
    Survives connection (handleClient server host connection) ↔
      Survivable server host connection := by
  by_cases accepted : ∃ header rest, Announces connection.inbound.rest header rest
  · obtain ⟨header, rest, announced⟩ := accepted
    rw [survivable_iff_of_announces announced]
    exact ⟨fun survives => (handleClient_result_ok_iff server host connection announced
      fun waiting => ends waiting.2).mp survives.returns,
      fun servable => servable.survives announced ends⟩
  · by_cases throws : ∃ line rest fault,
        cut headerDelim connection.inbound.rest = some (line, rest) ∧
          parseFileHeader line = .error fault
    · obtain ⟨line, rest, fault, found, thrown⟩ := throws
      refine iff_of_false (fun survives => ?_) fun survivable =>
        (survivable line rest found).1 fault thrown
      have returns := survives.returns
      rw [handleClient_of_thrown server host found thrown] at returns
      cases returns
    · have rejected (line rest : Bytes)
          (found : cut headerDelim connection.inbound.rest = some (line, rest)) :
          parseFileHeader line = .ok none := by
        cases parsed : parseFileHeader line with
        | error fault => exact absurd ⟨line, rest, fault, found, parsed⟩ throws
        | ok header =>
          cases header with
          | none => rfl
          | some header => exact absurd ⟨header, rest, line, found, parsed⟩ accepted
      rw [handleClient_of_rejected server host ends rejected]
      refine iff_of_true ⟨rfl, rfl, fun announced => absurd announced accepted, fun _ => rfl⟩ ?_
      intro line rest found
      rw [rejected line rest found]
      refine ⟨fun fault thrown => ?_, fun header parsed => ?_⟩
      · cases thrown
      · cases parsed

theorem closedAfter_ends (stream : Bytes) : (closedAfter stream).inbound.ending ≠ .silent := by
  show Ending.closed ≠ Ending.silent
  decide

/-- A type field that is not a number: the conversion throws, and the process ends. -/
theorem handleClient_notNumeric :
    (handleClient sampleServer Host.healthy (closedAfter (ascii "UAIRDROP:x:a:1\n"))).result =
        .error (.threw .invalidArgument) ∧
      ¬ Survives (closedAfter (ascii "UAIRDROP:x:a:1\n"))
        (handleClient sampleServer Host.healthy (closedAfter (ascii "UAIRDROP:x:a:1\n"))) := by
  have thrown : (handleClient sampleServer Host.healthy
      (closedAfter (ascii "UAIRDROP:x:a:1\n"))).result = .error (.threw .invalidArgument) := by
    decide +kernel
  refine ⟨thrown, fun survives => ?_⟩
  rw [survives.returns] at thrown
  cases thrown

/-- A well-formed transfer of one byte ends normally. -/
theorem handleClient_survives_oneByte :
    Survives (closedAfter (ascii "UAIRDROP:2:a:1\nh"))
      (handleClient sampleServer Host.healthy (closedAfter (ascii "UAIRDROP:2:a:1\nh"))) := by
  refine (handleClient_survives_iff sampleServer Host.healthy _ (closedAfter_ends _)).mpr ?_
  intro line rest cuts
  have found : cut headerDelim (ascii "UAIRDROP:2:a:1\nh") =
      some (ascii "UAIRDROP:2:a:1", ascii "h") := by decide +kernel
  have parsed : parseFileHeader (ascii "UAIRDROP:2:a:1") = .ok (some ⟨ascii "a", 1, false⟩) := by
    decide +kernel
  obtain ⟨rfl, rfl⟩ := Prod.mk.inj (Option.some.inj (found.symm.trans cuts))
  rw [parsed]
  refine ⟨nofun, fun header accepted => ?_⟩
  cases accepted
  exact ⟨by decide, nofun, Or.inl rfl, rfl⟩

/-! ### The paths that are opened -/

/-- The path conventions of the receiving host. -/
inductive Platform
  | posix
  | windows
  deriving DecidableEq, Repr

/-- The bytes that separate the components of a path. -/
def Platform.separators : Platform → Bytes
  | .posix => ascii "/"
  | .windows => ascii "/\\"

/-- A name that is one component of a path and names an entry of its directory. -/
structure OrdinaryName (platform : Platform) (name : Bytes) : Prop where
  nonempty : name ≠ []
  oneComponent : ∀ byte ∈ platform.separators, byte ∉ name
  notDot : name ≠ ascii "."
  notDotDot : name ≠ ascii ".."
  noNul : (0 : UInt8) ∉ name

theorem Platform.pathSeparator_mem (platform : Platform) :
    pathSeparator ∈ platform.separators := by
  cases platform <;> decide

/-- An ordinary name is an entry of its directory. -/
theorem OrdinaryName.entry {platform : Platform} {name : Bytes}
    (ordinary : OrdinaryName platform name) : pathStyle.Entry name where
  nonempty := ordinary.nonempty
  oneName := ordinary.oneComponent pathSeparator platform.pathSeparator_mem
  notSelf := ordinary.notDot
  notParent := ordinary.notDotDot

/-- Every path that is opened for writing is the receive directory followed by an ordinary
name. -/
def StaysInside (platform : Platform) (server : TcpServer) (events : List ServerEvent) : Prop :=
  ∀ path opened, .openForWriting path opened ∈ events →
    ∃ name, OrdinaryName platform name ∧ path = server.receiveDir ++ pathSeparator :: name

theorem openForWriting_notMem_respond {connection : Connection} {ok : Bool} {path : Bytes}
    {opened : Bool} : .openForWriting path opened ∉ (respond connection ok).events := by
  rw [respond_events]
  cases connection.brokenPipe <;> simp

/-- A run that saves a payload opens one path, if something is handed to write-file. -/
theorem openForWriting_mem_saveRun {server : TcpServer} {host : Host} {connection : Connection}
    {header : FileHeader} {payload path : Bytes} {opened : Bool} :
    .openForWriting path opened ∈ (saveRun server host connection header payload).events ↔
      (∃ data, plaintextOf server host header payload = .ok (some data)) ∧
        host.storage.createDirectories = true ∧ opened = host.storage.opens ∧
        path = server.receiveDir ++ pathSeparator :: header.filename := by
  refine saveRun_cases server connection (motive := fun run =>
    .openForWriting path opened ∈ run.events ↔
      (∃ data, plaintextOf server host header payload = .ok (some data)) ∧
        host.storage.createDirectories = true ∧ opened = host.storage.opens ∧
        path = server.receiveDir ++ pathSeparator :: header.filename)
    ?halted ?refused ?uncreated ?written
  case halted =>
    intro reason decodes
    simp [decodes]
  case refused =>
    intro decodes
    simp [decodes, openForWriting_notMem_respond]
  case uncreated =>
    intro data decodes created
    simp [decodes, openForWriting_mem_writeFile, created]
  case written =>
    intro data decodes created
    simp [decodes, openForWriting_mem_writeFile, openForWriting_notMem_respond, created]

/-- What a run opens: under an accepted header whose payload arrives and hands something to
write-file, the receive directory followed by the header's filename, and nothing otherwise. -/
theorem openForWriting_mem_handleClient {server : TcpServer} {host : Host}
    {connection : Connection} {path : Bytes} {opened : Bool} :
    .openForWriting path opened ∈ (handleClient server host connection).events ↔
      ∃ header rest, Announces connection.inbound.rest header rest ∧
        Arrives host connection header rest ∧
        (∃ data, plaintextOf server host header (rest.take header.size.toNat) =
          .ok (some data)) ∧
        host.storage.createDirectories = true ∧ opened = host.storage.opens ∧
        path = server.receiveDir ++ pathSeparator :: header.filename := by
  constructor
  · intro member
    obtain closes | makes | ⟨header, rest, announced, arrives, member⟩ :=
      mem_handleClient_cases member
    · cases closes
    · cases makes
    · exact ⟨header, rest, announced, arrives, openForWriting_mem_saveRun.mp member⟩
  · rintro ⟨header, rest, announced, arrives, opens⟩
    rw [handleClient_of_announces server announced arrives, openForWriting_mem_saveRun]
    exact opens

/-- Exactly when a run stays inside of the receive directory. -/
theorem handleClient_staysInside_iff (platform : Platform) (server : TcpServer) (host : Host)
    (connection : Connection) :
    StaysInside platform server (handleClient server host connection).events ↔
      ∀ header rest data, Announces connection.inbound.rest header rest →
        Arrives host connection header rest →
        plaintextOf server host header (rest.take header.size.toNat) = .ok (some data) →
        host.storage.createDirectories = true → OrdinaryName platform header.filename := by
  constructor
  · intro inside header rest data announced arrives decodes created
    have opens := openForWriting_mem_handleClient.mpr
      ⟨header, rest, announced, arrives, ⟨data, decodes⟩, created, rfl, rfl⟩
    obtain ⟨name, ordinary, same⟩ := inside _ _ opens
    rw [List.append_cancel_left_eq, List.cons.injEq] at same
    rw [same.2]
    exact ordinary
  · intro ordinary path opened opens
    obtain ⟨header, rest, announced, arrives, ⟨data, decodes⟩, created, -, rfl⟩ :=
      openForWriting_mem_handleClient.mp opens
    exact ⟨header.filename, ordinary header rest data announced arrives decodes created, rfl⟩

/-- A filename that leads out of the receive directory is opened there. -/
theorem handleClient_escapes :
    .openForWriting (ascii "./received/../x") true ∈
        (handleClient sampleServer Host.healthy
          (closedAfter (ascii "UAIRDROP:2:../x:1\nh"))).events ∧
      ¬ StaysInside .posix sampleServer
        (handleClient sampleServer Host.healthy
          (closedAfter (ascii "UAIRDROP:2:../x:1\nh"))).events := by
  have opens : .openForWriting (ascii "./received/../x") true ∈
      (handleClient sampleServer Host.healthy
        (closedAfter (ascii "UAIRDROP:2:../x:1\nh"))).events := by decide +kernel
  refine ⟨opens, fun inside => ?_⟩
  obtain ⟨name, ordinary, same⟩ := inside _ _ opens
  have named : ascii "./received/../x" =
      sampleServer.receiveDir ++ pathSeparator :: ascii "../x" := by decide +kernel
  rw [named, List.append_cancel_left_eq, List.cons.injEq] at same
  have separator : (47 : UInt8) ∉ name := ordinary.oneComponent 47 (by decide)
  rw [← same.2] at separator
  exact separator (by decide)

end UniversalAirdrop
