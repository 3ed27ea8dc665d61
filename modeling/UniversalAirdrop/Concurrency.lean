/-
This file models the connections that one running server handles at the same
time. `accept_loop` gives each of them to a detached thread of its own that runs
`handle_client`; the threads share the files and the process, and nothing else.

A step is a call that shows outside of the thread. What a thread reads from its
own connection does not show, and which calls it makes depends on its own
connection and on what its own calls return.
-/

import UniversalAirdrop.Library.Threads
import UniversalAirdrop.Robustness

namespace UniversalAirdrop

open Imperative Streams Threads

/-! ### The file a call works on -/

/-- The place whose content a call changes. -/
def ServerEvent.target : ServerEvent → Option Location
  | .openForWriting path true => some (locate path)
  | .write path _ _ => some (locate path)
  | _ => none

/-- What a call does to the content of the file it works on. -/
def ServerEvent.rewrite (content : Option Bytes) : ServerEvent → Option Bytes
  | .openForWriting _ true => some []
  | .write _ offset bytes => content.map (writeAt · offset bytes)
  | _ => content

/-- The content of a place after some calls is what the calls on that place make of it. -/
theorem Files.after_apply (files : Files) (events : List ServerEvent) (place : Location) :
    files.after events place =
      (events.filter (·.target = some place)).foldl ServerEvent.rewrite (files place) := by
  refine @view_foldl ServerEvent Files (Option Bytes) Files.apply (fun files => files place)
    ServerEvent.rewrite (fun event => event.target = some place) (fun files event here => ?_)
    (fun files event elsewhere => ?_) events files
  · rw [decide_eq_true_iff] at here
    cases event with
    | openForWriting opened succeeded =>
      cases succeeded with
      | false => cases here
      | true =>
        cases here
        exact Function.update_self _ _ _
    | write written offset bytes =>
      cases here
      exact Function.update_self _ _ _
    | _ => cases here
  · rw [decide_eq_false_iff_not] at elsewhere
    cases event with
    | openForWriting opened succeeded =>
      cases succeeded with
      | false => rfl
      | true => exact Function.update_of_ne (fun same => elsewhere (congrArg some same.symm)) _ _
    | write written offset bytes =>
      exact Function.update_of_ne (fun same => elsewhere (congrArg some same.symm)) _ _
    | _ => rfl

/-- Calls on other files leave a file as it is. -/
theorem Files.after_of_foreign (files : Files) {events : List ServerEvent} {place : Location}
    (foreign : ∀ event ∈ events, event.target ≠ some place) :
    files.after events place = files place := by
  have none : events.filter (·.target = some place) = [] := by
    rw [List.filter_eq_nil_iff]
    intro event member here
    exact foreign event member (decide_eq_true_iff.mp here)
  rw [Files.after_apply, none, List.foldl_nil]

/-- The calls of all threads in the order they were made. -/
def calls {Thread : Type} (trace : List (Thread × ServerEvent)) : List ServerEvent :=
  trace.map Prod.snd

/-- A file that one thread works on is what that thread makes of it. -/
theorem Files.after_calls_of_owned {Thread : Type} [DecidableEq Thread]
    {trace : List (Thread × ServerEvent)} {place : Location} {owner : Thread}
    (owned : ∀ thread event, (thread, event) ∈ trace → event.target = some place →
      thread = owner)
    (files : Files) :
    files.after (calls trace) place = files.after (ofThread owner trace) place := by
  rw [Files.after_apply, Files.after_apply, calls,
    filter_map_snd fun thread event member here =>
      owned thread event member (decide_eq_true_iff.mp here)]

/-- The run opens its file: the stream announces one, the payload arrives and is decoded, and the
directory is created. -/
structure OpensFile (server : TcpServer) (host : Host) (connection : Connection)
    (header : FileHeader) (rest data : Bytes) : Prop where
  announced : Announces connection.inbound.rest header rest
  arrives : Arrives host connection header rest
  decodes : plaintextOf server host header (rest.take header.size.toNat) = .ok (some data)
  created : host.storage.createDirectories = true
  opens : host.storage.opens = true

theorem target_writes {storage : Storage} {path data : Bytes} {event : ServerEvent}
    (member : event ∈ storage.writes path data) : event.target = some (locate path) := by
  obtain ⟨offset, bytes, -, rfl⟩ := Storage.mem_writes member
  rfl

theorem target_respond {connection : Connection} {ok : Bool} {event : ServerEvent}
    (member : event ∈ (respond connection ok).events) : event.target = none := by
  rw [respond_events] at member
  cases broken : connection.brokenPipe with
  | true =>
    rw [broken] at member
    obtain rfl := List.mem_singleton.mp member
    rfl
  | false =>
    rw [broken] at member
    obtain rfl | rfl := List.mem_pair.mp member <;> rfl

/-- The calls of write-file that work on a file do so on the one it has opened. -/
theorem of_target_writeFile {storage : Storage} {dir filename data : Bytes} {place : Location}
    {event : ServerEvent} (member : event ∈ (writeFile storage dir filename data).events)
    (here : event.target = some place) :
    storage.createDirectories = true ∧ storage.opens = true ∧
      place = locate (dir ++ pathSeparator :: filename) := by
  rw [writeFile_eq] at member
  obtain rfl | member := List.mem_cons.mp member
  · cases here
  obtain rfl | member := List.mem_cons.mp member
  · cases here
  split at member
  case isFalse => cases member
  case isTrue created =>
    obtain rfl | member := List.mem_cons.mp member
    · cases opens : storage.opens with
      | false =>
        rw [opens] at here
        cases here
      | true =>
        rw [opens] at here
        exact ⟨created, rfl, (Option.some.inj here).symm⟩
    · split at member
      case isFalse => cases member
      case isTrue opens =>
        rw [target_writes member] at here
        exact ⟨created, opens, (Option.some.inj here).symm⟩

section Runs

variable {server : TcpServer} {host : Host} {connection : Connection}

/-- The calls of a run before it opens its file. -/
def prepare (server : TcpServer) (header : FileHeader) (data : Bytes) : List ServerEvent :=
  [.makeDirectory (cStr server.receiveDir), .writeFile server.receiveDir header.filename data,
    .createDirectories server.receiveDir]

/-- The path a run opens. -/
def openedPath (server : TcpServer) (header : FileHeader) : Bytes :=
  server.receiveDir ++ pathSeparator :: header.filename

/-- The calls of a run that opens its file. -/
theorem OpensFile.events {header : FileHeader} {rest data : Bytes}
    (opensFile : OpensFile server host connection header rest data) :
    (handleClient server host connection).events =
      prepare server header data ++ .openForWriting (openedPath server header) true ::
        (host.storage.writes (openedPath server header) data ++
          (respond connection (host.storage.accepts data)).events) := by
  rw [handleClient_of_announces server opensFile.announced opensFile.arrives,
    (saveRun_of_written server connection opensFile.decodes opensFile.created).1, writeFile_eq,
    opensFile.created, opensFile.opens]
  rfl

/-- The calls on a file of a run that saves are those of write-file. -/
theorem of_target_saveRun {header : FileHeader} {payload : Bytes} {place : Location}
    {event : ServerEvent}
    (member : event ∈ (saveRun server host connection header payload).events)
    (here : event.target = some place) :
    ∃ data, plaintextOf server host header payload = .ok (some data) ∧
      host.storage.createDirectories = true ∧ host.storage.opens = true ∧
      place = server.receivedPath header.filename := by
  have notMaking : event ≠ .makeDirectory (cStr server.receiveDir) := by
    rintro rfl
    cases here
  have notResponding {ok : Bool} : event ∉ (respond connection ok).events := by
    intro responds
    rw [target_respond responds] at here
    cases here
  revert member
  refine saveRun_cases server connection (motive := fun run => event ∈ run.events → _)
    ?halted ?refused ?uncreated ?written
  case halted => exact fun reason _ member => absurd (List.mem_singleton.mp member) notMaking
  case refused =>
    exact fun _ member => absurd (List.mem_of_ne_of_mem notMaking member) notResponding
  case uncreated =>
    exact fun data decodes _ member =>
      ⟨data, decodes, of_target_writeFile (List.mem_of_ne_of_mem notMaking member) here⟩
  case written =>
    intro data decodes _ member
    have written := (List.mem_append.mp (List.mem_of_ne_of_mem notMaking member)).resolve_right
      notResponding
    exact ⟨data, decodes, of_target_writeFile written here⟩

/-- A call on a file is the opening of the run's own file or a write to it. -/
theorem opensFile_of_target {event : ServerEvent} {place : Location}
    (member : event ∈ (handleClient server host connection).events)
    (here : event.target = some place) :
    ∃ header rest data, OpensFile server host connection header rest data ∧
      place = server.receivedPath header.filename := by
  obtain rfl | rfl | ⟨header, rest, announced, arrives, member⟩ := mem_handleClient_cases member
  · cases here
  · cases here
  · obtain ⟨data, decodes, created, opens, same⟩ := of_target_saveRun member here
    exact ⟨header, rest, data, ⟨announced, arrives, decodes, created, opens⟩, same⟩

/-- The peer announces a file that leads to the place. -/
def Connection.SendsTo (connection : Connection) (server : TcpServer) (place : Location) :
    Prop :=
  ∃ header rest, Announces connection.inbound.rest header rest ∧
    server.receivedPath header.filename = place

/-- A run works on the file that its peer announces. -/
theorem sendsTo_of_target {event : ServerEvent} {place : Location}
    (member : event ∈ (handleClient server host connection).events)
    (here : event.target = some place) : connection.SendsTo server place := by
  obtain ⟨header, rest, data, opensFile, same⟩ := opensFile_of_target member here
  exact ⟨header, rest, opensFile.announced, same.symm⟩

end Runs

/-! ### The connections of one server -/

/-- The connections a running server has accepted, each with the outcomes its own calls will
have. -/
structure Family (Thread : Type) where
  server : TcpServer
  host : Thread → Host
  connection : Thread → Connection

/-- The run of each detached thread. -/
def Family.runs {Thread : Type} (family : Family Thread) (thread : Thread) : ServerAct Unit :=
  handleClient family.server (family.host thread) (family.connection thread)

/-- An exception leaves the thread function, which terminates the process, and a signal kills it.
A thread that waits harms nobody. -/
def Halt.fatal : Halt → Bool
  | .threw _ => true
  | .blocked => false
  | .killed => true

/-! ### Runs that do not end the process -/

/-- The peer asks for nothing that ends the process: its run can be served, or it waits for bytes
that do not come. -/
def Peaceful (server : TcpServer) (host : Host) (connection : Connection) (header : FileHeader)
    (rest : Bytes) : Prop :=
  Servable server host connection header rest ∨
    (vectorReserve host.allocates header.size.toNat = .ok () ∧
      rest.length < header.size.toNat ∧ connection.inbound.ending = .silent)

/-- A run that saves and responds does not wait. -/
theorem saveRun_result_ne_blocked (server : TcpServer) {host : Host} (connection : Connection)
    {header : FileHeader} {payload : Bytes} :
    (saveRun server host connection header payload).result ≠ .error .blocked := by
  have responded (ok : Bool) : (respond connection ok).result ≠ .error .blocked := by
    rw [respond_result]
    cases connection.brokenPipe <;> simp
  refine saveRun_cases server connection (motive := fun run => run.result ≠ .error .blocked)
    ?halted ?refused ?uncreated ?written
  case halted =>
    rintro reason halted ⟨⟩
    obtain ⟨-, -, -, ⟨same, -⟩ | ⟨same, -⟩⟩ := plaintextOf_eq_error_iff.mp halted <;> cases same
  case refused => exact fun _ => responded false
  case uncreated => exact fun data _ _ => by simp
  case written =>
    exact fun data _ _ => responded (host.storage.opens && host.storage.accepts data)

/-- Exactly when a run under an accepted header leaves the process alone. -/
theorem peaceful_iff (server : TcpServer) (host : Host) (connection : Connection)
    {header : FileHeader} {rest : Bytes}
    (announced : Announces connection.inbound.rest header rest) :
    (∀ reason, (handleClient server host connection).result = .error reason →
      reason.fatal = false) ↔ Peaceful server host connection header rest := by
  cases reserved : vectorReserve host.allocates header.size.toNat with
  | error fault =>
    rw [handleClient_of_unreserved server announced reserved]
    refine iff_of_false (fun harmless => ?_) ?_
    · cases harmless _ rfl
    · rintro (servable | waiting)
      · rw [servable.reserved] at reserved
        cases reserved
      · rw [waiting.1] at reserved
        cases reserved
  | ok done =>
    by_cases waiting : rest.length < header.size.toNat ∧ connection.inbound.ending = .silent
    · rw [handleClient_of_waiting server announced reserved waiting]
      refine iff_of_true (fun reason halted => ?_) (Or.inr ⟨reserved, waiting⟩)
      cases halted
      rfl
    · rw [Peaceful, or_iff_left fun peaceful => waiting peaceful.2,
        ← handleClient_result_ok_iff server host connection announced waiting,
        handleClient_of_announces server announced ⟨reserved, waiting⟩]
      have moves := @saveRun_result_ne_blocked server host connection header
        (rest.take header.size.toNat)
      cases result : (saveRun server host connection header
          (rest.take header.size.toNat)).result with
      | ok value => simp
      | error reason =>
        rw [result] at moves
        refine iff_of_false (fun harmless => ?_) (by simp)
        cases reason with
        | blocked => exact moves rfl
        | threw fault => cases harmless _ rfl
        | killed => cases harmless _ rfl

/-! ### Connections with different names -/

section Isolation

variable {Thread : Type} [DecidableEq Thread]

/-- Some call has made a directory. To make it again changes nothing. -/
def DirectoryMade (path : Bytes) (events : List ServerEvent) : Prop :=
  .makeDirectory path ∈ events ∨ .createDirectories path ∈ events

/-- However the runs of a family are interleaved, the files, the directories and the responses are
in the end what they are when the connections are handled one after another, in any order. -/
def Family.Isolated (family : Family Thread) : Prop :=
  ∀ process order, Reachable family.runs Halt.fatal process →
    Finished family.runs Halt.fatal process → order.Nodup → (∀ thread, thread ∈ order) →
    (∀ files : Files, files.after (calls process.trace) =
      files.after (calls (serial family.runs Halt.fatal order))) ∧
    (∀ path, DirectoryMade path (calls process.trace) ↔
      DirectoryMade path (calls (serial family.runs Halt.fatal order))) ∧
    ∀ thread, responses (ofThread thread process.trace) =
      responses (ofThread thread (serial family.runs Halt.fatal order))

/-- Every stream of a family announces a file of an ordinary name, and no two the same. The file
system compares names by their folds, such as without regard to the case of letters. -/
structure Family.Announced (family : Family Thread) (platform : Platform)
    (fold : Bytes → Bytes) (header : Thread → FileHeader) (rest : Thread → Bytes) : Prop where
  announces : ∀ thread,
    Announces (family.connection thread).inbound.rest (header thread) (rest thread)
  ordinary : ∀ thread, OrdinaryName platform (header thread).filename
  distinct : ∀ first second, fold (header first).filename = fold (header second).filename →
    first = second

variable {family : Family Thread} {platform : Platform} {fold : Bytes → Bytes}
  {header : Thread → FileHeader} {rest : Thread → Bytes}

omit [DecidableEq Thread] in
/-- A call on a file belongs to the thread whose connection announces it. -/
theorem Family.Announced.owner (announced : family.Announced platform fold header rest)
    {first second : Thread} {event : ServerEvent} (member : event ∈ (family.runs second).events)
    (here : event.target = some (family.server.receivedPath (header first).filename)) :
    second = first := by
  obtain ⟨read, left, data, opensFile, same⟩ := opensFile_of_target member here
  obtain ⟨rfl, -⟩ := opensFile.announced.unique (announced.announces second)
  have named := (family.server.receivedPath_inj (announced.ordinary first).entry
    (announced.ordinary first).noNul (announced.ordinary second).entry
    (announced.ordinary second).noNul).mp same
  exact announced.distinct _ _ (congrArg fold named.symm)

/-- A call was made when some thread has made it. -/
theorem mem_calls {trace : List (Thread × ServerEvent)} {event : ServerEvent} :
    event ∈ calls trace ↔ ∃ thread, event ∈ ofThread thread trace := by
  simp [calls, mem_ofThread]

/-- Which calls were made depends on what each thread has done alone. -/
theorem mem_calls_iff {first second : List (Thread × ServerEvent)}
    (same : ∀ thread, ofThread thread first = ofThread thread second) (event : ServerEvent) :
    event ∈ calls first ↔ event ∈ calls second := by
  simp only [mem_calls, same]

/-- What the files are in the end depends on what each thread has done alone. -/
theorem Family.Announced.after_calls (announced : family.Announced platform fold header rest)
    {first second : List (Thread × ServerEvent)}
    (same : ∀ thread, ofThread thread first = ofThread thread second)
    (within : ∀ thread, ∀ event ∈ ofThread thread first, event ∈ (family.runs thread).events)
    (files : Files) : files.after (calls first) = files.after (calls second) := by
  have withinSecond (thread : Thread) (event : ServerEvent)
      (member : event ∈ ofThread thread second) : event ∈ (family.runs thread).events :=
    within thread event ((same thread).symm ▸ member)
  funext place
  by_cases owned : ∃ owner, place = family.server.receivedPath (header owner).filename
  · obtain ⟨owner, rfl⟩ := owned
    rw [@Files.after_calls_of_owned _ _ _ _ owner, @Files.after_calls_of_owned _ _ _ _ owner,
      same owner]
    · exact fun thread event member here =>
        announced.owner (withinSecond thread event (mem_ofThread.mpr member)) here
    · exact fun thread event member here =>
        announced.owner (within thread event (mem_ofThread.mpr member)) here
  · have unowned {thread : Thread} {event : ServerEvent}
        (member : event ∈ (family.runs thread).events) : event.target ≠ some place := by
      intro here
      obtain ⟨read, left, data, opensFile, same⟩ := opensFile_of_target member here
      obtain ⟨rfl, -⟩ := opensFile.announced.unique (announced.announces thread)
      exact owned ⟨thread, same⟩
    rw [Files.after_of_foreign, Files.after_of_foreign]
    · intro event member
      obtain ⟨thread, performed⟩ := mem_calls.mp member
      exact unowned (withinSecond thread event performed)
    · intro event member
      obtain ⟨thread, performed⟩ := mem_calls.mp member
      exact unowned (within thread event performed)

/-- Connections that announce different ordinary names are isolated from each other, if none of
them ends the process. -/
theorem isolated_of_peaceful (announced : family.Announced platform fold header rest)
    (peaceful : ∀ thread, Peaceful family.server (family.host thread) (family.connection thread)
      (header thread) (rest thread)) : family.Isolated := by
  intro process order reachable finished once complete
  have harmless (thread : Thread) (reason : Halt)
      (halted : (family.runs thread).result = .error reason) : reason.fatal = false :=
    (peaceful_iff _ _ _ (announced.announces thread)).mpr (peaceful thread) reason halted
  -- Both ways every thread has performed its whole run.
  have interleaved := ofThread_of_finished reachable finished harmless
  have oneByOne (thread : Thread) :
      ofThread thread (serial family.runs Halt.fatal order) = (family.runs thread).events := by
    rw [ofThread_serial harmless once, if_pos (complete thread)]
  have same (thread : Thread) : ofThread thread process.trace =
      ofThread thread (serial family.runs Halt.fatal order) :=
    (interleaved thread).trans (oneByOne thread).symm
  refine ⟨announced.after_calls same fun thread event member => ?_, fun path => ?_,
    fun thread => ?_⟩
  · rw [← interleaved thread]
    exact member
  · rw [DirectoryMade, DirectoryMade, mem_calls_iff same, mem_calls_iff same]
  · rw [same thread]

end Isolation

/-- Two clients, whose files are `a` and `b`. -/
def twoNames : Family Bool where
  server := sampleServer
  host _ := .healthy
  connection thread := closedAfter (ascii
    (if thread then "UAIRDROP:2:b:1\nh" else "UAIRDROP:2:a:1\nh"))

theorem isolated_twoNames : twoNames.Isolated := by
  refine @isolated_of_peaceful Bool _ twoNames .posix id
    (fun thread => ⟨ascii (if thread then "b" else "a"), 1, false⟩)
    (fun _ => ascii "h") ⟨?_, ?_, ?_⟩ ?_
  · intro thread
    cases thread
    · exact ⟨ascii "UAIRDROP:2:a:1", by decide +kernel, by decide +kernel⟩
    · exact ⟨ascii "UAIRDROP:2:b:1", by decide +kernel, by decide +kernel⟩
  · intro thread
    cases thread <;> exact ⟨by decide +kernel, by decide +kernel, by decide +kernel,
      by decide +kernel, by decide +kernel⟩
  · decide
  · intro thread
    refine Or.inl ⟨?_, nofun, Or.inl rfl, rfl⟩
    cases thread <;> decide

/-- A client and a peer that declares a size no vector can have. -/
def clientAndKiller : Family Bool where
  server := sampleServer
  host _ := .healthy
  connection thread := closedAfter (ascii
    (if thread then "UAIRDROP:2:b:18446744073709551615\n" else "UAIRDROP:2:a:2\nhi"))

/-- The reservation throws and takes the process down before the other client is served. -/
theorem not_isolated_clientAndKiller : ¬ clientAndKiller.Isolated := by
  intro isolated
  have killed : (clientAndKiller.runs true).events =
      [.makeDirectory (ascii "./received")] := by decide +kernel
  have thrown : (clientAndKiller.runs true).result = .error (.threw .lengthError) := by
    decide +kernel
  have reachable : Reachable clientAndKiller.runs Halt.fatal
      ⟨[(true, .makeDirectory (ascii "./received"))], false⟩ :=
    (Relation.ReflTransGen.single (Step.perform true killed)).tail
      (Step.die true killed thrown rfl)
  have finished : Finished clientAndKiller.runs Halt.fatal
      ⟨[(true, .makeDirectory (ascii "./received"))], false⟩ := by
    intro next stepped
    cases stepped
  have same := (isolated _ [false, true] reachable finished (by decide) (by decide)).1
    (fun _ => none)
  have saved : Files.after (fun _ => none)
      (calls (serial clientAndKiller.runs Halt.fatal [false, true]))
        (locate (ascii "./received/a")) = some (ascii "hi") := by decide +kernel
  rw [← same] at saved
  cases saved

end UniversalAirdrop
