/-
This file models `file_transfer.cpp` over an abstract file system: reading a
whole file, writing a received file, and taking the name off a path.

A receiving run is a log of the calls it makes, and the files after the run are
what these calls make of the files before it. A file is known by the place its
path leads to, so that `./a` and `a` are one file. The outcomes of the
file-system calls are parameters. An `ofstream` is a buffer in front of the file:
a write may hold bytes back, what is held back is flushed when the stream is
destroyed, and only a flush inside the write is seen by `good()`. A flush is one
or more system calls.
-/

import Mathlib.Logic.Function.Basic
import UniversalAirdrop.Cxx
import UniversalAirdrop.Library.Paths
import UniversalAirdrop.Library.Program

namespace UniversalAirdrop

open Imperative

/-! ### Events and files -/

/-- The calls of a receiving run. -/
inductive ServerEvent
  | makeDirectory (path : Bytes)
  | writeFile (dir filename data : Bytes)
  | createDirectories (path : Bytes)
  | openForWriting (path : Bytes) (opened : Bool)
  | write (path : Bytes) (offset : ℕ) (bytes : Bytes)
  | send (bytes : Bytes)
  | close
  deriving DecidableEq, Repr

abbrev ServerAct := Act ServerEvent Halt

/-- A library call inside a run. -/
def call {Event Value : Type} (outcome : Except Fault Value) : Act Event Halt Value :=
  Act.lift (throwing outcome)

@[simp] theorem call_ok_bind {Event Value Next : Type} (value : Value)
    (next : Value → Act Event Halt Next) : (call (.ok value) >>= next) = next value := rfl

@[simp] theorem call_error_bind {Event Value Next : Type} (fault : Fault)
    (next : Value → Act Event Halt Next) :
    (call (.error fault) >>= next) = Act.halt (.threw fault) := rfl

def pathSeparator : UInt8 := 47

/-- How paths are written. -/
def pathStyle : Paths.Style UInt8 where
  separator := pathSeparator
  dot := 46

/-- A place in the file system. -/
abbrev Location := Paths.Location UInt8

/-- The place that a path given to the file system leads to. -/
def locate (path : Bytes) : Location := pathStyle.resolve (cStr path)

example : locate (ascii "./received/./a") = locate (ascii "received//b/../a") := by decide

/-- The contents of the files, by place. -/
abbrev Files := Location → Option Bytes

/-- Overwrite from an offset on. A gap after the end is filled with zeros, unless there is nothing
to write. -/
def writeAt (content : Bytes) (offset : ℕ) (bytes : Bytes) : Bytes :=
  if bytes = [] then content
  else content.take offset ++ List.replicate (offset - content.length) 0 ++ bytes ++
    content.drop (offset + bytes.length)

/-- What one call does to the files: opening truncates, and a write overwrites at its offset. -/
def Files.apply (files : Files) : ServerEvent → Files
  | .openForWriting path true => Function.update files (locate path) (some [])
  | .write path offset bytes =>
    Function.update files (locate path) ((files (locate path)).map (writeAt · offset bytes))
  | _ => files

/-- The files after a log of calls. -/
def Files.after (files : Files) (events : List ServerEvent) : Files :=
  events.foldl Files.apply files

@[simp] theorem Files.after_nil (files : Files) : files.after [] = files := rfl

@[simp] theorem Files.after_cons (files : Files) (event : ServerEvent)
    (events : List ServerEvent) :
    files.after (event :: events) = (files.apply event).after events := rfl

theorem Files.after_append (files : Files) (first second : List ServerEvent) :
    files.after (first ++ second) = (files.after first).after second :=
  List.foldl_append

/-- Writing where the content ends appends. -/
theorem writeAt_length (content bytes : Bytes) :
    writeAt content content.length bytes = content ++ bytes := by
  unfold writeAt
  split
  case isTrue empty => rw [empty, List.append_nil]
  case isFalse => simp

/-! ### Writing a received file -/

/-- What a flush does with bytes it is given: all of them reach the file, or only some. -/
inductive Flush
  | complete
  | fails (reached : ℕ)
  deriving DecidableEq, Repr

/-- The bytes that reach the file, and whether the flush succeeds. Without bytes there is no
flush, and one that fails loses at least one byte. -/
def Flush.outcome (flush : Flush) (bytes : Bytes) : Bytes × Bool :=
  match bytes, flush with
  | [], _ => ([], true)
  | bytes, .complete => (bytes, true)
  | bytes, .fails reached => (bytes.take (min reached (bytes.length - 1)), false)

/-- Cut bytes into the pieces that single system calls take: as many as each takes, at least one,
and then all that are left. Without bytes there is no call. -/
def pieces : List ℕ → Bytes → List Bytes
  | [], bytes => if bytes = [] then [] else [bytes]
  | size :: sizes, bytes =>
    if bytes = [] then [] else bytes.take (max 1 size) :: pieces sizes (bytes.drop (max 1 size))

/-- The outcomes of the file-system calls of one `write_file`, how many of the last bytes the
stream's buffer holds back when `write` returns, and how many bytes the single system calls take
in `write` and in the destructor. -/
structure Storage where
  createDirectories : Bool
  opens : Bool
  held : ℕ
  writeFlush : Flush
  writeSizes : List ℕ
  closeFlush : Flush
  closeSizes : List ℕ
  deriving DecidableEq, Repr

/-- The bytes that `write` hands to the file before it returns. -/
def Storage.flushed (storage : Storage) (data : Bytes) : Bytes :=
  data.take (data.length - storage.held)

/-- The bytes that `write` leaves to the destructor. -/
def Storage.buffered (storage : Storage) (data : Bytes) : Bytes :=
  data.drop (data.length - storage.held)

/-- The system calls that write pieces one after the other, from an offset on. -/
def writesFrom (path : Bytes) : ℕ → List Bytes → List ServerEvent
  | _, [] => []
  | offset, piece :: rest =>
    .write path offset piece :: writesFrom path (offset + piece.length) rest

/-- `write_file`. The destructor's flush comes after the result was taken. -/
def writeFile (storage : Storage) (dir filename data : Bytes) : ServerAct Bool := do
  Act.emit (.writeFile dir filename data)
  Act.emit (.createDirectories dir)
  if storage.createDirectories then
    let fullPath := dir ++ pathSeparator :: filename
    Act.emit (.openForWriting fullPath storage.opens)
    if storage.opens then
      let (reached, good) := storage.writeFlush.outcome (storage.flushed data)
      Act.emitAll (writesFrom fullPath 0 (pieces storage.writeSizes reached))
      if good then
        Act.emitAll (writesFrom fullPath reached.length (pieces storage.closeSizes
          (storage.closeFlush.outcome (storage.buffered data)).1))
        return true
      else return false
    else return false
  else Act.halt (.threw .filesystemError)

/-- Whether `good()` holds after the write. -/
def Storage.accepts (storage : Storage) (data : Bytes) : Bool :=
  (storage.writeFlush.outcome (storage.flushed data)).2

/-- What the file holds once the stream is destroyed. -/
def Storage.stored (storage : Storage) (data : Bytes) : Bytes :=
  let (reached, good) := storage.writeFlush.outcome (storage.flushed data)
  if good then reached ++ (storage.closeFlush.outcome (storage.buffered data)).1 else reached

/-- Write-file stores what it is given whenever it returns true. -/
def Storage.Faithful (storage : Storage) : Prop :=
  ∀ data, storage.accepts data = true → storage.stored data = data

/-- No file-system call fails. -/
structure Storage.Works (storage : Storage) : Prop where
  created : storage.createDirectories = true
  opens : storage.opens = true
  written : storage.writeFlush = .complete
  closed : storage.closeFlush = .complete

/-- Whatever is written to a file that could be opened reaches it. -/
structure Storage.Complete (storage : Storage) : Prop where
  written : storage.writeFlush = .complete
  closed : storage.closeFlush = .complete

/-- Every file-system call succeeds, and nothing is held back. -/
def Storage.healthy : Storage where
  createDirectories := true
  opens := true
  held := 0
  writeFlush := .complete
  writeSizes := []
  closeFlush := .complete
  closeSizes := []

theorem Flush.outcome_complete (bytes : Bytes) : Flush.complete.outcome bytes = (bytes, true) := by
  cases bytes <;> rfl

theorem Flush.outcome_of_good {flush : Flush} {bytes : Bytes}
    (good : (flush.outcome bytes).2 = true) : (flush.outcome bytes).1 = bytes := by
  cases bytes with
  | nil => rfl
  | cons byte rest =>
    cases flush with
    | complete => rfl
    | fails reached => cases good

theorem Storage.flushed_append_buffered (storage : Storage) (data : Bytes) :
    storage.flushed data ++ storage.buffered data = data := List.take_append_drop _ _

/-- When the write is good, the file holds what was flushed and what the destructor flushes. -/
theorem Storage.stored_of_accepts {storage : Storage} {data : Bytes}
    (good : storage.accepts data = true) :
    storage.stored data =
      storage.flushed data ++ (storage.closeFlush.outcome (storage.buffered data)).1 := by
  unfold accepts at good
  simp only [stored, if_pos good, Flush.outcome_of_good good]

/-- What the destructor flushes is all it was left, or it was left something and its flush
fails. -/
theorem Flush.outcome_fst_eq_iff {flush : Flush} {bytes : Bytes} :
    (flush.outcome bytes).1 = bytes ↔ ¬ (bytes ≠ [] ∧ flush ≠ .complete) := by
  cases bytes with
  | nil => simp [outcome]
  | cons byte rest =>
    cases flush with
    | complete => simp [outcome]
    | fails reached =>
      refine iff_of_false (fun same => ?_) (by simp)
      have length : ((byte :: rest).take (min reached rest.length)).length = rest.length + 1 :=
        congrArg List.length same
      rw [List.length_take] at length
      omega

/-- A successful write left bytes to the destructor, and the destructor's flush fails. -/
def Storage.LosesTail (storage : Storage) (data : Bytes) : Prop :=
  storage.accepts data = true ∧ storage.buffered data ≠ [] ∧ storage.closeFlush ≠ .complete

/-- A write that was good stored what it was given, unless the destructor lost the tail. -/
theorem Storage.stored_eq_iff {storage : Storage} {data : Bytes}
    (good : storage.accepts data = true) :
    storage.stored data = data ↔ ¬ storage.LosesTail data := by
  have whole := storage.flushed_append_buffered data
  rw [LosesTail, and_iff_right good, stored_of_accepts good, ← Flush.outcome_fst_eq_iff]
  constructor
  · intro same
    exact List.append_cancel_left (same.trans whole.symm)
  · intro same
    rw [same, whole]

/-- A storage whose destructor flushes everything is faithful. -/
theorem Storage.faithful_of_complete {storage : Storage}
    (complete : storage.closeFlush = .complete) : storage.Faithful := by
  intro data good
  rw [stored_of_accepts good, complete, Flush.outcome_complete, flushed_append_buffered]

theorem Storage.Complete.accepts {storage : Storage} (complete : storage.Complete)
    (data : Bytes) : storage.accepts data = true := by
  rw [Storage.accepts, complete.written]
  exact congrArg Prod.snd (Flush.outcome_complete _)

theorem Storage.Complete.faithful {storage : Storage} (complete : storage.Complete) :
    storage.Faithful := faithful_of_complete complete.closed

theorem Storage.Works.complete {storage : Storage} (works : storage.Works) : storage.Complete :=
  ⟨works.written, works.closed⟩

theorem Storage.Works.accepts {storage : Storage} (works : storage.Works) (data : Bytes) :
    storage.accepts data = true := works.complete.accepts data

theorem Storage.Works.faithful {storage : Storage} (works : storage.Works) : storage.Faithful :=
  works.complete.faithful

theorem Storage.healthy_works : Storage.healthy.Works := ⟨rfl, rfl, rfl, rfl⟩

/-! ### What a call of write-file does -/

theorem flatten_pieces (sizes : List ℕ) (bytes : Bytes) : (pieces sizes bytes).flatten = bytes := by
  induction sizes generalizing bytes with
  | nil =>
    unfold pieces
    split
    case isTrue empty => rw [empty, List.flatten_nil]
    case isFalse => exact List.flatten_singleton
  | cons size sizes inductionHypothesis =>
    unfold pieces
    split
    case isTrue empty => rw [empty, List.flatten_nil]
    case isFalse => rw [List.flatten_cons, inductionHypothesis, List.take_append_drop]

/-- No system call is made for nothing. -/
theorem ne_nil_of_mem_pieces {sizes : List ℕ} {bytes piece : Bytes}
    (member : piece ∈ pieces sizes bytes) : piece ≠ [] := by
  induction sizes generalizing bytes with
  | nil =>
    unfold pieces at member
    split at member
    case isTrue => cases member
    case isFalse nonempty => rwa [List.mem_singleton.mp member]
  | cons size sizes inductionHypothesis =>
    unfold pieces at member
    split at member
    case isTrue => cases member
    case isFalse nonempty =>
      obtain rfl | member := List.mem_cons.mp member
      · rw [ne_eq, List.take_eq_nil_iff, not_or]
        exact ⟨by omega, nonempty⟩
      · exact inductionHypothesis member

theorem mem_writesFrom {path : Bytes} {offset : ℕ} {chunks : List Bytes} {event : ServerEvent}
    (member : event ∈ writesFrom path offset chunks) :
    ∃ start, ∃ piece ∈ chunks, event = .write path start piece := by
  induction chunks generalizing offset with
  | nil => cases member
  | cons piece rest inductionHypothesis =>
    obtain rfl | member := List.mem_cons.mp member
    · exact ⟨offset, piece, List.mem_cons_self, rfl⟩
    · obtain ⟨start, later, among, same⟩ := inductionHypothesis member
      exact ⟨start, later, List.mem_cons_of_mem _ among, same⟩

/-- Pieces that are written from the end of a file on are appended to it. -/
theorem Files.after_writesFrom {files : Files} {path content : Bytes}
    (holds : files (locate path) = some content) (chunks : List Bytes) :
    files.after (writesFrom path content.length chunks) =
      Function.update files (locate path) (some (content ++ chunks.flatten)) := by
  induction chunks generalizing files content with
  | nil =>
    rw [List.flatten_nil, List.append_nil, ← holds, Function.update_eq_self]
    rfl
  | cons piece rest inductionHypothesis =>
    have first : files.apply (.write path content.length piece) =
        Function.update files (locate path) (some (content ++ piece)) := by
      rw [Files.apply, holds, Option.map_some, writeAt_length]
    rw [writesFrom, Files.after_cons, first, ← List.length_append,
      inductionHypothesis (Function.update_self _ _ _), Function.update_idem, List.flatten_cons,
      List.append_assoc]

/-- The writes to a file that was opened. -/
def Storage.writes (storage : Storage) (path data : Bytes) : List ServerEvent :=
  let (reached, good) := storage.writeFlush.outcome (storage.flushed data)
  writesFrom path 0 (pieces storage.writeSizes reached) ++
    if good then
      writesFrom path reached.length (pieces storage.closeSizes
        (storage.closeFlush.outcome (storage.buffered data)).1)
    else []

theorem writesFrom_append (path : Bytes) (offset : ℕ) (first second : List Bytes) :
    writesFrom path offset (first ++ second) =
      writesFrom path offset first ++ writesFrom path (offset + first.flatten.length) second := by
  induction first generalizing offset with
  | nil => rfl
  | cons piece rest inductionHypothesis =>
    rw [List.cons_append, writesFrom, writesFrom, List.cons_append, inductionHypothesis,
      List.flatten_cons, List.length_append, Nat.add_assoc]

/-- The writes are those of non-empty pieces, one after the other from the start of the file, of
what is stored. -/
theorem Storage.writes_eq (storage : Storage) (path data : Bytes) :
    ∃ chunks : List Bytes, (∀ piece ∈ chunks, piece ≠ []) ∧
      chunks.flatten = storage.stored data ∧
        storage.writes path data = writesFrom path 0 chunks := by
  unfold writes stored
  cases storage.writeFlush.outcome (storage.flushed data) with
  | mk reached good =>
    cases good with
    | false =>
      exact ⟨_, fun piece => ne_nil_of_mem_pieces, flatten_pieces _ _, List.append_nil _⟩
    | true =>
      refine ⟨pieces storage.writeSizes reached ++ pieces storage.closeSizes
        (storage.closeFlush.outcome (storage.buffered data)).1, fun piece member => ?_, ?_, ?_⟩
      · obtain member | member := List.mem_append.mp member <;> exact ne_nil_of_mem_pieces member
      · rw [List.flatten_append, flatten_pieces, flatten_pieces]
        rfl
      · rw [writesFrom_append, flatten_pieces, Nat.zero_add]
        rfl

theorem Storage.mem_writes {storage : Storage} {path data : Bytes} {event : ServerEvent}
    (member : event ∈ storage.writes path data) :
    ∃ offset bytes, bytes ≠ [] ∧ event = .write path offset bytes := by
  obtain ⟨chunks, nonempty, -, writes⟩ := storage.writes_eq path data
  obtain ⟨start, piece, among, same⟩ := mem_writesFrom (writes ▸ member)
  exact ⟨start, piece, nonempty piece among, same⟩

/-- A file that was just opened holds what was stored once the writes are done. -/
theorem Storage.after_writes (storage : Storage) {files : Files} {path : Bytes}
    (opened : files (locate path) = some []) (data : Bytes) :
    files.after (storage.writes path data) =
      Function.update files (locate path) (some (storage.stored data)) := by
  obtain ⟨chunks, -, whole, writes⟩ := storage.writes_eq path data
  rw [writes, ← whole]
  exact Files.after_writesFrom opened chunks

/-- The whole of a call of write-file. -/
theorem writeFile_eq (storage : Storage) (dir filename data : Bytes) :
    writeFile storage dir filename data =
      { events := .writeFile dir filename data :: .createDirectories dir ::
          if storage.createDirectories then
            .openForWriting (dir ++ pathSeparator :: filename) storage.opens ::
              if storage.opens then storage.writes (dir ++ pathSeparator :: filename) data else []
          else []
        result :=
          if storage.createDirectories then .ok (storage.opens && storage.accepts data)
          else .error (.threw .filesystemError) } := by
  unfold writeFile Storage.writes Storage.accepts
  cases storage.createDirectories with
  | false => rfl
  | true =>
    cases storage.opens with
    | false => rfl
    | true =>
      cases storage.writeFlush.outcome (storage.flushed data) with
      | mk reached good =>
        cases good with
        | false => exact Act.eq_mk (by simp) rfl
        | true => exact Act.eq_mk (by simp) rfl

/-- Only a failure to create the directories throws; otherwise the result says whether the file
was opened and the write was good. -/
theorem writeFile_result (storage : Storage) (dir filename data : Bytes) :
    (writeFile storage dir filename data).result =
      if storage.createDirectories then .ok (storage.opens && storage.accepts data)
      else .error (.threw .filesystemError) := by
  rw [writeFile_eq]

/-- The file that was opened holds what reached it, and no other file changes. -/
theorem after_writeFile (files : Files) (storage : Storage) (dir filename data : Bytes) :
    files.after (writeFile storage dir filename data).events =
      if storage.createDirectories && storage.opens then
        Function.update files (locate (dir ++ pathSeparator :: filename))
          (some (storage.stored data))
      else files := by
  rw [writeFile_eq]
  cases storage.createDirectories with
  | false => rfl
  | true =>
    cases storage.opens with
    | false => rfl
    | true =>
      show Files.after (Function.update files _ (some [])) (storage.writes _ data) = _
      rw [storage.after_writes (Function.update_self _ _ _), Function.update_idem]
      rfl

/-- A call of write-file is one save: the calls inside it create directories, open the file and
write to it. -/
theorem writeFile_events (storage : Storage) (dir filename data : Bytes) :
    ∃ calls, (writeFile storage dir filename data).events = .writeFile dir filename data :: calls ∧
      ∀ event ∈ calls, event = .createDirectories dir ∨
        (storage.createDirectories = true ∧
          event = .openForWriting (dir ++ pathSeparator :: filename) storage.opens) ∨
        ∃ offset bytes, bytes ≠ [] ∧
          event = .write (dir ++ pathSeparator :: filename) offset bytes := by
  rw [writeFile_eq]
  refine ⟨_, rfl, fun event member => ?_⟩
  rcases List.mem_cons.mp member with same | member
  · exact Or.inl same
  split at member
  case isFalse => cases member
  case isTrue created =>
    rcases List.mem_cons.mp member with same | member
    · exact Or.inr (Or.inl ⟨created, same⟩)
    · split at member
      case isFalse => cases member
      case isTrue => exact Or.inr (Or.inr (Storage.mem_writes member))

/-- The paths a call of write-file opens. -/
theorem openForWriting_mem_writeFile {storage : Storage} {dir filename data path : Bytes}
    {opened : Bool} :
    .openForWriting path opened ∈ (writeFile storage dir filename data).events ↔
      storage.createDirectories = true ∧ opened = storage.opens ∧
        path = dir ++ pathSeparator :: filename := by
  constructor
  · intro member
    obtain ⟨calls, events, inside⟩ := writeFile_events storage dir filename data
    rw [events, List.mem_cons] at member
    rcases member with same | member
    · cases same
    · rcases inside _ member with same | ⟨created, same⟩ | ⟨offset, bytes, -, same⟩
      · cases same
      · cases same
        exact ⟨created, rfl, rfl⟩
      · cases same
  · rintro ⟨created, rfl, rfl⟩
    rw [writeFile_eq, if_pos created]
    exact List.mem_cons_of_mem _ (List.mem_cons_of_mem _ List.mem_cons_self)

/-! ### Reading a file to send -/

structure FileData where
  filename : Bytes
  bytes : Bytes
  deriving DecidableEq, Repr

/-- The name after the last separator, as the POSIX path library has it. -/
def getFilename (path : Bytes) : Bytes :=
  (path.reverse.takeWhile (· ≠ pathSeparator)).reverse

/-- Read a whole file, where `readable` says what can be read under a path. -/
def readFile (readable : Bytes → Option Bytes) (path : Bytes) : Option FileData :=
  (readable path).map fun bytes => { filename := getFilename path, bytes }

/-- The path of a file: its name, alone or below a directory. -/
def IsPathOf (filepath name : Bytes) : Prop :=
  filepath = name ∨ ∃ dir, filepath = dir ++ pathSeparator :: name

/-- The name of a file is taken off its path. -/
theorem getFilename_of_isPathOf {filepath name : Bytes} (path : IsPathOf filepath name)
    (plain : pathSeparator ∉ name) : getFilename filepath = name := by
  have whole : ∀ byte ∈ name.reverse, decide (byte ≠ pathSeparator) = true := fun byte member =>
    decide_eq_true (ne_of_mem_of_not_mem (List.mem_reverse.mp member) plain)
  obtain rfl | ⟨dir, rfl⟩ := path
  · rw [getFilename, List.takeWhile_eq_self_iff.mpr whole, List.reverse_reverse]
  · rw [getFilename, List.reverse_append, List.reverse_cons, List.append_assoc,
      List.takeWhile_append_of_pos whole, List.singleton_append,
      List.takeWhile_cons_of_neg (by decide), List.append_nil, List.reverse_reverse]

end UniversalAirdrop
