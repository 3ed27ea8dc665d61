/-
This file proves what the result of `write_file` says about the file, and what
the acknowledgement that is derived from it says.

The result is taken while the last bytes may still be in the stream's buffer. A
write that was not good has left fewer bytes in the file than it was given, so a
failure is reported as one; a good write is one the destructor has still to
finish, and nobody learns whether it does.
-/

import UniversalAirdrop.Receiving

namespace UniversalAirdrop

open Imperative Streams

/-! ### What the result says -/

/-- The call returns, and returns true exactly if the file at the path then holds the data. -/
def TellsTruth (files : Files) (path data : Bytes) (run : ServerAct Bool) : Prop :=
  ∃ ok, run.result = .ok ok ∧ (ok = true ↔ files.after run.events (locate path) = some data)

/-- Directories can be created, the destructor does not lose the tail of a file that is opened,
and a file that cannot be opened does not hold the data already. -/
structure Reportable (files : Files) (storage : Storage) (path data : Bytes) : Prop where
  created : storage.createDirectories = true
  keeps : storage.opens = true → ¬ storage.LosesTail data
  differs : storage.opens = false → files (locate path) ≠ some data

/-- A flush that fails loses something. -/
theorem Flush.length_outcome_lt {flush : Flush} {bytes : Bytes}
    (failed : (flush.outcome bytes).2 = false) :
    (flush.outcome bytes).1.length < bytes.length := by
  cases bytes with
  | nil => cases failed
  | cons byte rest =>
    cases flush with
    | complete => cases failed
    | fails reached =>
      show ((byte :: rest).take (min reached rest.length)).length < rest.length + 1
      rw [List.length_take]
      omega

/-- After a write that was not good the file does not hold the data. -/
theorem Storage.stored_ne {storage : Storage} {data : Bytes}
    (bad : storage.accepts data = false) : storage.stored data ≠ data := by
  intro same
  have lost := Flush.length_outcome_lt bad
  have stored : storage.stored data = (storage.writeFlush.outcome (storage.flushed data)).1 :=
    if_neg (Bool.eq_false_iff.mp bad)
  have within : (storage.flushed data).length ≤ data.length := by
    rw [Storage.flushed, List.length_take]
    exact Nat.min_le_right _ _
  rw [← stored, same] at lost
  exact absurd within (not_le.mpr lost)

/-- A write is good exactly if the file holds the data, unless the destructor loses the tail. -/
theorem Storage.accepts_iff_stored {storage : Storage} {data : Bytes} :
    (storage.accepts data = true ↔ storage.stored data = data) ↔ ¬ storage.LosesTail data := by
  cases verdict : storage.accepts data with
  | true => rw [← Storage.stored_eq_iff verdict, eq_self, true_iff]
  | false =>
    have unlost : ¬ storage.LosesTail data := by
      intro lost
      rw [lost.1] at verdict
      cases verdict
    exact iff_of_true (iff_of_false Bool.false_ne_true (stored_ne verdict)) unlost

theorem tellsTruth_iff_of_result {files : Files} {path data : Bytes} {run : ServerAct Bool}
    {ok : Bool} (returned : run.result = .ok ok) :
    TellsTruth files path data run ↔
      (ok = true ↔ files.after run.events (locate path) = some data) := by
  constructor
  · rintro ⟨other, same, truth⟩
    rw [returned] at same
    cases same
    exact truth
  · intro truth
    exact ⟨ok, returned, truth⟩

/-- Exactly when the result of a call is true to what the file then holds. -/
theorem tellsTruth_iff_reportable (files : Files) (storage : Storage)
    (dir filename data : Bytes) :
    TellsTruth files (dir ++ pathSeparator :: filename) data
        (writeFile storage dir filename data) ↔
      Reportable files storage (dir ++ pathSeparator :: filename) data := by
  have result := writeFile_result storage dir filename data
  have after := after_writeFile files storage dir filename data
  cases created : storage.createDirectories with
  | false =>
    refine iff_of_false ?_ fun reportable => ?_
    · rintro ⟨ok, returned, -⟩
      rw [result, created] at returned
      cases returned
    · rw [reportable.created] at created
      cases created
  | true =>
    rw [created, if_pos rfl] at result
    rw [tellsTruth_iff_of_result result, after, created]
    cases opens : storage.opens with
    | false =>
      constructor
      · intro truth
        refine ⟨created, fun opened => ?_, fun _ holds => ?_⟩
        · rw [opens] at opened
          cases opened
        · cases truth.mpr holds
      · intro reportable
        exact iff_of_false Bool.false_ne_true (reportable.differs opens)
    | true =>
      have stored : Function.update files (locate (dir ++ pathSeparator :: filename))
          (some (storage.stored data)) (locate (dir ++ pathSeparator :: filename)) = some data ↔
            storage.stored data = data := by
        rw [Function.update_self, Option.some.injEq]
      show (storage.accepts data = true ↔ _) ↔ _
      rw [Bool.true_and, if_pos rfl, stored, Storage.accepts_iff_stored]
      constructor
      · intro keeps
        refine ⟨created, fun _ => keeps, fun closed => ?_⟩
        rw [opens] at closed
        cases closed
      · intro reportable
        exact reportable.keeps opens

/-! ### What the acknowledgement says -/

/-- A file that is acknowledged is in the file system: it holds the bytes that were handed to
write-file. -/
def AcknowledgesStored (events : List ServerEvent) : Prop :=
  respStr .fileAck ∈ responses events →
    ∀ dir filename data, (dir, filename, data) ∈ savedFiles events →
      ∀ files : Files, files.after events (locate (dir ++ pathSeparator :: filename)) = some data

/-- Exactly when what a run acknowledges is stored: the destructor does not lose the tail of the
file the run saves. -/
theorem acknowledgesStored_iff (server : TcpServer) (host : Host) (connection : Connection) :
    AcknowledgesStored (handleClient server host connection).events ↔
      ∀ header rest data, Saves server host connection header rest data →
        ¬ host.storage.LosesTail data := by
  constructor
  · intro stored header rest data saves
    have acked := fileAck_mem_responses_iff.mpr ⟨header, rest, data, saves⟩
    have saved : (server.receiveDir, header.filename, data) ∈
        savedFiles (handleClient server host connection).events := by
      rw [saves.savedFiles]
      exact List.mem_singleton_self _
    have holds := stored acked _ _ _ saved fun _ => none
    have place : locate (server.receiveDir ++ pathSeparator :: header.filename) =
        server.receivedPath header.filename := rfl
    rw [saves.after, place, Function.update_self, Option.some.injEq] at holds
    exact (Storage.stored_eq_iff saves.accepts).mp holds
  · intro keeps acked dir filename data saved files
    obtain ⟨header, rest, handed, saves⟩ := fileAck_mem_responses_iff.mp acked
    rw [saves.savedFiles, List.mem_singleton] at saved
    cases saved
    rw [saves.after, (Storage.stored_eq_iff saves.accepts).mpr (keeps _ _ _ saves)]
    exact Function.update_self _ _ _

/-- Exactly when the result of `write_file` is true to the file, and exactly when the
acknowledgement that is derived from it is. -/
theorem writeFile_tellsTruth_iff (files : Files) (storage : Storage) (dir filename data : Bytes)
    (server : TcpServer) (host : Host) (connection : Connection) :
    (TellsTruth files (dir ++ pathSeparator :: filename) data
        (writeFile storage dir filename data) ↔
      Reportable files storage (dir ++ pathSeparator :: filename) data) ∧
    (AcknowledgesStored (handleClient server host connection).events ↔
      ∀ header rest data, Saves server host connection header rest data →
        ¬ host.storage.LosesTail data) :=
  ⟨tellsTruth_iff_reportable files storage dir filename data,
    acknowledgesStored_iff server host connection⟩

/-- A disk that is full when the stream is destroyed: two bytes stay in the buffer until then. -/
def Storage.fullAtClose : Storage where
  createDirectories := true
  opens := true
  held := 2
  writeFlush := .complete
  closeFlush := .fails 0
  writeSizes := []
  closeSizes := []

/-- The write is reported as a success and the file is empty, and a run of the handler acknowledges
a file that is empty. -/
theorem not_tellsTruth_fullAtClose :
    ¬ TellsTruth (fun _ => none) (ascii "./received/a") (ascii "hi")
        (writeFile .fullAtClose (ascii "./received") (ascii "a") (ascii "hi")) ∧
      ¬ AcknowledgesStored (handleClient sampleServer { Host.healthy with storage := .fullAtClose }
        (closedAfter (ascii "UAIRDROP:2:a:2\nhi"))).events := by
  constructor
  · rintro ⟨ok, returned, truth⟩
    have success : (writeFile .fullAtClose (ascii "./received") (ascii "a") (ascii "hi")).result =
        .ok true := by decide +kernel
    rw [success] at returned
    cases returned
    have holds := truth.mp rfl
    revert holds
    decide +kernel
  · intro stored
    have holds := stored (by decide +kernel) (ascii "./received") (ascii "a") (ascii "hi")
      (by decide +kernel) fun _ => none
    revert holds
    decide +kernel

end UniversalAirdrop
