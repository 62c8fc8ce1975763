/-
# Windchest.Proofs.Load.Update -- what updating a cache leaves at its path

An update takes four steps, each of which may be its last one; `updateCache_cases` lists what
it comes to.  If it succeeds it has written the records of all objects, and whoever opens the
file finds just these records behind a valid header, packed or not
(`source_of_updateCache`).  Whether it succeeds and what it writes depends on the
records alone, if nobody cancels it (`updateCache_congr`).
-/
import Windchest.Load.Basic
import Windchest.Proofs.Codec.Stream
import Windchest.Proofs.Files.System

namespace Windchest

set_option autoImplicit false

open Cache (Source Writer)

variable {α : Type} [Loadable α]

/-- The objects have these records. -/
def Saves (a : Arena) (objects : List α) (records : List Bytes) : Prop :=
  List.Forall₂ (fun object record => Loadable.save a object = .ok record) objects records

theorem writeRecords_eq_ok {report : Reporter} {arena : Arena} {total done : Nat}
    {trace trace' : List Progress} {writer writer' : Writer} {objects : List α}
    (written : writeRecords report arena total done trace writer objects
      = (.ok (), writer', trace')) :
    ∃ records, Saves arena objects records ∧
      writer' = ⟨writer.content ++ records.flatMap Cache.frame, writer.records + records.length⟩ := by
  induction objects generalizing done trace writer with
  | nil =>
      cases written
      refine ⟨[], .nil, ?_⟩
      simp
  | cons object rest ih =>
      unfold writeRecords at written
      split at written
      · cases written
      · rename_i record saved
        dsimp only at written
        split at written
        · obtain ⟨records, saves, rfl⟩ := ih written
          refine ⟨record :: records, .cons saved saves, ?_⟩
          simp only [Writer.record, Writer.write, List.flatMap_cons, List.length_cons,
            List.append_assoc, Writer.mk.injEq, true_and]
          omega
        · cases written

/-- The files once it was tried to delete a cache. -/
def Cache.cleared (fs : FileSystem) (path : String) : FileSystem :=
  match delete fs path with
  | .ok (_, fs) => fs
  | .error _ => fs

section Cases

variable {report : Reporter} {trace told : List Progress} {target : CacheTarget} {packed : Bool}
  {stage : Stage α} {result : Except UpdateCacheError Nat} {files : FileSystem}

/-- What an update gives, leaves and has told, by the step that it has come to. -/
inductive UpdateEnds (report : Reporter) (trace : List Progress) (target : CacheTarget) (packed : Bool)
    (stage : Stage α) : Except UpdateCacheError Nat → FileSystem → List Progress → Prop where
  /-- The old cache cannot be deleted. -/
  | undeleted {refused : FileError} (deleted : Cache.delete stage.files target.path = .error refused) :
      UpdateEnds report trace target packed stage (.error (.cache .file)) stage.files trace
  /-- There is no directory for the new one. -/
  | unprepared {found : Bool} {emptied : FileSystem} {refused : FileError}
      (deleted : Cache.delete stage.files target.path = .ok (found, emptied))
      (made : emptied.makeDirectories (Path.parent target.path) = .error refused) :
      UpdateEnds report trace target packed stage (.error (.cache .file)) emptied trace
  /-- The new one cannot be opened. -/
  | unopened {found : Bool} {emptied prepared : FileSystem} {refused : FileError}
      (deleted : Cache.delete stage.files target.path = .ok (found, emptied))
      (made : emptied.makeDirectories (Path.parent target.path) = .ok prepared)
      (opened : prepared.write target.path [] = .error refused) :
      UpdateEnds report trace target packed stage (.error (.cache .file))
        (Cache.cleared prepared target.path) (trace ++ [.setup stage.objects.length .writingCache])
  /-- An object has no record, or the reporter has declined, and the file is left unfinished. -/
  | unwritten {found : Bool} {emptied prepared empty unfinished : FileSystem}
      {told : List Progress} {writer : Writer} {why : UpdateCacheError}
      (deleted : Cache.delete stage.files target.path = .ok (found, emptied))
      (made : emptied.makeDirectories (Path.parent target.path) = .ok prepared)
      (opened : prepared.write target.path [] = .ok empty)
      (written : writeRecords report stage.arena stage.objects.length 0
        (trace ++ [.setup stage.objects.length .writingCache])
        (({} : Writer).write (Cache.header ++ target.hash.bytes)) stage.objects
          = (.error why, writer, told))
      (left : empty.write target.path (writer.abandon target.packing packed) = .ok unfinished) :
      UpdateEnds report trace target packed stage (.error why)
        (Cache.cleared unfinished target.path) told
  /-- The new cache is there. -/
  | closed {found : Bool} {emptied prepared empty full : FileSystem} {told : List Progress}
      {writer : Writer} (deleted : Cache.delete stage.files target.path = .ok (found, emptied))
      (made : emptied.makeDirectories (Path.parent target.path) = .ok prepared)
      (opened : prepared.write target.path [] = .ok empty)
      (written : writeRecords report stage.arena stage.objects.length 0
        (trace ++ [.setup stage.objects.length .writingCache])
        (({} : Writer).write (Cache.header ++ target.hash.bytes)) stage.objects
          = (.ok (), writer, told))
      (closed : empty.write target.path (writer.close target.packing packed) = .ok full) :
      UpdateEnds report trace target packed stage (.ok writer.records) full told

/-- **Everything an update can come to.** -/
theorem updateCache_cases
    (updated : updateCache report trace target packed stage = (result, files, told)) :
    UpdateEnds report trace target packed stage result files told := by
  unfold updateCache at updated
  dsimp only at updated
  split at updated
  · rename_i deleted
    cases updated
    exact .undeleted deleted
  · rename_i deleted
    split at updated
    · rename_i made
      cases updated
      exact .unprepared deleted made
    · rename_i made
      split at updated
      · rename_i opened
        cases updated
        exact .unopened deleted made opened
      · rename_i empty opened
        -- The file that was opened can be written to.
        have open_ := FileSystem.write_of_write opened
        split at updated
        · rename_i writer _ written
          obtain ⟨unfinished, left⟩ := open_ (writer.abandon target.packing packed)
          rw [left] at updated
          cases updated
          exact .unwritten deleted made opened written left
        · rename_i writer _ written
          obtain ⟨full, closed⟩ := open_ (writer.close target.packing packed)
          rw [closed] at updated
          cases updated
          exact .closed deleted made opened written closed

end Cases

/-- An update that succeeds leaves the stream of all records in the file. -/
theorem updateCache_eq_ok {report : Reporter} {trace trace' : List Progress} {target : CacheTarget}
    {packed : Bool} {stage : Stage α} {n : Nat} {files : FileSystem}
    (updated : updateCache report trace target packed stage = (.ok n, files, trace')) :
    ∃ records, Saves stage.arena stage.objects records ∧ n = records.length ∧
      files.read target.path
        = .ok (Writer.close ⟨Cache.encode target.hash records, records.length⟩ target.packing
          packed) := by
  cases updateCache_cases updated with
  | closed deleted made opened written closed =>
      obtain ⟨records, saves, rfl⟩ := writeRecords_eq_ok written
      have stored := FileSystem.read_of_write closed
      refine ⟨records, saves, ?_, ?_⟩
      · simp [Writer.write]
      · rw [stored]
        simp [Writer.write, Writer.close, Cache.encode]

/-- **The records that an update has written are found again**, if the packing is lawful where the
cache is packed. -/
theorem source_of_updateCache {report : Reporter} {trace trace' : List Progress}
    {target : CacheTarget} {packed : Bool} {stage : Stage α} {n : Nat} {files : FileSystem}
    (lawful : packed = true → target.packing.Lawful)
    (whole : target.hash.bytes.length = Hash.size)
    (updated : updateCache report trace target packed stage = (.ok n, files, trace')) :
    ∃ records, Saves stage.arena stage.objects records ∧
      CacheWalk.source files target = .ok ⟨records.flatMap Cache.frame, false⟩ := by
  obtain ⟨records, saves, -, stored⟩ := updateCache_eq_ok updated
  refine ⟨records, saves, ?_⟩
  have present : files.contains target.path = true := FileSystem.contains_of_read stored
  have valid := Source.validate_encode whole records
  rw [CacheWalk.source, present, stored]
  simp only [Bool.not_true, Bool.false_eq_true, if_false, Source.ofFile_close lawful, valid]

section Congruence

variable {report : Reporter} {a b : Arena} {objects others : List α}

/-- Whoever has the same records writes the same. -/
theorem writeRecords_congr (patient : ∀ trace, report trace = true)
    (same : List.Forall₂ (fun object other => Loadable.save a object = Loadable.save b other)
      objects others) (total done : Nat) (trace trace' : List Progress) (writer : Writer) :
    (writeRecords report a total done trace writer objects).1
        = (writeRecords report b total done trace' writer others).1 ∧
      (writeRecords report a total done trace writer objects).2.1
        = (writeRecords report b total done trace' writer others).2.1 := by
  induction same generalizing done trace trace' writer with
  | nil => exact ⟨rfl, rfl⟩
  | @cons object other objects others first rest ih =>
      unfold writeRecords
      rw [first]
      split
      · exact ⟨rfl, rfl⟩
      · simp only [patient, if_true]
        exact ih _ _ _ _

/-- **What an update writes depends on the records alone**, if nobody cancels it. -/
theorem updateCache_congr (patient : ∀ trace, report trace = true)
    (same : List.Forall₂ (fun object other => Loadable.save a object = Loadable.save b other)
      objects others) (trace trace' : List Progress) (target : CacheTarget) (packed : Bool)
    (files : FileSystem) :
    (updateCache report trace target packed ⟨objects, a, files⟩).1
        = (updateCache report trace' target packed ⟨others, b, files⟩).1 ∧
      (updateCache report trace target packed ⟨objects, a, files⟩).2.1
        = (updateCache report trace' target packed ⟨others, b, files⟩).2.1 := by
  unfold updateCache
  dsimp only
  rw [same.length_eq]
  split
  · exact ⟨rfl, rfl⟩
  · split
    · exact ⟨rfl, rfl⟩
    · split
      · exact ⟨rfl, rfl⟩
      · have written := writeRecords_congr patient same others.length 0
          (trace ++ [.setup others.length .writingCache]) (trace' ++ [.setup others.length .writingCache])
          (({} : Writer).write (Cache.header ++ target.hash.bytes))
        revert written
        generalize writeRecords report a others.length 0 _ _ objects = here
        generalize writeRecords report b others.length 0 _ _ others = there
        obtain ⟨result, writer, told⟩ := here
        obtain ⟨result', writer', told'⟩ := there
        rintro ⟨rfl, rfl⟩
        cases result with
        | error why =>
            dsimp only
            split <;> exact ⟨rfl, rfl⟩
        | ok done =>
            dsimp only
            split <;> exact ⟨rfl, rfl⟩

end Congruence

end Windchest
