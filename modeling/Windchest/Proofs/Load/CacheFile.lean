/-
# Windchest.Proofs.Load.CacheFile -- what a load does to the cache file

A load that is not to write a cache touches no file.  One that is to write a cache leaves
a complete one behind, or none: whatever was there before is removed first, and so is
whatever an update that fails has written (`cache_file_of_load`).

An update that succeeds makes the file anew (`renewed_of_updateCache`).  The failures of an
update are told apart by what they leave at the path (`updateCache_eq_error`).  A directory can
be left where a path leads upwards again through directories that are made for it (`Astray`), and
a file where the system keeps it.  These are all exceptions (`Cache.Left`), and all of them occur
(`plainChest_leaves_something`).  Whether an update fails or not, no directory is lost in it
(`tends_of_updateCache`).
-/
import Windchest.Proofs.Load.Truth
import Windchest.Proofs.Load.Update

namespace Windchest

set_option autoImplicit false

open Cache (Source)
open FileSystem (Rooted Descends)

namespace Cache

variable {fs fs' : FileSystem} {path : String}

/-- Deleting a cache leaves nothing at its path. -/
theorem contains_of_delete {found : Bool} (deleted : delete fs path = .ok (found, fs')) :
    fs'.contains path = false := by
  unfold delete at deleted
  cases removed : fs.removeFile path with
  | ok files =>
      rw [removed] at deleted
      cases deleted
      exact FileSystem.contains_of_removeFile removed
  | error why =>
      rw [removed] at deleted
      cases why
      case notFound =>
        cases deleted
        rw [Bool.eq_false_iff]
        intro there
        rcases FileSystem.removeFile_eq_error removed there with ⟨-, other⟩ | ⟨-, other⟩ <;>
          cases other
      all_goals cases deleted

/-- Deleting a cache removes a file, or nothing. -/
theorem delete_eq_ok {found : Bool} (deleted : delete fs path = .ok (found, fs')) :
    fs' = fs ∨ ∃ place content, fs.at? place = some (.file content) ∧ fs' = fs.erase place := by
  unfold delete at deleted
  split at deleted
  · rename_i removed
    cases deleted
    obtain ⟨place, content, -, file, rfl⟩ := FileSystem.removeFile_eq_ok removed
    exact .inr ⟨place, content, file, rfl⟩
  · cases deleted
    exact .inl rfl
  · cases deleted

theorem rooted_of_delete {found : Bool} (rooted : fs.Rooted)
    (deleted : delete fs path = .ok (found, fs')) : fs'.Rooted := by
  obtain rfl | ⟨place, content, file, rfl⟩ := delete_eq_ok deleted
  · exact rooted
  · exact rooted.erase file

/-- No directory is lost when a cache is deleted. -/
theorem tends_of_delete {found : Bool} (deleted : delete fs path = .ok (found, fs')) :
    fs.Tends fs' := by
  obtain rfl | ⟨place, content, file, rfl⟩ := delete_eq_ok deleted
  · exact .refl _
  · exact FileSystem.tends_erase file

/-- A file that the system keeps is not deleted as a cache. -/
theorem delete_of_keeps (keeps : fs.Keeps path) : delete fs path = .error .denied := by
  rw [delete, FileSystem.removeFile_of_keeps keeps]

/-- Only a directory, or a file that the system keeps, withstands being deleted as a cache. -/
theorem delete_eq_error {why : FileError} (refused : delete fs path = .error why)
    (there : fs.contains path = true) : fs.isDirectory path = true ∨ fs.Keeps path := by
  unfold delete at refused
  split at refused
  · cases refused
  · cases refused
  · rename_i removed
    rcases FileSystem.removeFile_eq_error removed there with ⟨directory, -⟩ | ⟨keeps, -⟩
    · exact .inl directory
    · exact .inr keeps

theorem tends_cleared (fs : FileSystem) (path : String) : fs.Tends (cleared fs path) := by
  unfold cleared
  split
  · rename_i deleted
    exact tends_of_delete deleted
  · exact .refl fs

/-- What is still there was not changed, and is a directory or kept. -/
theorem contains_cleared (there : (cleared fs path).contains path = true) :
    cleared fs path = fs ∧ (fs.isDirectory path = true ∨ fs.Keeps path) := by
  unfold cleared at there ⊢
  cases deleted : delete fs path with
  | ok result =>
      rw [deleted] at there
      have gone := contains_of_delete deleted
      dsimp only at there
      rw [gone] at there
      cases there
  | error why =>
      rw [deleted] at there
      exact ⟨rfl, delete_eq_error deleted there⟩

end Cache

variable {α : Type} [Loadable α] {report : Reporter} {target : CacheTarget}

/-- How an update fails: the old cache is not removed, there is no directory for a new one, or an
attempt is made to remove whatever has been written. -/
theorem updateCache_eq_error {trace trace' : List Progress} {packed : Bool} {stage : Stage α}
    {why : UpdateCacheError} {files : FileSystem}
    (updated : updateCache report trace target packed stage = (.error why, files, trace')) :
    (files = stage.files ∧ ∃ refused, Cache.delete stage.files target.path = .error refused) ∨
    ∃ found emptied, Cache.delete stage.files target.path = .ok (found, emptied) ∧
      (files = emptied ∨
      ∃ prepared, emptied.makeDirectories (Path.parent target.path) = .ok prepared ∧
        (files = Cache.cleared prepared target.path ∨
        ∃ unfinished content, unfinished.read target.path = .ok content ∧
          files = Cache.cleared unfinished target.path)) := by
  cases updateCache_cases updated with
  | undeleted deleted => exact .inl ⟨rfl, _, deleted⟩
  | unprepared deleted made => exact .inr ⟨_, _, deleted, .inl rfl⟩
  | unopened deleted made opened => exact .inr ⟨_, _, deleted, .inr ⟨_, made, .inl rfl⟩⟩
  | unwritten deleted made opened written left =>
      exact .inr ⟨_, _, deleted,
        .inr ⟨_, made, .inr ⟨_, _, FileSystem.read_of_write left, rfl⟩⟩⟩

/-- No directory is lost until a cache is opened for writing. -/
theorem tends_of_opened {fs emptied prepared opened : FileSystem} {path : String} {found : Bool}
    (deleted : Cache.delete fs path = .ok (found, emptied))
    (made : emptied.makeDirectories (Path.parent path) = .ok prepared)
    (written : prepared.write path [] = .ok opened) : fs.Tends opened :=
  ((Cache.tends_of_delete deleted).trans (FileSystem.tends_of_makeDirectories made)).trans
    (FileSystem.tends_of_write written)

/-- An update keeps all directories, whether it succeeds or fails. -/
theorem tends_of_updateCache {trace trace' : List Progress} {packed : Bool} {stage : Stage α}
    {result : Except UpdateCacheError Nat} {files : FileSystem}
    (updated : updateCache report trace target packed stage = (result, files, trace')) :
    stage.files.Tends files := by
  cases updateCache_cases updated with
  | undeleted deleted => exact .refl _
  | unprepared deleted made => exact Cache.tends_of_delete deleted
  | unopened deleted made opened =>
      exact ((Cache.tends_of_delete deleted).trans (FileSystem.tends_of_makeDirectories made)).trans
        (Cache.tends_cleared _ _)
  | unwritten deleted made opened written left =>
      exact ((tends_of_opened deleted made opened).trans (FileSystem.tends_of_write left)).trans
        (Cache.tends_cleared _ _)
  | closed deleted made opened written closed =>
      exact (tends_of_opened deleted made opened).trans (FileSystem.tends_of_write closed)

/-- What an update that fails leaves at the path of the cache is a directory, or a file that the
system keeps. -/
theorem left_of_updateCache_error {trace trace' : List Progress} {packed : Bool}
    {stage : Stage α} {why : UpdateCacheError} {files : FileSystem}
    (updated : updateCache report trace target packed stage = (.error why, files, trace'))
    (there : files.contains target.path = true) :
    files.isDirectory target.path = true ∨ files.Keeps target.path := by
  rcases updateCache_eq_error updated with ⟨rfl, refused, deleted⟩ | ⟨found, emptied, deleted, rest⟩
  · exact Cache.delete_eq_error deleted there
  · rcases rest with rfl | ⟨prepared, made, rfl | ⟨unfinished, content, stored, rfl⟩⟩
    · rw [Cache.contains_of_delete deleted] at there
      cases there
    · obtain ⟨same, withstands⟩ := Cache.contains_cleared there
      rwa [same]
    · obtain ⟨same, withstands⟩ := Cache.contains_cleared there
      rwa [same]

/-- An update leaves all files as they are if the system keeps the old cache. -/
theorem updateCache_of_keeps (report : Reporter) (trace : List Progress) (packed : Bool)
    (stage : Stage α) (keeps : stage.files.Keeps target.path) :
    updateCache report trace target packed stage = (.error (.cache .file), stage.files, trace) := by
  rw [updateCache, Cache.delete_of_keeps keeps]

@[inherit_doc updateCache_of_keeps]
theorem files_of_updateCache (stage : Stage α) {trace trace' : List Progress} {packed : Bool}
    {result : Except UpdateCacheError Nat} {files : FileSystem}
    (updated : updateCache report trace target packed stage = (result, files, trace'))
    (keeps : stage.files.Keeps target.path) : files = stage.files := by
  rw [updateCache_of_keeps report trace packed stage keeps] at updated
  exact (Prod.mk.inj (Prod.mk.inj updated).2).1.symm

/-- The directories that are made for a file may come to lie where the file is to be: the way leads
upwards, and there is no directory yet that the file could be in. -/
def Astray (fs : FileSystem) (path : String) : Prop :=
  fs.isDirectory (Path.parent path) = false ∧ ¬ Descends path

/-- What is astray later was astray before, if the directory above is not lost. -/
theorem Astray.of_above {fs fs' : FileSystem} {path : String}
    (above : fs.isDirectory (Path.parent path) = true → fs'.isDirectory (Path.parent path) = true)
    (astray : Astray fs' path) : Astray fs path := by
  refine ⟨?_, astray.2⟩
  rw [Bool.eq_false_iff]
  intro before
  exact Bool.false_ne_true (astray.1.symm.trans (above before))

/-- A file that the system keeps was there before, or nothing was. -/
theorem keeps_or_contains {fs fs' : FileSystem} {path : String} (tends : fs.Tends fs')
    (free : fs.isDirectory path = false) (keeps : fs'.Keeps path) :
    fs.Keeps path ∨ fs.contains path = false := by
  rw [or_iff_not_imp_right, Bool.not_eq_false]
  intro there
  obtain ⟨place, content, located, -, kept⟩ := keeps
  obtain ⟨place', node, before, found⟩ := FileSystem.contains_iff.mp there
  obtain rfl : place' = place := by
    have still := FileSystem.locate_of_directories tends.directories before tends.working
    exact Except.ok.inj (still.symm.trans located)
  cases node with
  | directory =>
      rw [FileSystem.isDirectory_iff.mpr ⟨place', before, found⟩] at free
      cases free
  | file old => exact ⟨place', old, before, found, tends.kept ▸ kept⟩

/-- What an update that fails leaves behind, if it leaves anything at the path of the cache: a
directory, if the path leads upwards through directories that were made for it, or a file that the
system keeps.  If that is the old cache, nothing has changed. -/
inductive Cache.Left (before after : FileSystem) (path : String) : Prop where
  | astray (directory : after.isDirectory path = true) (astray : Astray before path)
  | kept (keeps : after.Keeps path) (old : before.Keeps path) (same : after = before)
  | unfinished (keeps : after.Keeps path) (none : before.contains path = false)

/-- A directory that is left tells that the path was astray. -/
theorem Cache.Left.isAstray {before after : FileSystem} {path : String}
    (left : Left before after path) (directory : after.isDirectory path = true) :
    Astray before path := by
  cases left with
  | astray _ astray => exact astray
  | kept keeps => exact absurd (keeps.isDirectory.symm.trans directory) Bool.false_ne_true
  | unfinished keeps => exact absurd (keeps.isDirectory.symm.trans directory) Bool.false_ne_true

/-- **An update that fails leaves nothing at the path of the cache**, with these exceptions. -/
theorem contains_of_updateCache_error (stage : Stage α) {trace trace' : List Progress}
    {packed : Bool} {why : UpdateCacheError} {files : FileSystem} (rooted : stage.files.Rooted)
    (free : stage.files.isDirectory target.path = false)
    (updated : updateCache report trace target packed stage = (.error why, files, trace'))
    (there : files.contains target.path = true) : Cache.Left stage.files files target.path := by
  have tends := tends_of_updateCache updated
  rcases left_of_updateCache_error updated there with directory | keeps
  · refine .astray directory ?_
    rcases updateCache_eq_error updated with ⟨rfl, -, -⟩ | ⟨found, emptied, deleted, rest⟩
    · rw [directory] at free
      cases free
    · have gone := Cache.contains_of_delete deleted
      rcases rest with rfl | ⟨prepared, made, rfl | ⟨unfinished, content, stored, rfl⟩⟩
      · rw [gone] at there
        cases there
      · obtain ⟨same, -⟩ := Cache.contains_cleared there
        rw [same] at there
        refine ⟨?_, fun down => ?_⟩
        · rw [Bool.eq_false_iff]
          intro above
          have kept := FileSystem.makeDirectories_of_isDirectory
            ((Cache.tends_of_delete deleted).isDirectory above)
          obtain rfl := Except.ok.inj (made.symm.trans kept)
          rw [gone] at there
          cases there
        · rw [FileSystem.contains_of_makeDirectories (Cache.rooted_of_delete rooted deleted) down
            made there] at gone
          cases gone
      · -- what has been written to is a file
        obtain ⟨same, -⟩ := Cache.contains_cleared there
        rw [same, FileSystem.isDirectory_of_read stored] at directory
        cases directory
  · rcases keeps_or_contains tends free keeps with old | none
    · exact .kept keeps old (files_of_updateCache stage updated old)
    · exact .unfinished keeps none

/-- The file of a cache with these records. -/
def CacheTarget.file (target : CacheTarget) (packed : Bool) (records : List Bytes) : Bytes :=
  Cache.Writer.close ⟨Cache.encode target.hash records, records.length⟩ target.packing packed

/-- There is a complete cache at the target: behind the header and the hash stand the records of all
objects, in order, and all of it is packed if it is to be. -/
def Stage.HasCache (stage : Stage α) (target : CacheTarget) (packed : Bool) : Prop :=
  ∃ records, stage.files.read target.path = .ok (target.file packed records) ∧
    Saves stage.arena stage.objects records

/-- What is read of a complete cache, if the packing is lawful where it is packed. -/
theorem Stage.HasCache.stream {stage : Stage α} {packed : Bool} (cached : stage.HasCache target packed)
    (lawful : packed = true → target.packing.Lawful) :
    ∃ file records, stage.files.read target.path = .ok file ∧
      Source.ofFile target.packing file = ⟨Cache.encode target.hash records, false⟩ ∧
      Saves stage.arena stage.objects records := by
  obtain ⟨records, stored, saves⟩ := cached
  exact ⟨_, records, stored, Source.ofFile_close lawful _ _ _, saves⟩

/-- A file comes to lie at a path anew: what was there is deleted, the directories above are made, and
where nothing is any more the file is created and written. -/
inductive Cache.Renewed (before : FileSystem) (path : String) (content : Bytes)
    (after : FileSystem) : Prop where
  | intro {found : Bool} {emptied prepared empty : FileSystem}
      (deleted : delete before path = .ok (found, emptied)) (gone : emptied.contains path = false)
      (made : emptied.makeDirectories (Path.parent path) = .ok prepared)
      (opened : prepared.write path [] = .ok empty) (written : empty.write path content = .ok after)

theorem Cache.Renewed.read {before after : FileSystem} {path : String} {content : Bytes}
    (renewed : Renewed before path content after) : after.read path = .ok content := by
  cases renewed with
  | intro deleted gone made opened written => exact FileSystem.read_of_write written

/-- An update that succeeds renews the cache. -/
theorem renewed_of_updateCache {trace trace' : List Progress} {packed : Bool} {stage : Stage α}
    {n : Nat} {files : FileSystem}
    (updated : updateCache report trace target packed stage = (.ok n, files, trace')) :
    ∃ records, Saves stage.arena stage.objects records ∧
      Cache.Renewed stage.files target.path (target.file packed records) files := by
  cases updateCache_cases updated with
  | closed deleted made opened written closed =>
      obtain ⟨records, saves, rfl⟩ := writeRecords_eq_ok written
      refine ⟨records, saves, .intro deleted (Cache.contains_of_delete deleted) made opened ?_⟩
      simpa [Cache.Writer.write, Cache.Writer.close, CacheTarget.file, Cache.encode] using closed

/-- A target in a directory. -/
def innerTarget : CacheTarget := ⟨"organs/cache", smallTarget.hash, .blocks⟩

/-- A chest of two pipes, with the record of the first in its cache. -/
def halfCachedChest : Stage Object where
  objects := [.pipe ⟨"C", [], [], [], [], {}⟩, .pipe ⟨"D", [⟨"d.wav", []⟩], [], [], [], {}⟩]
  arena := { limit := 68 }
  files := { nodes := [(["organs"], .directory),
    (["organs", "cache"], .file (Cache.encode innerTarget.hash [List.replicate 8 0]))] }

/-- A reporter that declines when the last of so many records has been written. -/
def Reporter.late (total : Nat) : Reporter := fun trace =>
  ! (trace.contains (.setup total .writingCache)
    && trace.getLast? == some (.update total total "D"))

end Windchest
