/-
# Windchest.Proofs.Load.Writing -- a cache is written as a whole or not at all

Where a file can be written at the path of the cache, there are three reasons for which an
update may fail: the system keeps the old cache, an object has no record, or the reporter
declines, be it behind the very last record.  In the first case nothing changes.  In the others
nothing is left at the path, whatever was there before, unless the system keeps what has been
written.  Otherwise the file holds the header, the hash and the frames of all records in order,
and nothing else (`updates_are_atomic`).
-/
import Windchest.Proofs.Files.Writable
import Windchest.Proofs.Load.CacheFile
import Windchest.Proofs.Load.RoundTrip

namespace Windchest

set_option autoImplicit false

open Cache (Source Writer)

variable {α : Type} [Loadable α] {report : Reporter}

/-- The updates about these objects while their cache is written. -/
def writingUpdates (objects : List α) : List Progress :=
  Progress.updates objects.length 0 (objects.map Loadable.title)

/-- Records are written of all objects if all of them have one and the reporter agrees to every
update. -/
theorem writeRecords_eq_ok_iff {arena : Arena} {total done : Nat} {trace told : List Progress}
    {writer writer' : Writer} {objects : List α} {result : Except UpdateCacheError Unit}
    (written : writeRecords report arena total done trace writer objects
      = (result, writer', told)) :
    (result = .ok () ↔ (∃ records, Saves arena objects records) ∧
      report.Agrees trace (Progress.updates total done (objects.map Loadable.title))) ∧
    (result = .ok () →
      told = trace ++ Progress.updates total done (objects.map Loadable.title)) := by
  have failed (why : UpdateCacheError) : ¬ Except.error why = .ok () := nofun
  induction objects generalizing done trace writer with
  | nil =>
      cases written
      exact ⟨⟨fun _ => ⟨⟨[], .nil⟩, report.agrees_nil _⟩, fun _ => rfl⟩,
        fun _ => (List.append_nil _).symm⟩
  | cons object rest ih =>
      rw [List.map_cons, Progress.updates, Reporter.agrees_cons]
      unfold writeRecords at written
      split at written
      · rename_i why unsaved
        cases written
        refine ⟨iff_of_false (failed _) ?_, fun no => absurd no (failed _)⟩
        rintro ⟨⟨_, saves⟩, -⟩
        cases saves with
        | cons saved _ => cases unsaved.symm.trans saved
      · rename_i record saved
        dsimp only at written
        split at written
        · rename_i yes
          obtain ⟨success, tells⟩ := ih written
          constructor
          · rw [success]
            constructor
            · rintro ⟨⟨records, saves⟩, agrees⟩
              exact ⟨⟨record :: records, .cons saved saves⟩, yes, agrees⟩
            · rintro ⟨⟨_, saves⟩, -, agrees⟩
              cases saves with
              | cons _ saves => exact ⟨⟨_, saves⟩, agrees⟩
          · intro succeeded
            rw [tells succeeded, List.append_assoc, List.singleton_append]
        · rename_i no
          cases written
          refine ⟨iff_of_false (failed _) ?_, fun no => absurd no (failed _)⟩
          rintro ⟨-, yes, -⟩
          exact absurd yes no

/-- Nothing is in the way of deleting a cache where one can be written, unless the system keeps it. -/
theorem Cache.delete_of_writable {fs : FileSystem} {path : String} (writable : fs.Writable path)
    (free : fs.isDirectory path = false) (unkept : ¬ fs.Keeps path) :
    ∃ found emptied, delete fs path = .ok (found, emptied) ∧ emptied.Writable path := by
  rcases writable.removeFile free with missing | ⟨emptied, removed, still⟩ | keeps
  · exact ⟨false, fs, by rw [delete, missing], writable⟩
  · exact ⟨true, emptied, by rw [delete, removed], still⟩
  · exact absurd keeps unkept

/-- What an update comes down to where a cache can be written: the file is there, and it is closed
with all records in it, or an attempt is made to remove it unfinished. -/
theorem updateCache_of_writable {target : CacheTarget} {packed : Bool} {stage : Stage α}
    (writable : stage.files.Writable target.path)
    (free : stage.files.isDirectory target.path = false)
    (unkept : ¬ stage.files.Keeps target.path) (trace : List Progress) :
    match writeRecords report stage.arena stage.objects.length 0
        (trace ++ [.setup stage.objects.length .writingCache])
        (({} : Writer).write (Cache.header ++ target.hash.bytes)) stage.objects with
    | (.error why, writer, told) => ∃ unfinished : FileSystem,
        unfinished.read target.path = .ok (writer.abandon target.packing packed) ∧
          updateCache report trace target packed stage
            = (.error why, Cache.cleared unfinished target.path, told)
    | (.ok (), writer, told) => ∃ closed,
        updateCache report trace target packed stage = (.ok writer.records, closed, told) := by
  obtain ⟨found, emptied, deleted, prepared, made, opened, written⟩ :=
    Cache.delete_of_writable writable free unkept
  unfold updateCache
  simp only [deleted, made, written]
  rcases is : writeRecords report stage.arena stage.objects.length 0
    (trace ++ [.setup stage.objects.length .writingCache])
    (({} : Writer).write (Cache.header ++ target.hash.bytes)) stage.objects with
    ⟨result, writer, told⟩
  cases result with
  | error why =>
      obtain ⟨unfinished, left⟩ :=
        FileSystem.write_of_write written (writer.abandon target.packing packed)
      simp only [is, left]
      exact ⟨unfinished, FileSystem.read_of_write left, rfl⟩
  | ok done =>
      obtain ⟨closed, again⟩ :=
        FileSystem.write_of_write written (writer.close target.packing packed)
      simp only [is, again]
      exact ⟨closed, rfl⟩

/-- What is left of a file that was tried to be deleted is nothing, unless the system keeps it. -/
theorem Cache.keeps_cleared_of_read {fs : FileSystem} {path : String} {content : Bytes}
    (stored : fs.read path = .ok content) (there : (cleared fs path).contains path = true) :
    (cleared fs path).Keeps path := by
  obtain ⟨same, directory | keeps⟩ := contains_cleared there
  · rw [FileSystem.isDirectory_of_read stored] at directory
    cases directory
  · rwa [same]

/-- **A cache is written as a whole or not at all.**  Where a file can be written at the path, an
update succeeds just if the system does not keep an old cache there, all objects have a record and
the reporter agrees to all updates.  Then there is a record for each object, and the file, unpacked,
is the magic, the version, the hash, and the frame of each record in order.  If the update does not
succeed, nothing lies at the path, or a file that the system keeps: the old one, and then no file has
changed, or an unfinished one where there was none. -/
theorem updates_are_atomic {target : CacheTarget} {packed : Bool} {stage : Stage α}
    (lawful : packed = true → target.packing.Lawful)
    (free : stage.files.isDirectory target.path = false)
    (writable : stage.files.Writable target.path) (trace : List Progress) :
    let (result, files, told) := updateCache report trace target packed stage
    let begun := trace ++ [.setup stage.objects.length .writingCache]
    ((∃ n, result = .ok n) ↔ ¬ stage.files.Keeps target.path ∧
      (∃ records, Saves stage.arena stage.objects records) ∧
      report.Agrees begun (writingUpdates stage.objects)) ∧
    (∀ n, result = .ok n → n = stage.objects.length ∧ told = begun ++ writingUpdates stage.objects ∧
      ∃ records file, Saves stage.arena stage.objects records ∧
        files.read target.path = .ok file ∧ (packed = false → file = Cache.encode target.hash records) ∧
        Source.ofFile target.packing file
          = ⟨Cache.magic ++ Bytes.ofNat 2 formatVersion.toNat ++ target.hash.bytes
            ++ records.flatMap Cache.frame, false⟩) ∧
    (∀ why, result = .error why → files.contains target.path = true → files.Keeps target.path ∧
      (stage.files.Keeps target.path ∨ stage.files.contains target.path = false)) ∧
    (stage.files.Keeps target.path →
      result = .error (.cache .file) ∧ files = stage.files ∧ told = trace) := by
  by_cases keeps : stage.files.Keeps target.path
  · rw [updateCache_of_keeps report trace packed stage keeps]
    refine ⟨iff_of_false ?_ fun all => all.1 keeps, nofun, fun _ _ _ => ⟨keeps, .inl keeps⟩,
      fun _ => ⟨rfl, rfl, rfl⟩⟩
    rintro ⟨n, no⟩
    cases no
  have outcome := @updateCache_of_writable _ _ report target packed stage writable free keeps trace
  rcases written : writeRecords report stage.arena stage.objects.length 0
    (trace ++ [.setup stage.objects.length .writingCache])
    (({} : Writer).write (Cache.header ++ target.hash.bytes)) stage.objects with
    ⟨result, writer, told⟩
  obtain ⟨success, tells⟩ := writeRecords_eq_ok_iff written
  rw [written] at outcome
  cases result with
  | error why =>
      obtain ⟨unfinished, stored, updated⟩ := outcome
      have tends := tends_of_updateCache updated
      rw [updated]
      refine ⟨iff_of_false ?_ ?_, nofun, fun _ _ there => ?_, fun kept => absurd kept keeps⟩
      · rintro ⟨n, no⟩
        cases no
      · rintro ⟨-, all⟩
        cases success.mpr all
      · have kept := Cache.keeps_cleared_of_read stored there
        exact ⟨kept, keeps_or_contains tends free kept⟩
  | ok done =>
      obtain ⟨closed, updated⟩ := outcome
      obtain ⟨records, saves, count, stored⟩ := updateCache_eq_ok updated
      rw [updated]
      refine ⟨?_, ?_, nofun, fun kept => absurd kept keeps⟩
      · exact ⟨fun _ => ⟨keeps, success.mp rfl⟩, fun _ => ⟨_, rfl⟩⟩
      · rintro n is
        obtain rfl := Except.ok.inj is
        refine ⟨count.trans saves.length_eq.symm, tells rfl, records, _, saves, stored, ?_,
          Source.ofFile_close lawful _ _ _⟩
        rintro rfl
        rfl

/-- The humming pipe beside one without sections, and an old cache where theirs is to go.  The system
may keep the old cache. -/
def hummingPair (ready kept : Bool) : Stage Object where
  objects := [hummingObject, .pipe ⟨"D", [], [], [], [], { ready }⟩]
  arena := hummingHall
  files := { halfCachedChest.files with kept := if kept then [["organs", "cache"]] else [] }

/-- Writing the cache of the pair over the old one. -/
def pairUpdate (report : Reporter) (ready kept : Bool) :
    Except UpdateCacheError Nat × FileSystem × List Progress :=
  updateCache report [] innerTarget true (hummingPair ready kept)

/-- Nothing is in the way of a cache at the path but the old one. -/
theorem writable_hummingPair (ready kept : Bool) :
    (hummingPair ready kept).files.isDirectory innerTarget.path = false ∧
      (hummingPair ready kept).files.Writable innerTarget.path := by
  obtain ⟨free, prepared, made, written, is⟩ :
      (hummingPair ready kept).files.isDirectory innerTarget.path = false ∧
        ∃ prepared ∈ ((hummingPair ready kept).files.makeDirectories
            (Path.parent innerTarget.path)).toOption,
          ∃ written ∈ (prepared.write innerTarget.path []).toOption, True := by
    revert ready kept
    decide +kernel
  exact ⟨free, prepared, eq_ok_of_mem_toOption made, written, eq_ok_of_mem_toOption is.1⟩

/-- The cache of the pair is written in place of the old one.  If the reporter declines at last, or if
the second pipe is not loaded, there is no cache any more.  If the system keeps the old one, it stays. -/
theorem pairUpdate_all_or_nothing :
    ((pairUpdate .patient true false).1 = .ok 2 ∧ ∃ records file,
      Saves hummingHall (hummingPair true false).objects records ∧
      (pairUpdate .patient true false).2.1.read innerTarget.path = .ok file ∧
      (Source.ofFile .blocks file).content = Cache.encode innerTarget.hash records) ∧
    (pairUpdate (.late 2) true false).1 = .error .cancelled ∧
    (pairUpdate (.late 2) true false).2.1.contains innerTarget.path = false ∧
    (pairUpdate .patient false false).1 = .error (.cache (.notReady "D")) ∧
    (pairUpdate .patient false false).2.1.contains innerTarget.path = false ∧
    (pairUpdate .patient true true).2.1 = (hummingPair true true).files := by
  have atomic (report : Reporter) (ready kept : Bool) :=
    @updates_are_atomic _ _ report innerTarget true (hummingPair ready kept)
      (fun _ => Packing.blocks_lawful) (writable_hummingPair ready kept).1
      (writable_hummingPair ready kept).2 []
  have unkept (ready : Bool) : ¬ (hummingPair ready false).files.Keeps innerTarget.path ∧
      (hummingPair ready false).files.contains innerTarget.path = true := by
    refine ⟨FileSystem.not_keeps_of_kept rfl, ?_⟩
    revert ready
    decide +kernel
  obtain ⟨written, declined, unloaded⟩ : (pairUpdate .patient true false).1 = .ok 2 ∧
      (pairUpdate (.late 2) true false).1 = .error .cancelled ∧
      (pairUpdate .patient false false).1 = .error (.cache (.notReady "D")) := by
    decide +kernel
  obtain ⟨-, whole, -⟩ := atomic .patient true false
  obtain ⟨-, -, left, -⟩ := atomic (.late 2) true false
  obtain ⟨-, -, none, -⟩ := atomic .patient false false
  obtain ⟨-, -, -, stays⟩ := atomic .patient true true
  obtain ⟨-, -, records, file, saves, stored, -, content⟩ := whole 2 written
  have nothing (ready : Bool) (no : (hummingPair ready false).files.Keeps innerTarget.path ∨
      (hummingPair ready false).files.contains innerTarget.path = false) : False := by
    rcases no with keeps | gone
    · exact (unkept ready).1 keeps
    · exact Bool.false_ne_true (gone.symm.trans (unkept ready).2)
  have keeps : (hummingPair true true).files.Keeps innerTarget.path :=
    ⟨["organs", "cache"], Cache.encode innerTarget.hash [List.replicate 8 0], by decide +kernel⟩
  refine ⟨⟨written, records, file, saves, stored, congrArg Source.content content⟩, declined,
    ?_, unloaded, ?_, (stays keeps).2.1⟩
  · rw [Bool.eq_false_iff]
    exact fun there => nothing true (left _ declined there).2
  · rw [Bool.eq_false_iff]
    exact fun there => nothing false (none _ unloaded there).2

/-- An update may fail though nothing is wrong with the objects, the reporter and the path, and then
the old cache is still there: if the system keeps it. -/
theorem keptPair_withstands :
    let stage := hummingPair true true
    let (result, files, _) := pairUpdate .patient true true
    stage.files.isDirectory innerTarget.path = false ∧ stage.files.Writable innerTarget.path ∧
    (∃ records, Saves stage.arena stage.objects records) ∧ (∀ trace, Reporter.patient trace = true) ∧
    result = .error (.cache .file) ∧ files.contains innerTarget.path = true := by
  have written : (pairUpdate .patient true false).1 = .ok 2 := by decide +kernel
  obtain ⟨records, saves, -⟩ := updateCache_eq_ok (Prod.ext written rfl :
    updateCache .patient [] innerTarget true (hummingPair true false) = (.ok 2, _, _))
  obtain ⟨free, writable⟩ := writable_hummingPair true true
  exact ⟨free, writable, ⟨records, saves⟩, fun _ => rfl, by decide +kernel, by decide +kernel⟩

end Windchest
