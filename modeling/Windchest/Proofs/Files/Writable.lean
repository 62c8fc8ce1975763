/-
# Windchest.Proofs.Files.Writable -- paths that a file can be written to

The directories above such a path are there or can be made, and no directory lies at the
path itself.  A file that lies there already is not in the way of these directories, so the
path can still be written to when the file is gone; and the file can be removed unless the
system keeps it (`Writable.removeFile`).
-/
import Windchest.Proofs.Files.System

namespace Windchest.FileSystem

set_option autoImplicit false

variable {fs fs' : FileSystem} {path : String} {place : Place} {content : Bytes}

/-- A file can be written at the path, once the directories above it are made. -/
def Writable (fs : FileSystem) (path : String) : Prop :=
  ∃ prepared, fs.makeDirectories (Path.parent path) = .ok prepared ∧
    ∃ written, prepared.write path [] = .ok written

/-- Making directories leaves everything as it was. -/
theorem at?_of_makePath {segments : List String} {start : Place}
    (made : fs.makePath start segments = .ok fs') {q : Place} {node : FileNode}
    (found : fs.at? q = some node) : fs'.at? q = some node := by
  fun_induction makePath fs start segments with
  | case1 fs start => rwa [← Except.ok.inj made]
  | case2 fs start segment rest skipped ih => exact ih made found
  | case3 fs start rest skipped ih => exact ih made found
  | case4 fs start segment rest skipped up next there ih => exact ih made found
  | case5 => cases made
  | case6 fs start segment rest skipped up next none ih =>
      refine ih made ?_
      rwa [at?_put_of_ne]
      rintro rfl
      rw [found] at none
      cases none

/-- A way that opens up once more is there than before was too short before, and nothing else. -/
theorem follow_eq_error (more : ∀ q node, fs.at? q = some node → fs'.at? q = some node)
    {segments : List String} {start stop : Place} {why : FileError}
    (blocked : fs.follow start segments = .error why)
    (followed : fs'.follow start segments = .ok stop) : why = .notFound := by
  induction segments generalizing start with
  | nil => cases blocked
  | cons segment rest ih =>
      unfold follow at blocked followed
      cases found : fs.at? start with
      | none =>
          simp only [enter, found] at blocked
          exact (Except.error.inj blocked).symm
      | some node =>
          cases node with
          | file content =>
              simp only [enter, more _ _ found] at followed
              cases followed
          | directory =>
              simp only [enter, found, more _ _ found] at blocked followed
              split_ifs at blocked followed
              · exact ih blocked followed
              · exact ih blocked followed
              · exact ih blocked followed

/-- No file is in the way where directories could be made. -/
theorem makePath_erase {segments : List String} {start : Place}
    (made : fs.makePath start segments = .ok fs') (file : fs.at? place = some (.file content)) :
    (fs.erase place).makePath start segments = .ok (fs'.erase place) := by
  have apart {fs : FileSystem} {q : Place} (file : fs.at? place = some (.file content))
      (free : ∀ content, fs.at? q ≠ some (.file content)) : q ≠ place := by
    rintro rfl
    exact free _ file
  fun_induction makePath fs start segments with
  | case1 fs start => rw [← Except.ok.inj made, makePath]
  | case2 fs start segment rest skipped ih => rw [makePath, if_pos skipped, ih made file]
  | case3 fs start rest skipped ih => rw [makePath, if_neg skipped, if_pos rfl, ih made file]
  | case4 fs start segment rest skipped up next there ih =>
      have other := apart file (q := next) (by simp [there])
      rw [makePath, if_neg skipped, if_neg up]
      dsimp only
      rw [at?_erase_of_ne other, there]
      exact ih made file
  | case5 => cases made
  | case6 fs start segment rest skipped up next none ih =>
      have other := apart file (q := next) (by simp [none])
      have swapped : (fs.erase place).put next .directory = (fs.put next .directory).erase place := by
        simp only [put, erase, List.filter_filter, List.filter_cons, bne_iff_ne, ne_eq, other,
          not_false_eq_true, if_true, Bool.and_comm]
      rw [makePath, if_neg skipped, if_neg up]
      dsimp only
      rw [at?_erase_of_ne other, none]
      dsimp only
      rw [swapped]
      exact ih made (by rwa [at?_put_of_ne other.symm])

theorem working_makeDirectories (made : fs.makeDirectories path = .ok fs') :
    fs'.working = fs.working := working_makePath (makePath_of_makeDirectories made)

theorem at?_of_makeDirectories (made : fs.makeDirectories path = .ok fs') {q : Place}
    {node : FileNode} (found : fs.at? q = some node) : fs'.at? q = some node :=
  at?_of_makePath (makePath_of_makeDirectories made) found

theorem makeDirectories_erase (made : fs.makeDirectories path = .ok fs')
    (file : fs.at? place = some (.file content)) :
    (fs.erase place).makeDirectories path = .ok (fs'.erase place) := by
  unfold makeDirectories at made ⊢
  split at made
  · cases made
  · rename_i short
    rw [if_neg short]
    exact makePath_erase made file

/-- Whether there is a file at a path that can be written to or not, nothing is in the way of writing
to it once the file is removed, unless the system keeps the file. -/
theorem Writable.removeFile (writable : fs.Writable path) (free : fs.isDirectory path = false) :
    fs.removeFile path = .error .notFound ∨
      (∃ emptied, fs.removeFile path = .ok emptied ∧ emptied.Writable path) ∨ fs.Keeps path := by
  obtain ⟨prepared, made, opened, written⟩ := writable
  obtain ⟨place, located, above, ⟨open_, allowed⟩, rfl⟩ := write_eq_ok_iff.mp written
  cases found : fs.locate path with
  | error why =>
      left
      have missing : why = .notFound := by
        obtain ⟨named, short, followed⟩ := locate_eq_ok_iff.mp located
        rw [working_makeDirectories made] at followed
        rw [locate, if_neg (by simp [named]), if_neg (Nat.not_lt_of_le short)] at found
        exact follow_eq_error (fun _ _ => at?_of_makeDirectories made) found followed
      simp only [FileSystem.removeFile, found, missing, bind, Except.bind]
  | ok place' =>
      obtain rfl : place' = place := by
        have still := locate_of_directories (fun _ => at?_of_makeDirectories made) found
          (working_makeDirectories made)
        exact Except.ok.inj (still.symm.trans located)
      cases there : fs.at? place' with
      | none =>
          left
          simp only [FileSystem.removeFile, found, there, bind, Except.bind]
      | some node =>
          cases node with
          | directory =>
              rw [isDirectory_iff.mpr ⟨place', found, there⟩] at free
              cases free
          | file content =>
              right
              by_cases kept : place' ∈ fs.kept
              · exact .inr ⟨place', content, found, there, kept⟩
              · refine .inl ⟨fs.erase place', ?_, prepared.erase place',
                  makeDirectories_erase made there, ?_⟩
                · simp only [FileSystem.removeFile, found, there, kept, if_false, bind, Except.bind]
                · have gone : (prepared.erase place').at? place' = none :=
                    at?_erase_self (ne_nil_of_at? open_)
                  exact ⟨_, write_eq_ok_iff.mpr ⟨place',
                    locate_of_directories (directory_erase open_) located rfl,
                    directory_erase open_ _ above, ⟨by simp [gone], allowed⟩, rfl⟩⟩

end Windchest.FileSystem
