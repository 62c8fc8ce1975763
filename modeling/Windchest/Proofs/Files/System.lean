/-
# Windchest.Proofs.Files.System -- what was written to a file is read from it

Putting a file where no directory lies changes what lies there and nothing else, so every
path that led somewhere leads there still, and what was written is read
(`read_of_write`).  The same is true of removing a file, and nothing is left at its path
(`contains_of_removeFile`).  A file that cannot be removed is one that the system keeps
(`removeFile_eq_error`).

Making the directories that a path leads through puts nothing at the path itself, unless
the path also leads upwards (`contains_of_makeDirectories`), and makes none if the last of
them is there (`makeDirectories_of_isDirectory`).

None of these operations takes a directory away or leaves anything outside of one (`Tends`).
-/
import Mathlib
import Windchest.Files.System
import Windchest.Proofs.Files.Path

namespace Windchest.FileSystem

set_option autoImplicit false

variable {fs fs' : FileSystem} {place : Place} {node : FileNode} {path : String}

section Nodes

theorem lookup_filter_ne {β : Type} (nodes : List (Place × β)) {p q : Place} (other : q ≠ p) :
    (nodes.filter fun n => n.1 != p).lookup q = nodes.lookup q := by
  induction nodes with
  | nil => rfl
  | cons n rest ih =>
      obtain ⟨r, node⟩ := n
      by_cases same : r = p
      · subst same
        rw [List.filter_cons_of_neg (by simp), ih, List.lookup_cons, beq_false_of_ne other]
      · rw [List.filter_cons_of_pos (by simpa using same), List.lookup_cons, List.lookup_cons, ih]

theorem at?_put_self (inside : place ≠ []) : (fs.put place node).at? place = some node := by
  simp [at?, put, inside]

theorem at?_put_of_ne {q : Place} (other : q ≠ place) : (fs.put place node).at? q = fs.at? q := by
  rw [at?, at?, put, List.lookup_cons, beq_false_of_ne other]
  simp only [lookup_filter_ne fs.nodes other]

theorem at?_erase_self (inside : place ≠ []) : (fs.erase place).at? place = none := by
  have none (nodes : List (Place × FileNode)) :
      (nodes.filter fun n => n.1 != place).lookup place = none := by
    rw [List.lookup_eq_none_iff]
    intro n mem
    exact bne_iff_ne.mpr (Ne.symm (by simpa using (List.mem_filter.mp mem).2))
  simp [at?, erase, inside, none]

theorem at?_erase_of_ne {q : Place} (other : q ≠ place) : (fs.erase place).at? q = fs.at? q := by
  rw [at?, at?, erase]
  simp only [lookup_filter_ne fs.nodes other]

theorem at?_of_enter (entered : fs.enter place = .ok ()) : fs.at? place = some .directory := by
  unfold enter at entered
  split at entered
  · assumption
  · cases entered
  · cases entered

theorem ne_nil_of_at? (free : fs.at? place ≠ some .directory) : place ≠ [] := by
  rintro rfl
  exact free rfl

end Nodes

section Ways

/-- Where every directory stays, every way stays open. -/
theorem follow_of_directories
    (kept : ∀ q, fs.at? q = some .directory → fs'.at? q = some .directory)
    {segments : List String} {start stop : Place} (followed : fs.follow start segments = .ok stop) :
    fs'.follow start segments = .ok stop := by
  induction segments generalizing start with
  | nil => exact followed
  | cons segment rest ih =>
      unfold follow at followed ⊢
      cases entered : fs.enter start with
      | error why =>
          rw [entered] at followed
          cases followed
      | ok done =>
          have still : fs'.enter start = .ok () := by rw [enter, kept start (at?_of_enter entered)]
          rw [entered] at followed
          rw [still]
          dsimp only at followed ⊢
          split_ifs at followed ⊢
          · exact ih followed
          · exact ih followed
          · exact ih followed

/-- A path leads somewhere if it is not too long and its segments lead there. -/
theorem locate_eq_ok_iff : fs.locate path = .ok place ↔
    path.isEmpty = false ∧ path.utf8ByteSize ≤ maxPath ∧
      fs.follow (if Path.isAbsolute path then [] else fs.working)
        ((Path.segments '/' path.toList).map String.ofList) = .ok place := by
  unfold locate
  split
  · rename_i empty
    simp [empty]
  · rename_i named
    split
    · rename_i long
      simp [Nat.not_le_of_lt long]
    · rename_i short
      simp [named, Nat.le_of_not_lt short]

theorem locate_of_directories
    (kept : ∀ q, fs.at? q = some .directory → fs'.at? q = some .directory)
    (located : fs.locate path = .ok place) (working : fs'.working = fs.working) :
    fs'.locate path = .ok place := by
  obtain ⟨named, short, followed⟩ := locate_eq_ok_iff.mp located
  refine locate_eq_ok_iff.mpr ⟨named, short, ?_⟩
  rw [working]
  exact follow_of_directories kept followed

theorem ne_of_directory (free : fs.at? place ≠ some .directory) {q : Place}
    (directory : fs.at? q = some .directory) : q ≠ place := by
  rintro rfl
  exact free directory

/-- What is put where no directory lies, or removed there, takes no directory away. -/
theorem directory_put (free : fs.at? place ≠ some .directory) (q : Place)
    (directory : fs.at? q = some .directory) : (fs.put place node).at? q = some .directory := by
  rw [at?_put_of_ne (ne_of_directory free directory), directory]

@[inherit_doc directory_put]
theorem directory_erase (free : fs.at? place ≠ some .directory) (q : Place)
    (directory : fs.at? q = some .directory) : (fs.erase place).at? q = some .directory := by
  rw [at?_erase_of_ne (ne_of_directory free directory), directory]

end Ways

section Reading

theorem contains_iff :
    fs.contains path = true ↔ ∃ place node, fs.locate path = .ok place ∧ fs.at? place = some node := by
  simp only [contains, stat, bind, Except.bind]
  cases fs.locate path with
  | error why => simp [Except.toBool]
  | ok place => cases found : fs.at? place <;> simp [found, Except.toBool]

theorem isDirectory_iff :
    fs.isDirectory path = true ↔ ∃ place, fs.locate path = .ok place ∧ fs.at? place = some .directory := by
  simp only [isDirectory, stat, bind, Except.bind]
  cases fs.locate path with
  | error why => simp
  | ok place =>
      cases found : fs.at? place with
      | none => simp [found]
      | some node => cases node <;> simp [found]

theorem read_eq_ok_iff {content : Bytes} :
    fs.read path = .ok content ↔
      ∃ place, fs.locate path = .ok place ∧ fs.at? place = some (.file content) := by
  simp only [read, stat, bind, Except.bind]
  cases fs.locate path with
  | error why => simp
  | ok place =>
      cases found : fs.at? place with
      | none => simp [found]
      | some node => cases node <;> simp [found]

/-- A file that can be read is there. -/
theorem contains_of_read {content : Bytes} (stored : fs.read path = .ok content) :
    fs.contains path = true := by
  obtain ⟨place, located, found⟩ := read_eq_ok_iff.mp stored
  exact contains_iff.mpr ⟨place, _, located, found⟩

/-- What can be read is no directory. -/
theorem isDirectory_of_read {content : Bytes} (stored : fs.read path = .ok content) :
    fs.isDirectory path = false := by
  obtain ⟨place, located, found⟩ := read_eq_ok_iff.mp stored
  rw [Bool.eq_false_iff, Ne, isDirectory_iff]
  rintro ⟨_, again, directory⟩
  obtain rfl := Except.ok.inj (located.symm.trans again)
  rw [found] at directory
  cases directory

/-- Whatever lies at a path is a directory or can be read. -/
theorem isDirectory_or_read (there : fs.contains path = true) :
    fs.isDirectory path = true ∨ ∃ content, fs.read path = .ok content := by
  obtain ⟨place, node, located, found⟩ := contains_iff.mp there
  cases node with
  | directory => exact Or.inl (isDirectory_iff.mpr ⟨place, located, found⟩)
  | file content => exact Or.inr ⟨content, read_eq_ok_iff.mpr ⟨place, located, found⟩⟩

/-- A directory is there and cannot be read. -/
theorem read_of_isDirectory (directory : fs.isDirectory path = true) :
    fs.contains path = true ∧ fs.read path = .error .isADirectory := by
  obtain ⟨place, located, found⟩ := isDirectory_iff.mp directory
  refine ⟨contains_iff.mpr ⟨place, _, located, found⟩, ?_⟩
  simp [read, stat, located, found, bind, Except.bind]

theorem isDirectory_of_directories
    (kept : ∀ q, fs.at? q = some .directory → fs'.at? q = some .directory)
    (working : fs'.working = fs.working) (there : fs.isDirectory path = true) :
    fs'.isDirectory path = true := by
  obtain ⟨place, located, directory⟩ := isDirectory_iff.mp there
  exact isDirectory_iff.mpr ⟨place, locate_of_directories kept located working, kept place directory⟩

/-- A path is written to if it leads to a place in a directory, no directory lies there, and the
system allows it. -/
theorem write_eq_ok_iff {content : Bytes} : fs.write path content = .ok fs' ↔
    ∃ place, fs.locate path = .ok place ∧ fs.at? place.dropLast = some .directory ∧
      (fs.at? place ≠ some .directory ∧ place ∉ fs.closed) ∧
        fs' = fs.put place (.file content) := by
  simp only [write, bind, Except.bind]
  cases fs.locate path with
  | error why => simp
  | ok place =>
      have entered : fs.enter place.dropLast = .ok () ↔ fs.at? place.dropLast = some .directory := by
        refine ⟨at?_of_enter, fun above => ?_⟩
        rw [enter, above]
      cases enter : fs.enter place.dropLast with
      | error why => simp [← entered, enter]
      | ok done =>
          simp only [Except.ok.injEq, exists_eq_left', ← entered, enter, true_and]
          split
          · rename_i there
            simp [there]
          · rename_i free
            split
            · rename_i closed
              simp [closed]
            · rename_i allowed
              simp only [Except.ok.injEq, eq_comm (b := fs')]
              exact (and_iff_right ⟨free, allowed⟩).symm

/-- **What was written to a path is read from it.** -/
theorem read_of_write {content : Bytes} (written : fs.write path content = .ok fs') :
    fs'.read path = .ok content := by
  obtain ⟨place, located, -, ⟨free, -⟩, rfl⟩ := write_eq_ok_iff.mp written
  exact read_eq_ok_iff.mpr ⟨place, locate_of_directories (directory_put free) located rfl,
    at?_put_self (ne_nil_of_at? free)⟩

/-- A file that was written can be written again. -/
theorem write_of_write {content : Bytes} (written : fs.write path content = .ok fs') (more : Bytes) :
    ∃ fs'', fs'.write path more = .ok fs'' := by
  obtain ⟨place, located, above, ⟨free, allowed⟩, rfl⟩ := write_eq_ok_iff.mp written
  exact ⟨_, write_eq_ok_iff.mpr ⟨place, locate_of_directories (directory_put free) located rfl,
    directory_put free _ above, ⟨by simp [at?_put_self (ne_nil_of_at? free)], allowed⟩, rfl⟩⟩

theorem removeFile_eq_ok (removed : fs.removeFile path = .ok fs') :
    ∃ place content, fs.locate path = .ok place ∧ fs.at? place = some (.file content) ∧
      fs' = fs.erase place := by
  simp only [removeFile, bind, Except.bind] at removed
  cases located : fs.locate path with
  | error why =>
      rw [located] at removed
      cases removed
  | ok place =>
      rw [located] at removed
      dsimp only at removed
      split at removed
      · rename_i content found
        split at removed
        · cases removed
        · exact ⟨place, content, rfl, found, (Except.ok.inj removed).symm⟩
      · cases removed
      · cases removed

/-- **Nothing is left of a file that was removed.** -/
theorem contains_of_removeFile (removed : fs.removeFile path = .ok fs') :
    fs'.contains path = false := by
  obtain ⟨place, content, located, found, rfl⟩ := removeFile_eq_ok removed
  have free : fs.at? place ≠ some .directory := by simp [found]
  have located : (fs.erase place).locate path = .ok place :=
    locate_of_directories (directory_erase free) located rfl
  rw [Bool.eq_false_iff, Ne, contains_iff]
  rintro ⟨_, node, again, there⟩
  obtain rfl := Except.ok.inj (located.symm.trans again)
  rw [at?_erase_self (ne_nil_of_at? free)] at there
  cases there

/-- The system keeps the file that a path leads to: it refuses to remove it. -/
def Keeps (fs : FileSystem) (path : String) : Prop :=
  ∃ place content, fs.locate path = .ok place ∧ fs.at? place = some (.file content) ∧ place ∈ fs.kept

theorem not_keeps_of_kept (none : fs.kept = []) : ¬ fs.Keeps path := by
  rintro ⟨place, content, -, -, kept⟩
  rw [none] at kept
  cases kept

theorem removeFile_of_keeps (keeps : fs.Keeps path) : fs.removeFile path = .error .denied := by
  obtain ⟨place, content, located, found, kept⟩ := keeps
  simp [removeFile, located, found, kept, bind, Except.bind]

/-- The system lets go of any file that a path leads to, whatever directories there come to be. -/
def Releases (fs : FileSystem) (path : String) : Prop :=
  ∀ later : FileSystem, later.working = fs.working →
    ∀ place, later.locate path = .ok place → place ∉ fs.kept

theorem Releases.not_keeps (releases : fs.Releases path) : ¬ fs.Keeps path := by
  rintro ⟨place, content, located, -, kept⟩
  exact releases fs rfl place located kept

/-- A directory is no file that could be kept. -/
theorem Keeps.isDirectory (keeps : fs.Keeps path) : fs.isDirectory path = false := by
  obtain ⟨place, content, located, found, -⟩ := keeps
  exact isDirectory_of_read (read_eq_ok_iff.mpr ⟨place, located, found⟩)

/-- What lies at a path and cannot be removed as a file is a directory, or is kept. -/
theorem removeFile_eq_error {why : FileError} (refused : fs.removeFile path = .error why)
    (there : fs.contains path = true) :
    fs.isDirectory path = true ∧ why = .isADirectory ∨ fs.Keeps path ∧ why = .denied := by
  obtain ⟨place, node, located, found⟩ := contains_iff.mp there
  simp only [removeFile, located, found, bind, Except.bind] at refused
  cases node with
  | directory =>
      exact .inl ⟨isDirectory_iff.mpr ⟨place, located, found⟩, (Except.error.inj refused).symm⟩
  | file content =>
      dsimp only at refused
      split at refused
      · rename_i kept
        exact .inr ⟨⟨place, content, located, found, kept⟩, (Except.error.inj refused).symm⟩
      · cases refused

end Reading

section Descent

/-- Everything lies in a directory. -/
def Rooted (fs : FileSystem) : Prop := ∀ n ∈ fs.nodes, fs.at? n.1.dropLast = some .directory

instance (fs : FileSystem) : Decidable fs.Rooted := inferInstanceAs (Decidable (∀ _ ∈ _, _))

/-- The path leads nowhere but downwards. -/
def Descends (path : String) : Prop := ".." ∉ (Path.segments '/' path.toList).map String.ofList

instance (path : String) : Decidable (Descends path) := inferInstanceAs (Decidable (¬ _))

/-- The segments that lead to another place. -/
def names (segments : List String) : List String := segments.filter fun s => s ≠ "" && s ≠ "."

theorem names_cons_skip {segment : String} {rest : List String}
    (skipped : (segment = "" || segment = ".") = true) : names (segment :: rest) = names rest := by
  refine List.filter_cons_of_neg ?_
  simpa [or_iff_not_imp_left] using skipped

theorem names_cons_name {segment : String} {rest : List String}
    (name : ¬ (segment = "" || segment = ".") = true) :
    names (segment :: rest) = segment :: names rest := by
  refine List.filter_cons_of_pos ?_
  simpa [not_or] using name

theorem mem_names {segment : List Char} {row : List (List Char)} (mem : segment ∈ row)
    (tells : Path.Tells segment) : String.ofList segment ∈ names (row.map String.ofList) := by
  obtain ⟨notEmpty, notDot⟩ := tells
  refine List.mem_filter.mpr ⟨List.mem_map_of_mem mem, ?_⟩
  have other (text : String) (ne : segment ≠ text.toList) : String.ofList segment ≠ text := by
    rintro rfl
    exact ne String.toList_ofList.symm
  exact Bool.and_eq_true_iff.mpr
    ⟨decide_eq_true (other "" notEmpty), decide_eq_true (other "." notDot)⟩

theorem follow_eq {segments : List String} (down : ".." ∉ segments) {start stop : Place}
    (followed : fs.follow start segments = .ok stop) : stop = start ++ names segments := by
  induction segments generalizing start with
  | nil => simpa [names, follow, eq_comm] using followed
  | cons segment rest ih =>
      obtain ⟨other, down⟩ := not_or.mp (List.mem_cons.not.mp down)
      unfold follow at followed
      split at followed
      · cases followed
      · split_ifs at followed with skipped up
        · rw [ih down followed, names_cons_skip skipped]
        · exact absurd up.symm other
        · rw [ih down followed, names_cons_name skipped, List.append_assoc]
          rfl

/-- Directories are made at the places that the segments lead through. -/
theorem at?_makePath {segments : List String} (down : ".." ∉ segments) {start : Place}
    (made : fs.makePath start segments = .ok fs') {q : Place}
    (beyond : start.length + (names segments).length < q.length) : fs'.at? q = fs.at? q := by
  induction segments generalizing start fs with
  | nil =>
      obtain rfl := Except.ok.inj made
      rfl
  | cons segment rest ih =>
      obtain ⟨other, down⟩ := not_or.mp (List.mem_cons.not.mp down)
      unfold makePath at made
      by_cases skipped : (segment = "" || segment = ".") = true
      · rw [if_pos skipped] at made
        rw [names_cons_skip skipped] at beyond
        exact ih down made beyond
      · rw [if_neg skipped, if_neg (Ne.symm other)] at made
        rw [names_cons_name skipped, List.length_cons] at beyond
        have further : (start ++ [segment]).length + (names rest).length < q.length := by
          rw [List.length_append, List.length_singleton]
          omega
        dsimp only at made
        split at made
        · exact ih down made further
        · cases made
        · have elsewhere : q ≠ start ++ [segment] := by
            rintro rfl
            omega
          rw [ih down made further, at?_put_of_ne elsewhere]

/-- Where the directories are there, none is made. -/
theorem makePath_of_directories {segments : List String} (down : ".." ∉ segments) {start : Place}
    (there : ∀ q, q <+: start ++ names segments → fs.at? q = some .directory) :
    fs.makePath start segments = .ok fs := by
  induction segments generalizing start with
  | nil => rfl
  | cons segment rest ih =>
      obtain ⟨other, down⟩ := not_or.mp (List.mem_cons.not.mp down)
      unfold makePath
      by_cases skipped : (segment = "" || segment = ".") = true
      · rw [if_pos skipped]
        rw [names_cons_skip skipped] at there
        exact ih down there
      · rw [if_neg skipped, if_neg (Ne.symm other)]
        rw [names_cons_name skipped, List.append_cons] at there
        dsimp only
        rw [there (start ++ [segment]) (List.prefix_append _ _)]
        exact ih down there

/-- A way that ends in a directory starts in one. -/
theorem directory_of_follow {segments : List String} {start stop : Place}
    (followed : fs.follow start segments = .ok stop) (directory : fs.at? stop = some .directory) :
    fs.at? start = some .directory := by
  cases segments with
  | nil =>
      obtain rfl := Except.ok.inj followed
      exact directory
  | cons segment rest =>
      unfold follow at followed
      split at followed
      · cases followed
      · rename_i entered
        exact at?_of_enter entered

/-- Along a way that can be gone to a directory, none is made. -/
theorem makePath_of_follow {segments : List String} {start stop : Place}
    (followed : fs.follow start segments = .ok stop) (directory : fs.at? stop = some .directory) :
    fs.makePath start segments = .ok fs := by
  induction segments generalizing start with
  | nil => rfl
  | cons segment rest ih =>
      unfold follow at followed
      unfold makePath
      split at followed
      · cases followed
      · split_ifs at followed with skipped up
        · rw [if_pos skipped, ih followed]
        · rw [if_neg skipped, if_pos up, ih followed]
        · rw [if_neg skipped, if_neg up]
          dsimp only
          rw [directory_of_follow followed directory]
          exact ih followed

theorem makeDirectories_of_isDirectory (there : fs.isDirectory path = true) :
    fs.makeDirectories path = .ok fs := by
  obtain ⟨place, located, directory⟩ := isDirectory_iff.mp there
  obtain ⟨-, short, followed⟩ := locate_eq_ok_iff.mp located
  rw [makeDirectories, if_neg (Nat.not_lt_of_le short)]
  exact makePath_of_follow followed directory

/-- Removing a file leaves everything in its directory. -/
theorem Rooted.erase {content : Bytes} (rooted : fs.Rooted)
    (found : fs.at? place = some (.file content)) : (fs.erase place).Rooted := by
  intro n mem
  exact directory_erase (by simp [found]) _ (rooted n (List.mem_filter.mp mem).1)

/-- Whatever lies in a file system, the way to it leads through directories. -/
theorem Rooted.directory (rooted : fs.Rooted) {front back : Place}
    (found : fs.at? (front ++ back) = some node) (below : back ≠ []) :
    fs.at? front = some .directory := by
  induction back using List.reverseRecOn generalizing node with
  | nil => exact absurd rfl below
  | append_singleton back name ih =>
      rw [← List.append_assoc] at found
      have outer : fs.at? (front ++ back) = some .directory := by
        have mem : (front ++ back ++ [name], node) ∈ fs.nodes := by
          rw [at?, if_neg (by simp)] at found
          obtain ⟨before, behind, is, -⟩ := List.lookup_eq_some_iff.mp found
          rw [is]
          exact List.mem_append_right _ List.mem_cons_self
        simpa using rooted _ mem
      by_cases last : back = []
      · rw [last, List.append_nil] at outer
        exact outer
      · exact ih outer last

theorem working_makePath {segments : List String} {start : Place}
    (made : fs.makePath start segments = .ok fs') : fs'.working = fs.working := by
  fun_induction makePath fs start segments with
  | case1 fs start => rw [← Except.ok.inj made]
  | case2 fs start segment rest skipped ih => exact ih made
  | case3 fs start rest skipped ih => exact ih made
  | case4 fs start segment rest skipped up next found ih => exact ih made
  | case5 => cases made
  | case6 fs start segment rest skipped up next none ih => exact ih made

theorem makePath_of_makeDirectories (made : fs.makeDirectories path = .ok fs') :
    fs.makePath (if Path.isAbsolute path then [] else fs.working)
      ((Path.segments '/' path.toList).map String.ofList) = .ok fs' := by
  unfold makeDirectories at made
  split at made
  · cases made
  · exact made

/-- **Making the directories above a path puts nothing at the path.** -/
theorem contains_of_makeDirectories (rooted : fs.Rooted) (down : Descends path)
    (made : fs.makeDirectories (Path.parent path) = .ok fs') (there : fs'.contains path = true) :
    fs.contains path = true := by
  -- where something lies, the directories above it are there, so none was made
  suffices same : fs' = fs by rwa [same] at there
  rcases Path.parent_cases path with none | root | ⟨rest, goesOn, named, segment, mem, tells⟩
  · rw [none] at made
    exact (Except.ok.inj made).symm
  · rw [root] at made
    exact (Except.ok.inj made).symm
  · obtain ⟨start, start_is⟩ : ∃ start, (if Path.isAbsolute path then [] else fs.working) = start :=
      ⟨_, rfl⟩
    obtain ⟨outer, outer_is⟩ :
        ∃ outer, (Path.segments '/' (Path.parent path).toList).map String.ofList = outer := ⟨_, rfl⟩
    obtain ⟨inner, inner_is⟩ : ∃ inner, (Path.segments '/' rest).map String.ofList = inner := ⟨_, rfl⟩
    have segments_eq : (Path.segments '/' path.toList).map String.ofList = outer ++ inner := by
      rw [goesOn, Path.segments_append, List.map_append, outer_is, inner_is]
    rw [Descends, segments_eq] at down
    have outer_down : ".." ∉ outer := fun mem => down (List.mem_append_left _ mem)
    have made : fs.makePath start outer = .ok fs' := by
      have path_made := makePath_of_makeDirectories made
      rw [Path.isAbsolute_parent goesOn named, start_is, outer_is] at path_made
      exact path_made
    obtain ⟨place, node, located, found⟩ := contains_iff.mp there
    have place_is : place = start ++ names outer ++ names inner := by
      obtain ⟨-, -, followed⟩ := locate_eq_ok_iff.mp located
      rw [working_makePath made, start_is, segments_eq] at followed
      rw [follow_eq down followed, names, List.filter_append, List.append_assoc]
      rfl
    have inner_names : names inner ≠ [] := List.ne_nil_of_mem (inner_is ▸ mem_names mem tells)
    have kept : fs.at? place = some node := by
      rw [← found, at?_makePath outer_down made]
      rw [place_is, List.length_append, List.length_append]
      exact Nat.lt_add_of_pos_right (List.length_pos_of_ne_nil inner_names)
    have directories (q : Place) (above : q <+: start ++ names outer) : fs.at? q = some .directory := by
      obtain ⟨between, is⟩ := above
      rw [place_is, ← is, List.append_assoc] at kept
      exact rooted.directory kept (by simp [inner_names])
    exact Except.ok.inj (made.symm.trans (makePath_of_directories outer_down directories))

end Descent

section Tending

/-- Everything lies in a directory, and the working directory is one. -/
structure Grounded (fs : FileSystem) : Prop where
  rooted : fs.Rooted
  home : fs.at? fs.working = some .directory

/-- The second file system has the directories of the first, and lies in directories if that does.
The system keeps the same places. -/
structure Tends (fs fs' : FileSystem) : Prop where
  rooted : fs.Grounded → fs'.Rooted
  directories : ∀ q, fs.at? q = some .directory → fs'.at? q = some .directory
  working : fs'.working = fs.working
  kept : fs'.kept = fs.kept

namespace Tends

variable {fs'' : FileSystem}

theorem refl (fs : FileSystem) : fs.Tends fs := ⟨Grounded.rooted, fun _ there => there, rfl, rfl⟩

theorem grounded (tends : fs.Tends fs') (grounded : fs.Grounded) : fs'.Grounded where
  rooted := tends.rooted grounded
  home := tends.working ▸ tends.directories _ grounded.home

theorem trans (first : fs.Tends fs') (second : fs'.Tends fs'') : fs.Tends fs'' where
  rooted grounded := second.rooted (first.grounded grounded)
  directories q there := second.directories q (first.directories q there)
  working := second.working.trans first.working
  kept := second.kept.trans first.kept

theorem isDirectory (tends : fs.Tends fs') (there : fs.isDirectory path = true) :
    fs'.isDirectory path = true :=
  isDirectory_of_directories tends.directories tends.working there

theorem releases (tends : fs.Tends fs') (releases : fs.Releases path) : fs'.Releases path := by
  intro later working
  rw [tends.kept]
  exact releases later (working.trans tends.working)

end Tends

theorem Rooted.dropLast (rooted : fs.Rooted) (found : fs.at? place = some node) :
    fs.at? place.dropLast = some .directory := by
  induction place using List.reverseRecOn with
  | nil => rfl
  | append_singleton front name =>
      rw [List.dropLast_concat]
      exact rooted.directory found (List.cons_ne_nil _ _)

theorem tends_put (free : fs.at? place ≠ some .directory)
    (above : fs.Grounded → fs.at? place.dropLast = some .directory) : fs.Tends (fs.put place node) where
  rooted grounded n mem := by
    rcases List.mem_cons.mp mem with rfl | kept
    · exact directory_put free _ (above grounded)
    · exact directory_put free _ (grounded.rooted n (List.mem_filter.mp kept).1)
  directories := directory_put free
  working := rfl
  kept := rfl

theorem tends_of_write {content : Bytes} (written : fs.write path content = .ok fs') : fs.Tends fs' := by
  obtain ⟨place, -, above, ⟨free, -⟩, rfl⟩ := write_eq_ok_iff.mp written
  exact tends_put free fun _ => above

theorem tends_makePath {segments : List String} {start : Place}
    (here : fs.Grounded → fs.at? start = some .directory)
    (made : fs.makePath start segments = .ok fs') : fs.Tends fs' := by
  fun_induction makePath fs start segments with
  | case1 fs start =>
      obtain rfl := Except.ok.inj made
      exact .refl fs
  | case2 fs start segment rest skipped ih => exact ih here made
  | case3 fs start rest skipped ih =>
      exact ih (fun grounded => grounded.rooted.dropLast (here grounded)) made
  | case4 fs start segment rest skipped up next found ih => exact ih (fun _ => found) made
  | case5 => cases made
  | case6 fs start segment rest skipped up next none ih =>
      have free : fs.at? next ≠ some .directory := by simp [none]
      refine (tends_put free ?_).trans (ih (fun _ => at?_put_self (ne_nil_of_at? free)) made)
      intro grounded
      rw [List.dropLast_concat]
      exact here grounded

theorem tends_of_makeDirectories (made : fs.makeDirectories path = .ok fs') : fs.Tends fs' := by
  refine tends_makePath ?_ (makePath_of_makeDirectories made)
  intro grounded
  split
  · rfl
  · exact grounded.home

theorem tends_erase {content : Bytes} (found : fs.at? place = some (.file content)) :
    fs.Tends (fs.erase place) where
  rooted grounded := grounded.rooted.erase found
  directories := directory_erase (by simp [found])
  working := rfl
  kept := rfl

end Tending

end Windchest.FileSystem
