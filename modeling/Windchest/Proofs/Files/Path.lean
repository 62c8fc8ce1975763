/-
# Windchest.Proofs.Files.Path -- a path goes on where the path of its directory ends

Cutting a row of segments at one of its separators cuts the row of its segments
(`segments_append`).  The directory that a path lies in is either not named, or it is
the path up to some slash, and behind this slash there is still a name
(`parent_cases`).
-/
import Mathlib
import Windchest.Files.Path

namespace Windchest.Path

set_option autoImplicit false

section Segments

variable {α : Type} [BEq α] {separator : α}

theorem segments_ne_nil (separator : α) (row : List α) : segments separator row ≠ [] := by
  cases row with
  | nil => exact List.cons_ne_nil _ _
  | cons a rest =>
      unfold segments
      split
      · exact List.cons_ne_nil _ _
      · split_ifs <;> exact List.cons_ne_nil _ _

variable [LawfulBEq α]

theorem segments_separator (row : List α) :
    segments separator (separator :: row) = [] :: segments separator row := by
  rw [segments]
  split
  · rename_i none
    exact absurd none (segments_ne_nil _ row)
  · rename_i is
    rw [if_pos (beq_self_eq_true separator), is]

/-- **A row cut at a separator has the segments of both parts.** -/
theorem segments_append (front back : List α) :
    segments separator (front ++ separator :: back)
      = segments separator front ++ segments separator back := by
  induction front with
  | nil => exact segments_separator back
  | cons a front ih =>
      obtain ⟨first, more, is⟩ := List.exists_cons_of_ne_nil (segments_ne_nil separator front)
      rw [List.cons_append, segments, segments, ih, is]
      dsimp only [List.cons_append]
      split_ifs
      · rfl
      · rfl

theorem segments_of_not_mem {row : List α} (whole : separator ∉ row) :
    segments separator row = [row] := by
  induction row with
  | nil => rfl
  | cons a rest ih =>
      obtain ⟨other, whole⟩ := not_or.mp (List.mem_cons.not.mp whole)
      rw [segments, ih whole]
      dsimp only
      rw [if_neg (by simpa using Ne.symm other)]

/-- What stands between separators, or between one and an end of the row, is a segment. -/
theorem mem_segments {front segment back : List α} (whole : separator ∉ segment)
    (before : front = [] ∨ ∃ more, front = more ++ [separator])
    (behind : back = [] ∨ ∃ more, back = separator :: more) :
    segment ∈ segments separator (front ++ (segment ++ back)) := by
  have first : segment ∈ segments separator (segment ++ back) := by
    rcases behind with rfl | ⟨more, rfl⟩
    · rw [List.append_nil, segments_of_not_mem whole]
      exact List.mem_singleton_self _
    · rw [segments_append, segments_of_not_mem whole]
      exact List.mem_cons_self
  rcases before with rfl | ⟨more, rfl⟩
  · exact first
  · rw [List.append_assoc, List.singleton_append, segments_append]
    exact List.mem_append_right _ first

end Segments

/-- What is left of a reversed path does not begin with anything that could be dropped. -/
theorem trim_ne_cons (row rest : List Char) :
    trim row ≠ '/' :: rest ∧ trim row ≠ '.' :: '/' :: rest := by
  fun_induction trim row with
  | case1 row ih => exact ih
  | case2 row ih => exact ih
  | case3 row noSlash noDot => exact ⟨noSlash rest, noDot rest⟩

/-- What is dropped from a reversed path is nothing, or it ends with a slash. -/
theorem trim_append (row : List Char) :
    ∃ lead, row = lead ++ trim row ∧ (lead = [] ∨ ∃ before, lead = before ++ ['/']) := by
  fun_induction trim row with
  | case1 rest ih =>
      obtain ⟨lead, is, rfl | ⟨before, rfl⟩⟩ := ih
      · exact ⟨['/'], congrArg _ is, .inr ⟨[], rfl⟩⟩
      · exact ⟨'/' :: (before ++ ['/']), congrArg _ is, .inr ⟨'/' :: before, rfl⟩⟩
  | case2 rest ih =>
      obtain ⟨lead, is, rfl | ⟨before, rfl⟩⟩ := ih
      · exact absurd is.symm (trim_ne_cons _ _).1
      · exact ⟨'.' :: (before ++ ['/']), congrArg _ is, .inr ⟨'.' :: before, rfl⟩⟩
  | case3 => exact ⟨[], rfl, .inl rfl⟩

/-- A segment that says something. -/
def Tells (segment : List Char) : Prop := segment ≠ [] ∧ segment ≠ ['.']

/-- A reversed path that begins with a name falls into the name, something that says nothing and
ends with a slash, and the directory. -/
theorem exists_name_of_trim {body front : List Char} (trimmed : ∀ rest, body ≠ '/' :: rest ∧ body ≠ '.' :: '/' :: rest)
    (front_is : trim (body.dropWhile (· != '/')) = front) (named : front ≠ []) :
    ∃ name junk, body = name ++ (junk ++ '/' :: front) ∧ '/' ∉ name ∧ Tells name.reverse ∧
      (junk = [] ∨ ∃ more, junk = '/' :: more) := by
  have whole : '/' ∉ body.takeWhile (· != '/') := by
    intro mem
    have := List.mem_takeWhile_imp mem
    simp at this
  obtain ⟨more, more_is⟩ : ∃ more, body.dropWhile (· != '/') = '/' :: more := by
    cases cut : body.dropWhile (· != '/') with
    | nil =>
        rw [cut] at front_is
        exact absurd front_is.symm named
    | cons c more =>
        have stopped := List.head?_dropWhile_not (· != '/') body
        rw [cut] at stopped
        have : c = '/' := by simpa using stopped
        exact ⟨more, by rw [this]⟩
  have body_is : body = body.takeWhile (· != '/') ++ '/' :: more := by
    rw [← more_is, List.takeWhile_append_dropWhile]
  obtain ⟨junk, junk_is⟩ : ∃ junk, '/' :: more = junk ++ '/' :: front := by
    rw [more_is] at front_is
    obtain ⟨lead, is, rfl | ⟨junk, rfl⟩⟩ := trim_append ('/' :: more)
    · exact absurd is.symm (trim_ne_cons _ _).1
    · exact ⟨junk, by rw [front_is] at is; simpa using is⟩
  refine ⟨body.takeWhile (· != '/'), junk, by rw [← junk_is]; exact body_is, whole, ⟨?_, ?_⟩, ?_⟩
  · intro none
    rw [List.reverse_eq_nil_iff.mp none] at body_is
    exact (trimmed _).1 body_is
  · intro dot
    rw [List.reverse_eq_iff.mp dot] at body_is
    exact (trimmed _).2 body_is
  · cases junk with
    | nil => exact .inl rfl
    | cons c junk =>
        obtain rfl : '/' = c := (List.cons.inj junk_is).1
        exact .inr ⟨junk, rfl⟩

/-- **The directory of a path is not named, or the path goes on from it with a name.** -/
theorem parent_cases (path : String) :
    parent path = "" ∨ parent path = "/" ∨
      ∃ rest, path.toList = (parent path).toList ++ '/' :: rest ∧ (parent path).toList ≠ [] ∧
        ∃ segment ∈ segments '/' rest, Tells segment := by
  obtain ⟨body, body_is⟩ : ∃ body, trim path.toList.reverse = body := ⟨_, rfl⟩
  obtain ⟨front, front_is⟩ : ∃ front, trim (body.dropWhile (· != '/')) = front := ⟨_, rfl⟩
  have parent_is : parent path
      = if ! body.isEmpty && front.isEmpty && isAbsolute path then "/" else String.ofList front.reverse := by
    rw [parent, body_is, front_is]
  by_cases empty : front = []
  · subst empty
    rw [parent_is]
    split_ifs
    · exact .inr (.inl rfl)
    · exact .inl rfl
  · have named : (parent path).toList = front.reverse := by
      rw [parent_is, if_neg (by simp [empty])]
      exact String.toList_ofList
    obtain ⟨name, junk, split, whole, tells, junk_starts⟩ :=
      exists_name_of_trim (body_is ▸ trim_ne_cons path.toList.reverse) front_is empty
    obtain ⟨lead, lead_is, lead_ends⟩ := trim_append path.toList.reverse
    refine .inr (.inr ⟨junk.reverse ++ (name.reverse ++ lead.reverse), ?_, ?_, name.reverse, ?_, tells⟩)
    · rw [named, ← List.reverse_inj, lead_is, body_is, split]
      simp
    · rw [named]
      simpa using empty
    · apply mem_segments
      · simpa using whole
      · rcases junk_starts with rfl | ⟨more, rfl⟩
        · exact .inl rfl
        · exact .inr ⟨more.reverse, List.reverse_cons⟩
      · rcases lead_ends with rfl | ⟨before, rfl⟩
        · exact .inl rfl
        · exact .inr ⟨before.reverse, by simp⟩

/-- The directory of a path starts where the path starts, if it is named. -/
theorem isAbsolute_parent {path : String} {rest : List Char}
    (goesOn : path.toList = (parent path).toList ++ rest) (named : (parent path).toList ≠ []) :
    isAbsolute (parent path) = isAbsolute path := by
  rw [Bool.eq_iff_iff, isAbsolute, isAbsolute, String.startsWith_string_iff, String.startsWith_string_iff, goesOn]
  obtain ⟨c, more, is⟩ := List.exists_cons_of_ne_nil named
  rw [is]
  simp [List.cons_prefix_cons]

end Windchest.Path
