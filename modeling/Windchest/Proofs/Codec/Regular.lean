/-
# Windchest.Proofs.Codec.Regular -- readers go forward, and say what is wrong

A reader never goes back: whether it succeeds or fails, what it leaves unread is an end
of what was unread before.  And the readers of fields fail only with an error that tells
what is wrong with the record; a fault they leave to those who compute with the numbers.

`Keeps` is the shape of both facts, for anything that has a state and may fail.  It is
closed under sequencing (`keeps_bind`) and checks (`keeps_ite`), so a reader inherits it
from the readers it is made of.
-/
import Windchest.Proofs.Codec.Readers

namespace Windchest

set_option autoImplicit false

/-- Whether it succeeds or fails, the computation moves its state only as `moves` says, and it fails
only as `may` says. -/
structure Keeps {ε σ α : Type} (moves : σ → σ → Prop) (may : ε → Prop) (m : EStateM ε σ α) : Prop where
  ok : ∀ {s a t}, m s = .ok a t → moves s t
  error : ∀ {s e t}, m s = .error e t → moves s t ∧ may e

section Keeps

variable {ε σ α β : Type} {moves : σ → σ → Prop} {may : ε → Prop}

theorem Keeps.mono {more : ε → Prop} {m : EStateM ε σ α} (keeps : Keeps moves may m)
    (weaker : ∀ e, may e → more e) : Keeps moves more m where
  ok := keeps.ok
  error failed := ⟨(keeps.error failed).1, weaker _ (keeps.error failed).2⟩

theorem keeps_ite {c : Prop} [Decidable c] {yes no : EStateM ε σ α} (here : Keeps moves may yes)
    (there : Keeps moves may no) : Keeps moves may (if c then yes else no) := by
  split
  · exact here
  · exact there

theorem Keeps.map {m : EStateM ε σ α} {f : α → β} (keeps : Keeps moves may m) :
    Keeps moves may (f <$> m) := by
  constructor
  · intro s b t done
    obtain ⟨a, done, -⟩ := map_eq_ok.mp done
    exact keeps.ok done
  · intro s e t failed
    simp only [Functor.map, EStateM.map] at failed
    split at failed
    · cases failed
    · rename_i is
      cases failed
      exact keeps.error is

variable [IsPreorder σ moves]

theorem keeps_pure (a : α) : Keeps moves may (pure a : EStateM ε σ α) := by
  constructor
  · intro s b t done
    obtain ⟨-, rfl⟩ := pure_eq_ok.mp done
    exact refl_of moves s
  · intro s e t failed
    cases failed

theorem keeps_throw {e : ε} (allowed : may e) : Keeps moves may (throw e : EStateM ε σ α) := by
  constructor
  · intro s a t done
    cases done
  · intro s e' t failed
    cases failed
    exact ⟨refl_of moves s, allowed⟩

theorem keeps_bind {first : EStateM ε σ α} {second : α → EStateM ε σ β}
    (here : Keeps moves may first) (there : ∀ a, Keeps moves may (second a)) :
    Keeps moves may (first >>= second) := by
  constructor
  · intro s b t done
    obtain ⟨a, u, first, second⟩ := bind_eq_ok.mp done
    exact trans_of moves (here.ok first) ((there a).ok second)
  · intro s e t failed
    rcases bind_eq_error.mp failed with failed | ⟨a, u, first, failed⟩
    · exact here.error failed
    · obtain ⟨moved, allowed⟩ := (there a).error failed
      exact ⟨trans_of moves (here.ok first) moved, allowed⟩

end Keeps

namespace Reader

variable {α β : Type}

/-- What is left unread is an end of what was unread before. -/
def Leaves (s t : Bytes) : Prop := t <:+ s

instance : IsPreorder Bytes Leaves where
  refl s := List.suffix_refl s
  trans _ _ _ first second := second.trans first

theorem Leaves.length_le {s t : Bytes} (leaves : Leaves s t) : t.length ≤ s.length :=
  List.IsSuffix.length_le leaves

/-- A failure that says what is wrong with a record. -/
def IsError (failure : Failure CacheError) : Prop := ∃ why, failure = .error why

/-- The reader goes forward only, and says what is wrong where it fails. -/
abbrev Regular (read : Reader α) : Prop := Keeps Leaves IsError read

/-- The reader goes forward only, however it ends. -/
abbrev Recedes (read : Reader α) : Prop := Keeps Leaves (fun _ => True) read

theorem Regular.recedes {read : Reader α} (regular : Regular read) : Recedes read :=
  Keeps.mono regular fun _ _ => trivial

/-- A regular reader ends in no fault. -/
theorem Regular.ne_fault {read : Reader α} (regular : Regular read) {s t : Bytes} {f : Fault} :
    read s ≠ .error (.fault f) t := by
  intro failed
  obtain ⟨-, why, no⟩ := Keeps.error regular failed
  cases no

/-- A fault comes from the reader that may have one. -/
theorem Regular.bind_eq_fault {first : Reader α} {second : α → Reader β} (regular : Regular first)
    {s t : Bytes} {f : Fault} : (first >>= second) s = .error (.fault f) t ↔
      ∃ a u, first s = .ok a u ∧ second a u = .error (.fault f) t := by
  rw [bind_eq_error]
  constructor
  · rintro (no | later)
    · exact absurd no regular.ne_fault
    · exact later
  · exact Or.inr

theorem regular_malformed (why : Malformation) : Regular (malformed why : Reader α) :=
  keeps_throw ⟨_, rfl⟩

/-- A check that fails because the record is malformed may stand in front of a regular reader. -/
theorem regular_checked {bad : Prop} [Decidable bad] {why : Malformation} {jump : α → Reader β}
    {next : Reader β} (regular : Regular next) :
    Regular (if bad then malformed why >>= jump else next) :=
  keeps_ite (regular_malformed (α := β) why) regular

theorem regular_remaining : Regular remaining := by
  constructor
  · intro s n t done
    cases done
    exact refl_of Leaves s
  · intro s e t failed
    cases failed

theorem regular_take (n : Nat) : Regular (take n) := by
  constructor
  · intro s bytes t taken
    rw [(take_eq_ok taken).2]
    exact List.suffix_append _ _
  · intro s e t failed
    obtain no | ⟨unread, u, same, failed⟩ := bind_eq_error.mp failed
    · cases no
    · cases same
      split at failed
      · cases failed
      · cases failed
        exact ⟨refl_of Leaves s, _, rfl⟩

theorem regular_number (width : Nat) : Regular (number width) :=
  keeps_bind (regular_take width) fun _ => keeps_pure _

theorem regular_u8 : Regular u8 := keeps_bind (regular_number 1) fun _ => keeps_pure _

theorem regular_u16 : Regular u16 := keeps_bind (regular_number 2) fun _ => keeps_pure _

theorem regular_u32 : Regular u32 := keeps_bind (regular_number 4) fun _ => keeps_pure _

theorem regular_u64 : Regular u64 := keeps_bind (regular_number 8) fun _ => keeps_pure _

theorem regular_sample : Regular sample := keeps_bind (regular_take 4) fun _ => keeps_pure _

theorem regular_bool : Regular bool := by
  refine keeps_bind regular_u8 ?_
  intro value
  exact keeps_ite (keeps_pure _) (keeps_ite (keeps_pure _) (regular_malformed _))

theorem regular_count (size : Nat) : Regular (count size) := by
  refine keeps_bind regular_u32 fun n => keeps_bind regular_remaining fun left => ?_
  exact keeps_ite (keeps_pure _) (regular_malformed _)

theorem regular_samplesLength : Regular samplesLength := by
  refine keeps_bind regular_u64 fun n => keeps_bind regular_remaining fun left => ?_
  exact keeps_ite (keeps_pure _) (keeps_throw ⟨_, rfl⟩)

theorem regular_samples (n : Nat) : Regular (samples n) :=
  keeps_bind (regular_take (4 * n)) fun _ => keeps_pure _

theorem regular_finish : Regular finish :=
  keeps_bind regular_remaining fun _ => keeps_ite (keeps_pure _) (regular_malformed _)

theorem regular_times {read : Reader α} (regular : Regular read) (n : Nat) :
    Regular (times read n) := by
  induction n with
  | zero => exact keeps_pure []
  | succ n ih => exact keeps_bind regular fun _ => keeps_bind ih fun _ => keeps_pure _

theorem regular_field (kind : FieldKind) : Regular (field kind) := by
  cases kind with
  | u8 => exact keeps_bind regular_u8 fun _ => keeps_pure _
  | bool => exact keeps_bind regular_bool fun _ => keeps_pure _
  | u16 => exact keeps_bind regular_u16 fun _ => keeps_pure _
  | u32 => exact keeps_bind regular_u32 fun _ => keeps_pure _
  | u64 => exact keeps_bind regular_u64 fun _ => keeps_pure _
  | number => exact keeps_bind regular_sample fun _ => keeps_pure _
  | samples =>
      exact keeps_bind regular_samplesLength fun n =>
        keeps_bind (regular_samples n) fun _ => keeps_pure _

theorem recedes_inWord (n : Nat) (why : Fault) : Recedes (inWord n why) :=
  keeps_ite (keeps_pure _) (keeps_throw trivial)

end Reader

/-! ## The parts of a section

The checks of sizes in them may end in a fault; all else is read by regular readers. -/

theorem Loop.regular_read : Reader.Regular Loop.read :=
  keeps_bind Reader.regular_u32 fun _ =>
    keeps_bind Reader.regular_u32 fun _ => keeps_pure _

theorem EndPoint.regular_read : Reader.Regular EndPoint.read :=
  keeps_bind Reader.regular_u64 fun _ => keeps_bind Reader.regular_bool fun _ =>
    keeps_bind Reader.regular_u64 fun _ => keeps_bind Reader.regular_u64 fun _ =>
      keeps_bind Reader.regular_u64 fun _ => keeps_pure _

theorem Alignment.regular_read (frames : Nat) : Reader.Regular (Alignment.read frames) := by
  refine keeps_bind (Reader.regular_times ?_ _) fun _ => keeps_pure _
  exact keeps_bind Reader.regular_u32 fun _ =>
    keeps_ite (keeps_pure _) (Reader.regular_malformed _)

theorem Shape.recedes_read : Reader.Recedes Shape.read := by
  refine keeps_bind Reader.regular_u32.recedes fun rate => ?_
  refine keeps_bind Reader.regular_u16.recedes fun channels => ?_
  refine keeps_bind Reader.regular_u64.recedes fun frames => ?_
  refine keeps_bind Reader.regular_sample.recedes fun peak => ?_
  refine keeps_ite (Reader.regular_malformed (α := Shape) _).recedes ?_
  refine keeps_bind (Reader.regular_count 8).recedes fun loopCount => ?_
  refine keeps_bind (Reader.regular_times Loop.regular_read _).recedes fun loops => ?_
  split
  · exact (Reader.regular_malformed _).recedes
  · refine keeps_bind (Reader.regular_count _).recedes fun endCount => ?_
    refine keeps_bind (Reader.regular_times EndPoint.regular_read _).recedes fun ends => ?_
    have back : Reader.Recedes (do
        if ends ≠ endPoints frames.toNat loops then Reader.malformed .endPoints
        let alignment ← if ← Reader.bool then some <$> Alignment.read frames.toNat else pure none
        return ({ rate, channels, frames := frames.toNat, peak, loops, ends, alignment } : Shape)) := by
      refine (Reader.regular_checked ?_).recedes
      refine keeps_bind Reader.regular_bool fun aligned => ?_
      refine keeps_ite ?_ (keeps_bind (keeps_pure _) fun _ => keeps_pure _)
      exact keeps_bind (Alignment.regular_read _).map fun _ => keeps_pure _
    exact keeps_ite back (keeps_bind (Reader.recedes_inWord _ _) fun _ => back)

theorem Draft.recedes_read : Reader.Recedes Draft.read := by
  refine keeps_bind Shape.recedes_read fun shape => ?_
  refine keeps_bind Reader.regular_samplesLength.recedes fun stored => ?_
  refine keeps_bind (Reader.recedes_inWord _ _) fun _ => ?_
  refine keeps_bind (Reader.recedes_inWord _ _) fun _ => ?_
  refine (Reader.regular_checked ?_).recedes
  exact keeps_bind (Reader.regular_samples stored) fun _ => keeps_pure _

end Windchest
