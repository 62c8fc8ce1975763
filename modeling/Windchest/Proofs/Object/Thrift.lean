/-
# Windchest.Proofs.Object.Thrift -- a record claims no more memory than it has bytes

The counts and lengths in a record are any numbers of 32 and 64 bits, and a section asks for
its block before its samples are copied.  What keeps a damaged record from filling the arena
is that a number is granted only if so many bytes are left of the record
(`within_of_count`, `within_of_samplesLength`), and that the bytes which a block stands for are
then read.  So what was asked for and what is unread never add up to more than the record
(`Intake.Spends`), section after section.

`Plan.course` are the arenas that carrying out a plan passes through.  In none of them more
bytes are reserved for a record than the record is long, and where there is room for that many
a restored object is not short of memory (`record_bounds_memory`).
-/
import Windchest.Object.Basic
import Windchest.Proofs.Codec.Intake
import Windchest.Proofs.Codec.Regular
import Windchest.Proofs.Object.Pipe
import Windchest.Proofs.Section.RoundTrip

namespace Windchest

set_option autoImplicit false

/-! ## Numbers that a record may tell -/

namespace Reader

/-- The largest word stands for what is more than that, and it is not left behind a number. -/
theorem within_of_saturated {needed left : Nat} (small : left < maxWord)
    (within : min needed maxWord ≤ left) : needed ≤ left := by
  omega

/-- In a record that is in memory, no count is granted that the bytes behind it cannot hold. -/
theorem within_of_count {n size : Nat} {s t : Bytes} (real : s.length ≤ maxWord)
    (done : count size s = .ok n t) : n * max size 1 ≤ t.length ∧ t.length ≤ maxWord := by
  obtain ⟨value, u, read, done⟩ := bind_eq_ok.mp done
  obtain ⟨left, v, same, done⟩ := bind_eq_ok.mp done
  obtain ⟨rfl, rfl⟩ := pure_eq_ok.mp same
  have whole : s.length = 4 + u.length := by
    rw [exact_u32 read]
    simp [Field.encode]
  split at done
  · rename_i within
    obtain ⟨rfl, rfl⟩ := pure_eq_ok.mp done
    exact ⟨within_of_saturated (by omega) within, by omega⟩
  · exact absurd done (malformed_ne_ok _ _ _ _)

/-- In a record that is in memory, no length is granted that the bytes behind it cannot hold. -/
theorem within_of_samplesLength {n : Nat} {s t : Bytes} (real : s.length ≤ maxWord)
    (done : samplesLength s = .ok n t) : 4 * n ≤ t.length ∧ t.length ≤ maxWord := by
  obtain ⟨value, u, read, done⟩ := bind_eq_ok.mp done
  obtain ⟨left, v, same, done⟩ := bind_eq_ok.mp done
  obtain ⟨rfl, rfl⟩ := pure_eq_ok.mp same
  have whole : s.length = 8 + u.length := by
    rw [exact_u64 read]
    simp [Field.encode]
  split at done
  · rename_i within
    obtain ⟨rfl, rfl⟩ := pure_eq_ok.mp done
    exact ⟨within_of_saturated (by omega) within, by omega⟩
  · cases done

end Reader

/-! ## What is asked for is paid with bytes -/

theorem Draft.length_of_read {d : Draft} {s t : Bytes} (read : Draft.read s = .ok d t) :
    t.length + 4 * d.samples.length ≤ s.length := by
  obtain ⟨-, _, ⟨shape, -, rfl⟩, rfl⟩ := Draft.read_eq_ok read
  simp only [Field.encode, List.length_append, Bytes.length_ofNat, Sample.length_flatMap]
  omega

namespace Intake

/-- The bytes that were not read yet, and those of the blocks that were asked for. -/
def weight (i : Intake) : Nat := i.unread.length + (i.demands.map Demand.bytes).sum

/-- What is asked for from one moment to another is paid with bytes that are read. -/
def Spends (before after : Intake) : Prop := after.weight ≤ before.weight

instance : IsPreorder Intake Spends where
  refl i := Nat.le_refl i.weight
  trans _ _ _ first second := Nat.le_trans second first

/-- However reading ends, all that it has asked for is paid. -/
abbrev Thrifty {α : Type} (read : IntakeM α) : Prop := Keeps Spends (fun _ => True) read

theorem thrifty_lift {α : Type} {read : Reader α} (recedes : Reader.Recedes read) :
    Thrifty (lift read) := by
  constructor
  · intro i a j done
    obtain ⟨done, same⟩ := lift_eq_ok done
    have fewer := (recedes.ok done).length_le
    simp only [Spends, weight, same]
    omega
  · intro i e j failed
    unfold lift at failed
    split at failed
    · cases failed
    · rename_i is
      cases failed
      have fewer := (recedes.error is).1.length_le
      refine ⟨?_, trivial⟩
      simp only [Spends, weight]
      omega

theorem thrifty_malformed {α : Type} (why : Malformation) : Thrifty (malformed why : IntakeM α) :=
  keeps_throw trivial

/-- The block of a section is paid with the samples that were read for it. -/
theorem thrifty_draft : Thrifty draft := by
  constructor
  · intro i _ j done
    obtain ⟨d, k, read, done⟩ := bind_eq_ok.mp done
    obtain ⟨_, _, asked, done⟩ := bind_eq_ok.mp done
    obtain ⟨rfl, rfl⟩ := pure_eq_ok.mp done
    obtain ⟨found, same⟩ := lift_eq_ok read
    cases asked
    have paid := Draft.length_of_read found
    have block : Arena.bytesFor d.samples.length ≤ 4 * d.samples.length := Nat.min_le_left _ _
    simp only [Spends, weight, same, List.map_append, List.map_cons, List.map_nil, List.sum_append,
      List.sum_cons, List.sum_nil, Demand.bytes]
    omega
  · intro i e j failed
    rcases bind_eq_error.mp failed with failed | ⟨d, k, -, no⟩
    · exact (thrifty_lift Draft.recedes_read).error failed
    · cases no

theorem thrifty_drafts (n : Nat) : Thrifty (drafts n) := by
  induction n with
  | zero => exact keeps_pure []
  | succ n ih => exact keeps_bind thrifty_draft fun _ => keeps_bind ih fun _ => keeps_pure _

end Intake

theorem Pipe.thrifty_read (p : Pipe) : Intake.Thrifty p.read := by
  have counted : Intake.Thrifty (Intake.lift (Reader.count 1)) :=
    Intake.thrifty_lift (Reader.regular_count 1).recedes
  refine keeps_bind counted fun n => ?_
  refine keeps_ite (Intake.thrifty_malformed (α := List BlockId → Pipe) _) ?_
  refine keeps_bind (Intake.thrifty_drafts n) fun attacks => keeps_bind counted fun m => ?_
  refine keeps_ite (Intake.thrifty_malformed (α := List BlockId → Pipe) _) ?_
  refine keeps_bind (Intake.thrifty_drafts m) fun releases => ?_
  refine keeps_bind (Intake.thrifty_lift Reader.regular_finish.recedes) fun _ => ?_
  split
  · exact Intake.thrifty_malformed _
  · exact keeps_pure _

theorem Tremulant.thrifty_read (t : Tremulant) : Intake.Thrifty t.read := by
  refine keeps_bind Intake.thrifty_draft fun attack => ?_
  refine keeps_bind Intake.thrifty_draft fun release => ?_
  refine keeps_bind (Intake.thrifty_lift Reader.regular_finish.recedes) fun _ => ?_
  exact keeps_ite (Intake.thrifty_malformed (α := List BlockId → Tremulant) _) (keeps_pure _)

/-! ## The arena while an object is being restored -/

namespace Plan

variable {α ε : Type}

/-- A plan that was read thriftily asks for no more bytes than the record has. -/
theorem bytes_ofRecord {started : α} {read : IntakeM (List BlockId → α)}
    (thrifty : Intake.Thrifty read) (record : Bytes) :
    (Plan.ofRecord started read record).bytes ≤ record.length := by
  unfold ofRecord
  split
  · rename_i install i done
    have spent : i.weight ≤ record.length + 0 := thrifty.ok done
    rw [Intake.weight] at spent
    simp only [bytes]
    omega
  · rename_i why i failed
    have spent : i.weight ≤ record.length + 0 := (thrifty.error failed).1
    rw [Intake.weight] at spent
    simp only [bytes]
    omega

/-- The arenas that carrying out the rest of a plan passes through, the one it starts from first:
buffer after buffer is reserved, and then each is committed or each is dropped. -/
def courseOn (p : Plan α ε) (a : Arena) (held : List Buffer) : List Demand → List Arena
  | [] =>
    match p.verdict with
    | .error _ => held.scanl Arena.drop a
    | .ok _ => held.scanl (fun a b => (a.commit b).2) a
  | d :: rest =>
    match a.place d.contents with
    | (.granted b, next) => a :: p.courseOn next (held ++ [b]) rest
    | (_, next) => a :: held.scanl Arena.drop next

/-- The arenas that carrying out a plan passes through. -/
def course (p : Plan α ε) (a : Arena) : List Arena := p.courseOn a [] p.demands

theorem commitAll_eq_foldl (a : Arena) (held : List Buffer) :
    (a.commitAll held).2 = held.foldl (fun a b => (a.commit b).2) a := by
  induction held generalizing a with
  | nil => rfl
  | cons b rest ih => exact ih _

/-- The course of a plan ends where carrying it out ends. -/
theorem getLast?_courseOn (p : Plan α ε) (a : Arena) (held : List Buffer) (rest : List Demand) :
    (p.courseOn a held rest).getLast? = some (p.carryOn a held rest).arena := by
  induction rest generalizing a held with
  | nil =>
      cases verdict : p.verdict with
      | error why => simp only [courseOn, carryOn, verdict, List.getLast?_scanl, Arena.dropAll]
      | ok install =>
          simp only [courseOn, carryOn, verdict, List.getLast?_scanl, commitAll_eq_foldl]
  | cons d rest ih =>
      rcases a.place_cases d with ⟨-, placed⟩ | ⟨-, -, placed⟩ | ⟨-, -, placed⟩ <;>
        simp only [courseOn, carryOn, placed, List.getLast?_cons]
      · simp [List.getLast?_scanl, Arena.dropAll]
      · simp [ih]
      · simp [List.getLast?_scanl, Arena.dropAll]

theorem used_of_mem_scanl {step : Arena → Buffer → Arena} (less : ∀ a b, (step a b).used ≤ a.used)
    (held : List Buffer) (a : Arena) : ∀ b ∈ held.scanl step a, b.used ≤ a.used := by
  induction held generalizing a with
  | nil => simp
  | cons first rest ih =>
      intro b mem
      rw [List.scanl_cons] at mem
      rcases List.mem_cons.mp mem with rfl | later
      · exact Nat.le_refl _
      · exact Nat.le_trans (ih (step a first) b later) (less a first)

/-- At no point there is more in use than what was at first and all that is still to be reserved. -/
theorem used_of_mem_courseOn (p : Plan α ε) (a : Arena) (held : List Buffer) (rest : List Demand) :
    ∀ b ∈ p.courseOn a held rest, b.used ≤ a.used + (rest.map Demand.bytes).sum := by
  have dropping (a : Arena) : ∀ b ∈ held.scanl Arena.drop a, b.used ≤ a.used :=
    used_of_mem_scanl (fun a b => Nat.sub_le a.used b.bytes) held a
  induction rest generalizing a held with
  | nil =>
      intro b mem
      cases verdict : p.verdict with
      | error why =>
          simp only [courseOn, verdict] at mem
          exact dropping a b mem
      | ok install =>
          simp only [courseOn, verdict] at mem
          exact used_of_mem_scanl (fun a c => Nat.le_refl (a.commit c).2.used) held a b mem
  | cons d rest ih =>
      intro b mem
      rw [List.map_cons, List.sum_cons]
      rcases a.place_cases d with ⟨-, placed⟩ | ⟨-, -, placed⟩ | ⟨-, -, placed⟩ <;>
        simp only [courseOn, placed] at mem <;> rcases List.mem_cons.mp mem with rfl | later
      any_goals exact Nat.le_add_right _ _
      · have := dropping a b later
        omega
      · have dropping' (a : Arena) : ∀ b ∈ (held ++ [d.buffer]).scanl Arena.drop a, b.used ≤ a.used :=
          used_of_mem_scanl (fun a b => Nat.sub_le a.used b.bytes) _ a
        have := ih (a.spend d.bytes) _ dropping' b later
        simp only [Arena.spend] at this
        omega
      · have := dropping _ b later
        simp only [Arena.spend] at this
        omega

end Plan

theorem Object.bytes_fromRecord (record : Bytes) (object : Object) :
    (Loadable.fromRecord record object).bytes ≤ record.length := by
  cases object with
  | pipe p => exact Plan.bytes_ofRecord p.thrifty_read record
  | tremulant t => exact Plan.bytes_ofRecord t.thrifty_read record

/-- **A record claims no more memory than its own size.**  Whatever is in a record, whatever object
is restored from it and whatever is in the arena: at every point of the restoring, no more bytes are
reserved than the record has, so with that many bytes free it is not short of memory.  And no count
or length in a record is granted, in words that do not overflow, unless what it counts is there. -/
theorem record_bounds_memory (object : Object) (record : Bytes) (a : Arena) :
    let restoring := Loadable.fromRecord record object
    (restoring.course a).getLast? = some (restoring.carryOut a).arena ∧
    (∀ b ∈ restoring.course a, b.used ≤ a.used + record.length) ∧
    (a.used + record.length ≤ a.capacity →
      ∀ why, (restoring.carryOut a).result ≠ .error (.outOfMemory why)) ∧
    ∀ {n : Nat} {s t : Bytes}, s <:+ record → record.length ≤ maxWord →
      (∀ size, Reader.count size s = .ok n t →
        n * max size 1 ≤ t.length ∧ n * max size 1 ≤ maxWord) ∧
      (Reader.samplesLength s = .ok n t → 4 * n ≤ t.length ∧ 4 * n ≤ maxWord) := by
  have bytes := object.bytes_fromRecord record
  refine ⟨Plan.getLast?_courseOn _ _ _ _, ?_, ?_, ?_⟩
  · intro b mem
    exact Nat.le_trans (Plan.used_of_mem_courseOn _ _ _ _ b mem) (Nat.add_le_add_left bytes _)
  · intro room
    exact (Plan.carryOut_room _ a (by omega)).1
  · intro n s t behind real
    have inMemory : s.length ≤ maxWord := Nat.le_trans behind.length_le real
    constructor
    · intro size done
      obtain ⟨within, word⟩ := Reader.within_of_count inMemory done
      exact ⟨within, Nat.le_trans within word⟩
    · intro done
      obtain ⟨within, word⟩ := Reader.within_of_samplesLength inMemory done
      exact ⟨within, Nat.le_trans within word⟩

/-- The record of a pipe with two silent sections, without its last byte. -/
def clippedRecord : Bytes := (Pipe.record [hush] [hush]).dropLast

/-- A pipe to be restored from the clipped record. -/
def clippedPipe : Object := .pipe ⟨"C", [⟨"c.wav", []⟩], [⟨"r.wav", []⟩], [], [], {}⟩

/-- An arena with as many bytes as the clipped record has. -/
def tightArena : Arena := { limit := clippedRecord.length }

/-- The first section is reserved, and given back when the second one turns out to be cut off.  The
record is longer than that, and so are the bytes behind its first count. -/
theorem clippedPipe_in_bounds :
    let restoring := Loadable.fromRecord clippedRecord clippedPipe
    (restoring.course tightArena).map (·.used) = [0, 68, 0] ∧
    (∀ b ∈ restoring.course tightArena, b.used ≤ tightArena.used + clippedRecord.length) ∧
    tightArena.used + clippedRecord.length ≤ tightArena.capacity ∧
    (∀ why, (restoring.carryOut tightArena).result ≠ .error (.outOfMemory why)) ∧
    clippedRecord.length ≤ maxWord ∧
    Reader.count 1 clippedRecord = .ok 1 (clippedRecord.drop 4) ∧
    1 * max 1 1 ≤ (clippedRecord.drop 4).length := by
  have used : ((Loadable.fromRecord clippedRecord clippedPipe).course tightArena).map (·.used)
      = [0, 68, 0] := by decide +kernel
  have room : tightArena.used + clippedRecord.length ≤ tightArena.capacity := by decide +kernel
  have real : clippedRecord.length ≤ maxWord := by decide +kernel
  have counted : Reader.count 1 clippedRecord = .ok 1 (clippedRecord.drop 4) := by
    have front : (Field.u32 (.ofNat 1)).encode ++ clippedRecord.drop 4 = clippedRecord := by
      decide +kernel
    have taken : Reader.count 1 ((Field.u32 (.ofNat 1)).encode ++ clippedRecord.drop 4)
        = .ok 1 (clippedRecord.drop 4) := Reader.count_of_room (by decide) (by decide +kernel)
    rwa [front] at taken
  obtain ⟨-, bounded, enough, numbers⟩ := record_bounds_memory clippedPipe clippedRecord tightArena
  obtain ⟨within, -⟩ := (numbers (List.suffix_refl clippedRecord) real).1 1 counted
  exact ⟨used, bounded, room, enough room, real, counted, within⟩

end Windchest
