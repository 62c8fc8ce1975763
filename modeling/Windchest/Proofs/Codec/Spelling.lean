/-
# Windchest.Proofs.Codec.Spelling -- readers take no more than they make sense of

`Reader.Spells` says that whatever bytes a reader gets, those it takes from the front
spell the value that it makes of them.  Where a value has a single spelling, its
encoding, the reader is exact (`Reader.Exact`): it keeps or refuses every bit that it
reads.  This is the converse of `Reader.Takes`.
-/
import Windchest.Proofs.Codec.Readers

namespace Windchest

set_option autoImplicit false

theorem Sample.encode_decode {bytes : Bytes} (length : bytes.length = 4) :
    (Sample.decode bytes).encode = bytes := by
  have small := Bytes.toNat_lt bytes
  rw [length] at small
  rw [Sample.decode, Sample.encode, UInt32.toNat_ofNat_of_lt' small, ← length, Bytes.ofNat_toNat]

theorem Sample.flatMap_decodeAll {bytes : Bytes} {n : Nat} (length : bytes.length = 4 * n) :
    (Sample.decodeAll bytes).flatMap Sample.encode = bytes := by
  induction n generalizing bytes with
  | zero =>
      rw [List.eq_nil_of_length_eq_zero length]
      rfl
  | succ n ih =>
      match bytes, length with
      | [], length => simp at length
      | [a], length => simp at length; omega
      | [a, b], length => simp at length; omega
      | [a, b, c], length => simp at length; omega
      | a :: b :: c :: d :: rest, length =>
          simp only [List.length_cons] at length
          have first : (Sample.decode [a, b, c, d]).encode = [a, b, c, d] := Sample.encode_decode rfl
          rw [Sample.decodeAll, List.flatMap_cons, ih (by omega), first]
          rfl

namespace Reader

variable {α β : Type}

/-- The bytes that the reader takes from the front spell the value that it makes of them. -/
def Spells (read : Reader α) (spelling : α → Bytes → Prop) : Prop :=
  ∀ ⦃s : Bytes⦄ ⦃a : α⦄ ⦃t : Bytes⦄, read s = .ok a t → ∃ front, spelling a front ∧ s = front ++ t

/-- The reader takes the encoding of the value that it makes of it. -/
def Exact (read : Reader α) (encode : α → Bytes) : Prop :=
  ∀ ⦃s : Bytes⦄ ⦃a : α⦄ ⦃t : Bytes⦄, read s = .ok a t → s = encode a ++ t

/-- The bytes of a number are those that are written for it. -/
theorem number_eq_ok {width n : Nat} {s t : Bytes} (done : number width s = .ok n t) :
    n < 256 ^ width ∧ s = Bytes.ofNat width n ++ t := by
  obtain ⟨bytes, u, taken, done⟩ := bind_eq_ok.mp done
  obtain ⟨rfl, rfl⟩ := pure_eq_ok.mp done
  obtain ⟨length, content⟩ := take_eq_ok taken
  have small := Bytes.toNat_lt bytes
  rw [length] at small
  exact ⟨small, by rw [content, ← length, Bytes.ofNat_toNat]⟩

theorem exact_u8 : Exact u8 fun value => (Field.u8 value).encode := by
  intro s value t done
  obtain ⟨n, u, counted, done⟩ := bind_eq_ok.mp done
  obtain ⟨rfl, rfl⟩ := pure_eq_ok.mp done
  obtain ⟨small, rfl⟩ := number_eq_ok counted
  simp [Bytes.ofNat, Field.encode, Nat.mod_eq_of_lt (show n < 256 from small)]

theorem exact_bool : Exact bool fun value => (Field.bool value).encode := by
  intro s value t done
  obtain ⟨byte, u, read, rest⟩ := bind_eq_ok.mp done
  rw [exact_u8 read]
  split at rest
  · rename_i zero
    obtain ⟨rfl, rfl⟩ := pure_eq_ok.mp rest
    rw [zero]
    rfl
  · split at rest
    · rename_i one
      obtain ⟨rfl, rfl⟩ := pure_eq_ok.mp rest
      rw [one]
      rfl
    · exact absurd rest (malformed_ne_ok _ _ _ _)

theorem exact_u16 : Exact u16 fun value => (Field.u16 value).encode := by
  intro s value t done
  obtain ⟨n, u, counted, done⟩ := bind_eq_ok.mp done
  obtain ⟨rfl, rfl⟩ := pure_eq_ok.mp done
  obtain ⟨small, rfl⟩ := number_eq_ok counted
  simp only [Field.encode, UInt16.toNat_ofNat_of_lt' (show n < UInt16.size from small)]

theorem exact_u32 : Exact u32 fun value => (Field.u32 value).encode := by
  intro s value t done
  obtain ⟨n, u, counted, done⟩ := bind_eq_ok.mp done
  obtain ⟨rfl, rfl⟩ := pure_eq_ok.mp done
  obtain ⟨small, rfl⟩ := number_eq_ok counted
  simp only [Field.encode, UInt32.toNat_ofNat_of_lt' (show n < UInt32.size from small)]

theorem exact_u64 : Exact u64 fun value => (Field.u64 value).encode := by
  intro s value t done
  obtain ⟨n, u, counted, done⟩ := bind_eq_ok.mp done
  obtain ⟨rfl, rfl⟩ := pure_eq_ok.mp done
  obtain ⟨small, rfl⟩ := number_eq_ok counted
  simp only [Field.encode, UInt64.toNat_ofNat_of_lt' (show n < UInt64.size from small)]

theorem exact_sample : Exact sample fun value => (Field.number value).encode := by
  intro s value t done
  obtain ⟨bytes, u, taken, done⟩ := bind_eq_ok.mp done
  obtain ⟨rfl, rfl⟩ := pure_eq_ok.mp done
  obtain ⟨length, rfl⟩ := take_eq_ok taken
  simp only [Field.encode, Sample.encode_decode length]

/-- A count is written as it was read. -/
theorem exact_count (size : Nat) : Exact (count size) fun n => (Field.u32 (.ofNat n)).encode := by
  intro s n t done
  obtain ⟨value, u, read, rest⟩ := bind_eq_ok.mp done
  obtain ⟨left, v, same, rest⟩ := bind_eq_ok.mp rest
  obtain ⟨-, rfl⟩ := pure_eq_ok.mp same
  split at rest
  · obtain ⟨rfl, rfl⟩ := pure_eq_ok.mp rest
    rw [exact_u32 read]
    simp only [UInt32.ofNat_toNat]
  · exact absurd rest (malformed_ne_ok _ _ _ _)

theorem exact_samplesLength : Exact samplesLength (Bytes.ofNat 8) := by
  intro s n t done
  obtain ⟨value, u, read, rest⟩ := bind_eq_ok.mp done
  obtain ⟨left, v, same, rest⟩ := bind_eq_ok.mp rest
  obtain ⟨-, rfl⟩ := pure_eq_ok.mp same
  split at rest
  · obtain ⟨rfl, rfl⟩ := pure_eq_ok.mp rest
    exact exact_u64 read
  · simp [throw, throwThe, MonadExceptOf.throw, EStateM.throw] at rest

theorem exact_samples (n : Nat) : Exact (samples n) fun values => values.flatMap Sample.encode := by
  intro s values t done
  obtain ⟨bytes, u, taken, done⟩ := bind_eq_ok.mp done
  obtain ⟨rfl, rfl⟩ := pure_eq_ok.mp done
  obtain ⟨length, rfl⟩ := take_eq_ok taken
  simp only [Sample.flatMap_decodeAll length]

/-- A reader that runs several times takes a spelling of each value, one behind the other. -/
theorem spells_times {read : Reader α} {spelling : α → Bytes → Prop} (spells : Spells read spelling)
    (n : Nat) : Spells (times read n) fun values front =>
      ∃ fronts, List.Forall₂ spelling values fronts ∧ front = fronts.flatten := by
  induction n with
  | zero =>
      intro s values t done
      obtain ⟨rfl, rfl⟩ := pure_eq_ok.mp done
      exact ⟨[], ⟨[], .nil, rfl⟩, rfl⟩
  | succ n ih =>
      intro s values t done
      obtain ⟨a, u, first, done⟩ := bind_eq_ok.mp done
      obtain ⟨rest, v, others, done⟩ := bind_eq_ok.mp done
      obtain ⟨rfl, rfl⟩ := pure_eq_ok.mp done
      obtain ⟨front, spelled, rfl⟩ := spells first
      obtain ⟨_, ⟨fronts, each, rfl⟩, rfl⟩ := ih others
      refine ⟨(front :: fronts).flatten, ⟨front :: fronts, .cons spelled each, rfl⟩, ?_⟩
      rw [List.flatten_cons, List.append_assoc]

theorem exact_times {read : Reader α} {encode : α → Bytes} (exact : Exact read encode) (n : Nat) :
    Exact (times read n) fun values => values.flatMap encode := by
  intro s values t done
  have spells : Spells read fun a front => front = encode a :=
    fun _ _ _ done => ⟨_, rfl, exact done⟩
  obtain ⟨_, ⟨fronts, each, rfl⟩, rfl⟩ := spells_times spells n done
  obtain rfl : fronts = values.map encode := by
    clear done
    induction each with
    | nil => rfl
    | cons first _ ih => rw [List.map_cons, first, ih]
  rfl

end Reader

end Windchest
