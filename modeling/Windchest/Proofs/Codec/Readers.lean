/-
# Windchest.Proofs.Codec.Readers -- readers undo what fields encode

`Reader.Takes` says that a reader takes certain bytes from the front and makes a value
of them, whatever follows.  Each reader of a field takes the encoding of the field, and
readers in a row take the encodings in a row.  Counts and lengths look at what follows,
so their lemmas ask for enough of it.

In the other direction, `bind_eq_ok` takes the run of a reader that succeeded apart.
-/
import Windchest.Object.Loadable
import Windchest.Proofs.Codec.Words

namespace Windchest

set_option autoImplicit false

/-- Two readers in a row succeed if the first does and the second does on what it leaves. -/
theorem bind_eq_ok {ε σ α β : Type} {first : EStateM ε σ α} {second : α → EStateM ε σ β}
    {s t : σ} {b : β} :
    (first >>= second) s = .ok b t ↔ ∃ a u, first s = .ok a u ∧ second a u = .ok b t := by
  simp only [bind, EStateM.bind]
  cases first s with
  | ok a u =>
      constructor
      · intro done
        exact ⟨a, u, rfl, done⟩
      · rintro ⟨_, _, same, done⟩
        cases same
        exact done
  | error e u =>
      constructor
      · intro no
        cases no
      · rintro ⟨_, _, no, _⟩
        cases no

theorem pure_eq_ok {ε σ α : Type} {a b : α} {s t : σ} :
    (pure a : EStateM ε σ α) s = .ok b t ↔ a = b ∧ s = t := by
  simp [pure, EStateM.pure]

theorem map_eq_ok {ε σ α β : Type} {first : EStateM ε σ α} {f : α → β} {s t : σ} {b : β} :
    (f <$> first) s = .ok b t ↔ ∃ a, first s = .ok a t ∧ f a = b := by
  simp only [Functor.map, EStateM.map]
  cases first s with
  | ok a u => simp [eq_comm, and_comm]
  | error e u => simp

/-- What is read behind a check is read only if the check passes. -/
theorem checked_eq_ok {ε σ β γ : Type} {bad : Prop} [Decidable bad] {refuse : EStateM ε σ β}
    (refuses : ∀ s b t, refuse s ≠ .ok b t) {jump : β → EStateM ε σ γ} {next : EStateM ε σ γ}
    {s t : σ} {c : γ} :
    (if bad then refuse >>= jump else next) s = .ok c t ↔ ¬ bad ∧ next s = .ok c t := by
  split
  · rename_i holds
    constructor
    · intro no
      obtain ⟨_, _, no, _⟩ := bind_eq_ok.mp no
      exact absurd no (refuses _ _ _)
    · rintro ⟨passes, -⟩
      exact absurd holds passes
  · rename_i passes
    constructor
    · intro done
      exact ⟨passes, done⟩
    · rintro ⟨-, done⟩
      exact done

/-- Behind a reader that has succeeded, the next one goes on. -/
theorem bind_of_ok {ε σ α β : Type} {first : EStateM ε σ α} {second : α → EStateM ε σ β}
    {s t : σ} {a : α} (done : first s = .ok a t) : (first >>= second) s = second a t := by
  simp only [bind, EStateM.bind, done]

/-- Behind a reader that has failed, nothing is read. -/
theorem bind_of_error {ε σ α β : Type} {first : EStateM ε σ α} {second : α → EStateM ε σ β}
    {s t : σ} {e : ε} (failed : first s = .error e t) : (first >>= second) s = .error e t := by
  simp only [bind, EStateM.bind, failed]

/-- Two readers in a row fail if the first does, or if the second does on what the first leaves. -/
theorem bind_eq_error {ε σ α β : Type} {first : EStateM ε σ α} {second : α → EStateM ε σ β}
    {s t : σ} {e : ε} : (first >>= second) s = .error e t ↔
      first s = .error e t ∨ ∃ a u, first s = .ok a u ∧ second a u = .error e t := by
  simp only [bind, EStateM.bind]
  cases first s with
  | ok a u => simp
  | error e u => simp

namespace Intake

theorem malformed_ne_ok {α : Type} (why : Malformation) (i : Intake) (a : α) (j : Intake) :
    (malformed why : IntakeM α) i ≠ .ok a j := by
  simp [malformed, throw, throwThe, MonadExceptOf.throw, EStateM.throw]

end Intake

theorem Sample.decode_encode (s : Sample) : Sample.decode s.encode = s := by
  rw [Sample.decode, Sample.encode, Bytes.toNat_ofNat (s.bits.toNat_lt), UInt32.ofNat_toNat]

theorem Sample.decodeAll_flatMap (samples : List Sample) :
    Sample.decodeAll (samples.flatMap Sample.encode) = samples := by
  induction samples with
  | nil => rfl
  | cons s rest ih =>
      rw [List.flatMap_cons]
      change Sample.decode s.encode :: Sample.decodeAll (rest.flatMap Sample.encode) = _
      rw [Sample.decode_encode, ih]

/-- Elements of one size take that much each. -/
theorem length_flatMap_of_length {β : Type} {encode : β → Bytes} {size : Nat} {values : List β}
    (width : ∀ b, (encode b).length = size) :
    (values.flatMap encode).length = values.length * size := by
  induction values with
  | nil => simp
  | cons b rest ih =>
      rw [List.flatMap_cons, List.length_append, width, ih, List.length_cons, Nat.succ_mul,
        Nat.add_comm]

theorem Sample.length_flatMap (samples : List Sample) :
    (samples.flatMap Sample.encode).length = 4 * samples.length := by
  have width (s : Sample) : s.encode.length = 4 := Bytes.length_ofNat 4 s.bits.toNat
  rw [length_flatMap_of_length width, Nat.mul_comm]

/-- Groups of four bytes are as many samples. -/
theorem Sample.length_decodeAll {bytes : Bytes} {n : Nat} (length : bytes.length = 4 * n) :
    (Sample.decodeAll bytes).length = n := by
  induction n generalizing bytes with
  | zero =>
      rw [List.eq_nil_of_length_eq_zero length]
      rfl
  | succ n ih =>
      match bytes, length with
      | [], length => simp at length
      | [a], length => simp at length; omega
      | [a, b], length => simp at length; omega
      | [a, b, c], length => simp at length; omega
      | a :: b :: c :: d :: rest, length =>
          simp only [List.length_cons] at length
          rw [Sample.decodeAll, List.length_cons, ih (by omega)]

theorem Field.encodeAll_nil : encodeAll [] = [] := rfl

theorem Field.encodeAll_cons (f : Field) (fields : List Field) :
    encodeAll (f :: fields) = f.encode ++ encodeAll fields := List.flatMap_cons

theorem Field.encodeAll_append (fields more : List Field) :
    encodeAll (fields ++ more) = encodeAll fields ++ encodeAll more := List.flatMap_append

theorem Field.encodeAll_flatMap {β : Type} (values : List β) (fields : β → List Field) :
    encodeAll (values.flatMap fields) = values.flatMap fun b => encodeAll (fields b) :=
  List.flatMap_assoc

namespace Reader

variable {α β : Type}

/-- The reader takes these bytes from the front and makes this value of them. -/
def Takes (read : Reader α) (bytes : Bytes) (a : α) : Prop :=
  ∀ rest, read (bytes ++ rest) = .ok a rest

theorem malformed_ne_ok (why : Malformation) (s : Bytes) (a : α) (t : Bytes) :
    (malformed why : Reader α) s ≠ .ok a t := by
  simp [malformed, throw, throwThe, MonadExceptOf.throw, EStateM.throw]

/-- A check that passes may as well be left out. -/
theorem unless_of_ok {c : Prop} [Decidable c] {check : Reader Unit} {next : Reader α} {s : Bytes}
    (passes : check s = .ok () s) : (if c then next else check >>= fun _ => next) s = next s := by
  split
  · rfl
  · exact bind_of_ok passes

theorem inWord_eq_ok {n : Nat} {why : Fault} {s t : Bytes} :
    inWord n why s = .ok () t ↔ n ≤ maxWord ∧ s = t := by
  unfold inWord
  split
  · rename_i fits
    simp [pure, EStateM.pure, fits]
  · rename_i large
    simp [throw, throwThe, MonadExceptOf.throw, EStateM.throw, large]

/-- What is read behind a check of a size is read from where the check was made. -/
theorem of_unless_inWord {c : Prop} [Decidable c] {n : Nat} {why : Fault} {next : Reader α}
    {s t : Bytes} {a : α} (done : (if c then next else inWord n why >>= fun _ => next) s = .ok a t) :
    next s = .ok a t := by
  split at done
  · exact done
  · obtain ⟨_, u, passed, done⟩ := bind_eq_ok.mp done
    obtain ⟨-, rfl⟩ := inWord_eq_ok.mp passed
    exact done

theorem takes_pure (a : α) : Takes (pure a) [] a := fun _ => rfl

theorem takes_bind {read : Reader α} {next : α → Reader β} {front back : Bytes} {a : α} {b : β}
    (first : Takes read front a) (second : Takes (next a) back b) :
    Takes (read >>= next) (front ++ back) b := by
  intro rest
  rw [List.append_assoc, bind_of_ok (first _), second]

theorem takes_map {read : Reader α} {f : α → β} {bytes : Bytes} {a : α} (takes : Takes read bytes a) :
    Takes (f <$> read) bytes (f a) := by
  intro rest
  simp only [Functor.map, EStateM.map, takes rest]

theorem takes_take (bytes : Bytes) {n : Nat} (length : bytes.length = n) :
    Takes (take n) bytes bytes := by
  subst length
  intro rest
  simp [take, bind, EStateM.bind, get, getThe, MonadStateOf.get, EStateM.get, set, EStateM.set, pure,
    EStateM.pure]

/-- Bytes are taken from the front, and none are left out. -/
theorem take_eq_ok {n : Nat} {s t bytes : Bytes} (taken : take n s = .ok bytes t) :
    bytes.length = n ∧ s = bytes ++ t := by
  obtain ⟨unread, _, same, taken⟩ := bind_eq_ok.mp taken
  cases same
  split at taken
  · rename_i enough
    cases taken
    exact ⟨List.length_take_of_le enough, (List.take_append_drop _ _).symm⟩
  · cases taken

theorem takes_number {width n : Nat} (fits : n < 256 ^ width) :
    Takes (number width) (Bytes.ofNat width n) n := by
  intro rest
  rw [number, bind_of_ok (takes_take _ (Bytes.length_ofNat width n) rest), Bytes.toNat_ofNat fits]
  rfl

theorem takes_u8 (value : UInt8) : Takes u8 (Field.u8 value).encode value := by
  intro rest
  have same : (Field.u8 value).encode = Bytes.ofNat 1 value.toNat := by
    simp [Field.encode, Bytes.ofNat, Nat.mod_eq_of_lt value.toNat_lt]
  rw [same, u8, bind_of_ok (takes_number value.toNat_lt rest), UInt8.ofNat_toNat]
  rfl

theorem takes_bool (value : Bool) : Takes bool (Field.bool value).encode value := by
  intro rest
  rw [bool]
  cases value with
  | false => exact bind_of_ok (takes_u8 0 rest)
  | true => exact bind_of_ok (takes_u8 1 rest)

theorem takes_u16 (value : UInt16) : Takes u16 (Field.u16 value).encode value := by
  intro rest
  rw [Field.encode, u16, bind_of_ok (takes_number value.toNat_lt rest), UInt16.ofNat_toNat]
  rfl

theorem takes_u32 (value : UInt32) : Takes u32 (Field.u32 value).encode value := by
  intro rest
  rw [Field.encode, u32, bind_of_ok (takes_number value.toNat_lt rest), UInt32.ofNat_toNat]
  rfl

theorem takes_u64 (value : UInt64) : Takes u64 (Field.u64 value).encode value := by
  intro rest
  rw [Field.encode, u64, bind_of_ok (takes_number value.toNat_lt rest), UInt64.ofNat_toNat]
  rfl

theorem takes_sample (value : Sample) : Takes sample (Field.number value).encode value := by
  intro rest
  have taken := takes_take value.encode (Bytes.length_ofNat 4 _) rest
  rw [Field.encode, sample, bind_of_ok taken]
  exact congrArg (EStateM.Result.ok · rest) value.decode_encode

theorem takes_samples (values : List Sample) :
    Takes (samples values.length) (values.flatMap Sample.encode) values := by
  intro rest
  rw [samples, bind_of_ok (takes_take _ (Sample.length_flatMap values) rest),
    Sample.decodeAll_flatMap]
  rfl

/-- A count is taken if that many elements can follow. -/
theorem count_of_room {n size : Nat} (small : n < 2 ^ 32) {rest : Bytes}
    (room : n * max size 1 ≤ rest.length) :
    count size ((Field.u32 (.ofNat n)).encode ++ rest) = .ok n rest := by
  have needed : min (n * max size 1) maxWord ≤ rest.length :=
    Nat.le_trans (Nat.min_le_left _ _) room
  rw [count, bind_of_ok (takes_u32 _ rest), UInt32.toNat_ofNat_of_lt' small]
  simp [bind, EStateM.bind, remaining, get, getThe, MonadStateOf.get, EStateM.get, pure,
    EStateM.pure, needed]

/-- A count that was read is a number of 32 bits. -/
theorem count_lt {n size : Nat} {s t : Bytes} (done : count size s = .ok n t) : n < 2 ^ 32 := by
  obtain ⟨value, u, -, done⟩ := bind_eq_ok.mp done
  obtain ⟨left, v, -, done⟩ := bind_eq_ok.mp done
  split at done
  · obtain ⟨rfl, -⟩ := pure_eq_ok.mp done
    exact value.toNat_lt
  · exact absurd done (malformed_ne_ok _ _ _ _)

/-- A length is taken if that many samples follow. -/
theorem samplesLength_of_room {n : Nat} (small : n < 2 ^ 64) {rest : Bytes}
    (room : 4 * n ≤ rest.length) :
    samplesLength ((Field.u64 (.ofNat n)).encode ++ rest) = .ok n rest := by
  have needed : min (4 * n) maxWord ≤ rest.length := Nat.le_trans (Nat.min_le_left _ _) room
  rw [samplesLength, bind_of_ok (takes_u64 _ rest), UInt64.toNat_ofNat_of_lt' small]
  simp [bind, EStateM.bind, remaining, get, getThe, MonadStateOf.get, EStateM.get, pure,
    EStateM.pure, needed]

theorem finish_nil : finish [] = .ok () [] := rfl

/-- Nothing is left where a record was read to its end. -/
theorem finish_eq_ok {s t : Bytes} (done : finish s = .ok () t) : s = [] := by
  obtain ⟨left, u, is, done⟩ := bind_eq_ok.mp done
  obtain ⟨rfl, rfl⟩ := pure_eq_ok.mp is
  split at done
  · rename_i none
    exact List.eq_nil_of_length_eq_zero none
  · exact absurd done (malformed_ne_ok _ _ _ _)

theorem takes_times {read : Reader α} {encode : α → Bytes} {values : List α}
    (takes : ∀ a ∈ values, Takes read (encode a) a) :
    Takes (times read values.length) (values.flatMap encode) values := by
  induction values with
  | nil => exact takes_pure []
  | cons a rest ih =>
      rw [List.flatMap_cons, List.length_cons, times, ← List.append_nil (rest.flatMap encode)]
      have others : Takes (times read rest.length) (rest.flatMap encode) rest := by
        apply ih
        intro b mem
        exact takes b (List.mem_cons_of_mem _ mem)
      exact takes_bind (takes a List.mem_cons_self) (takes_bind others (takes_pure _))

/-- Each of the values that were read in a row was read. -/
theorem times_eq_ok {read : Reader α} {n : Nat} {values : List α} {s t : Bytes}
    (done : times read n s = .ok values t) :
    values.length = n ∧ ∀ a ∈ values, ∃ u v, read u = .ok a v := by
  induction n generalizing values s with
  | zero =>
      cases done
      simp
  | succ n ih =>
      obtain ⟨a, u, first, done⟩ := bind_eq_ok.mp done
      obtain ⟨rest, v, others, done⟩ := bind_eq_ok.mp done
      obtain ⟨rfl, rfl⟩ := pure_eq_ok.mp done
      obtain ⟨length, each⟩ := ih others
      refine ⟨by rw [List.length_cons, length], ?_⟩
      intro b mem
      rcases List.mem_cons.mp mem with rfl | later
      · exact ⟨s, u, first⟩
      · exact each b later

end Reader

end Windchest
