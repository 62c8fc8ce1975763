/-
# Windchest.Proofs.Digest.Inputs -- what the hash of a cache tells apart

There are no lengths and no counts in the byte string that is hashed.  It can be taken
apart in one way only all the same.  The hash of the definition and the tag in front of
it have a fixed size, so they are found from the end, whatever stands before them.  Of
what is left between them and the version, a name goes up to the first delimiter, and a
value is the eight bytes behind that, even if these spell delimiters or the tag.

So different inputs are hashed from different bytes (`encode_eq_iff`).  One thing is
written nowhere: which of the entries are sizes of the layout and which are constants.
-/
import Windchest.Cache.Hash
import Windchest.Proofs.Codec.Words

namespace Windchest

set_option autoImplicit false

/-! ## Texts as bytes -/

theorem toList_loop_eq (bytes : ByteArray) (i : Nat) (done : List UInt8) :
    ByteArray.toList.loop bytes i done = done.reverse ++ bytes.data.toList.drop i := by
  fun_induction ByteArray.toList.loop bytes i done with
  | case1 i done inside ih =>
      have within : i < bytes.data.toList.length := by simpa using inside
      have byte : bytes.get! i = bytes.data.toList[i] := getElem!_pos bytes.data i inside
      rw [ih, List.drop_eq_getElem_cons within, byte, List.reverse_cons, List.append_assoc,
        List.singleton_append]
  | case2 i done outside =>
      rw [List.drop_eq_nil_of_le (by simpa using Nat.le_of_not_lt outside), List.append_nil]

theorem ofText_injective : Function.Injective Bytes.ofText := by
  intro text text' same
  simp only [Bytes.ofText, ByteArray.toList, toList_loop_eq, List.reverse_nil, List.nil_append,
    List.drop_zero, Array.toList_inj] at same
  exact String.toByteArray_inj.mp (ByteArray.ext same)

namespace HashInputs

/-! ## Entries -/

/-- The byte between a name and its value. -/
def delimiter : UInt8 := 0x3D

/-- A name that can be told from what follows it. -/
def Delimited (name : String) : Prop := delimiter ∉ Bytes.ofText name

instance (name : String) : Decidable (Delimited name) := inferInstanceAs (Decidable (¬ _))

theorem entry_eq (e : String × UInt64) :
    entry e = Bytes.ofText e.1 ++ delimiter :: Bytes.ofNat 8 e.2.toNat := by
  have text : Bytes.ofText "=" = [delimiter] := by decide +kernel
  rw [entry, text, List.append_assoc, List.singleton_append]

/-- A word is known from its eight bytes. -/
theorem word_inj {v w : UInt64} (same : Bytes.ofNat 8 v.toNat = Bytes.ofNat 8 w.toNat) : v = w := by
  have numbers := congrArg Bytes.toNat same
  rw [Bytes.toNat_ofNat v.toNat_lt, Bytes.toNat_ofNat w.toNat_lt] at numbers
  exact UInt64.toNat_inj.mp numbers

/-- What stands in front of the first delimiter is known, and so is what stands behind it. -/
theorem append_delimiter_inj {name name' rest rest' : Bytes} (first : delimiter ∉ name)
    (second : delimiter ∉ name') (same : name ++ delimiter :: rest = name' ++ delimiter :: rest') :
    name = name' ∧ rest = rest' := by
  induction name generalizing name' with
  | nil =>
      cases name' with
      | nil => exact ⟨rfl, (List.cons.inj same).2⟩
      | cons b others => exact absurd ((List.cons.inj same).1 ▸ List.mem_cons_self) second
  | cons a others ih =>
      cases name' with
      | nil => exact absurd ((List.cons.inj same).1 ▸ List.mem_cons_self) first
      | cons b others' =>
          obtain ⟨rfl, behind⟩ := List.cons.inj same
          obtain ⟨rfl, left⟩ := ih (List.not_mem_of_not_mem_cons first)
            (List.not_mem_of_not_mem_cons second) behind
          exact ⟨rfl, left⟩

/-- An entry is known from any bytes that start with it: its name from those in front of the first
delimiter, and its value from the eight behind, whichever they are. -/
theorem entry_append_inj {e f : String × UInt64} {rest rest' : Bytes} (first : Delimited e.1)
    (second : Delimited f.1) (same : entry e ++ rest = entry f ++ rest') : e = f ∧ rest = rest' := by
  rw [entry_eq, entry_eq, List.append_assoc, List.append_assoc, List.cons_append, List.cons_append]
    at same
  obtain ⟨names, behind⟩ := append_delimiter_inj first second same
  obtain ⟨values, left⟩ := List.append_inj behind (by rw [Bytes.length_ofNat, Bytes.length_ofNat])
  exact ⟨Prod.ext (ofText_injective names) (word_inj values), left⟩

/-- A row of entries is known from its bytes, although neither says how many there are. -/
theorem flatMap_entry_inj {es fs : List (String × UInt64)} (first : ∀ e ∈ es, Delimited e.1)
    (second : ∀ f ∈ fs, Delimited f.1) (same : es.flatMap entry = fs.flatMap entry) : es = fs := by
  have nonempty (e : String × UInt64) (rest : Bytes) : [] ≠ entry e ++ rest := by
    simp [entry_eq]
  induction es generalizing fs with
  | nil =>
      cases fs with
      | nil => rfl
      | cons f others => exact absurd same (nonempty f _)
  | cons e others ih =>
      cases fs with
      | nil => exact absurd same.symm (nonempty e _)
      | cons f others' =>
          rw [List.forall_mem_cons] at first second
          obtain ⟨rfl, behind⟩ := entry_append_inj first.1 second.1 same
          rw [ih first.2 second.2 behind]

/-! ## Inputs -/

/-- The names of the inputs can be told from their values, and the hash of the definition has the
size of a hash. -/
structure Regular (i : HashInputs) : Prop where
  names : ∀ e ∈ i.layout ++ i.constants, Delimited e.1
  whole : i.definition.bytes.length = Hash.size

/-- The inputs of this version are regular, whatever the definition is. -/
theorem regular_current {definition : Hash} (whole : definition.bytes.length = Hash.size) :
    (current definition).Regular where
  names := by
    change ∀ e ∈ cacheLayout ++ cacheConstants, Delimited e.1
    decide +kernel
  whole := whole

/-- **Different inputs are hashed from different bytes.**  Two regular inputs have the same bytes
exactly if they agree in the version, in all names and values of the layout and the constants, one
after the other, and in the hash of the definition.  If they have equally many sizes in the layout,
they are the same inputs. -/
theorem encode_eq_iff {i j : HashInputs} (first : i.Regular) (second : j.Regular) :
    (i.encode = j.encode ↔ i.version = j.version ∧
      i.layout ++ i.constants = j.layout ++ j.constants ∧ i.definition = j.definition) ∧
    (i.layout.length = j.layout.length → i.encode = j.encode → i = j) := by
  have known (same : i.encode = j.encode) : i.version = j.version ∧
      i.layout ++ i.constants = j.layout ++ j.constants ∧ i.definition = j.definition := by
    have sizes : i.definition.bytes.length = j.definition.bytes.length :=
      first.whole.trans second.whole.symm
    obtain ⟨tagged, definitions⟩ := List.append_inj' same sizes
    have entries := List.append_cancel_right tagged
    rw [List.append_assoc, List.append_assoc] at entries
    have behind := List.append_cancel_left entries
    obtain ⟨versions, listed⟩ :=
      List.append_inj behind (by rw [Bytes.length_ofNat, Bytes.length_ofNat])
    refine ⟨?_, flatMap_entry_inj first.names second.names listed, ?_⟩
    · have numbers := congrArg Bytes.toNat versions
      rw [Bytes.toNat_ofNat i.version.toNat_lt, Bytes.toNat_ofNat j.version.toNat_lt] at numbers
      exact UInt16.toNat_inj.mp numbers
    · exact congrArg Hash.mk definitions
  refine ⟨⟨known, ?_⟩, ?_⟩
  · rintro ⟨versions, listed, definitions⟩
    rw [encode, encode, versions, listed, definitions]
  · intro many same
    obtain ⟨versions, listed, definitions⟩ := known same
    obtain ⟨layouts, constants⟩ := List.append_inj listed many
    obtain ⟨version, layout, constant, definition⟩ := i
    dsimp only at versions layouts constants definitions
    rw [versions, layouts, constants, definitions]

/-- A number whose bytes are the text `=organ:=`. -/
def trap : UInt64 := 0x3D3A6E6167726F3D

/-- Inputs with traps for values: behind the first delimiter of a trap it looks as if the entries were
over, and behind the second as if another name had come to its end. -/
def trapped (layout constants : List (String × UInt64)) : HashInputs :=
  ⟨formatVersion, layout, constants, ⟨List.replicate 32 delimiter⟩⟩

/-- One trap more, by the name of the tag, makes a difference to the bytes; on which side of the end of
the layout it is makes none.  Another definition makes a difference to the inputs of this version. -/
theorem trapped_told_apart :
    (trapped [("a", trap)] []).encode ≠ (trapped [("a", trap)] [("organ:", trap)]).encode ∧
    (trapped [("a", trap)] [("organ:", trap)]).encode
      = (trapped [("a", trap), ("organ:", trap)] []).encode ∧
    (current ⟨List.replicate 32 0⟩).encode ≠ (current ⟨List.replicate 32 1⟩).encode := by
  have one : (trapped [("a", trap)] []).Regular := ⟨by decide +kernel, rfl⟩
  have both : (trapped [("a", trap)] [("organ:", trap)]).Regular := ⟨by decide +kernel, rfl⟩
  have moved : (trapped [("a", trap), ("organ:", trap)] []).Regular := ⟨by decide +kernel, rfl⟩
  refine ⟨?_, (encode_eq_iff both moved).1.mpr ⟨rfl, rfl, rfl⟩, ?_⟩
  · intro same
    exact absurd (congrArg constants ((encode_eq_iff one both).2 rfl same)) (by decide)
  · intro same
    have zeros : (current ⟨List.replicate 32 0⟩).Regular := regular_current rfl
    have ones : (current ⟨List.replicate 32 1⟩).Regular := regular_current rfl
    exact absurd (congrArg definition ((encode_eq_iff zeros ones).2 rfl same)) (by decide)

end HashInputs

end Windchest
