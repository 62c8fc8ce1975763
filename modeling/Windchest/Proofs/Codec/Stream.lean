/-
# Windchest.Proofs.Codec.Stream -- what a cache stream holds

A stream that passes validation is the header, the expected hash and whatever comes
behind them (`validate_eq_ok_iff`), and a reader finds a record exactly where the
stream goes on with the frame of one (`next_eq_record_iff`).  So the records that can be
read are those that stand in the stream as `Cache.encode` writes them.

Of the packing nothing is assumed, except where a packed stream is read back: then it has to
be lawful.
-/
import Windchest.Cache.Stream
import Windchest.Proofs.Codec.Words

namespace Windchest.Cache

set_option autoImplicit false

/-- The bytes go on with the frame of a record whose length a word holds. -/
def Framed (record content rest : Bytes) : Prop :=
  record.length ≤ maxWord ∧ content = frame record ++ rest

namespace Source

theorem exactly?_append (front rest : Bytes) (broken : Bool) :
    exactly? ⟨front ++ rest, broken⟩ front.length = (some front, ⟨rest, broken⟩) := by
  simp [exactly?]

theorem exactly?_eq_some {s t : Source} {n : Nat} {bytes : Bytes}
    (found : s.exactly? n = (some bytes, t)) :
    bytes.length = n ∧ s.content = bytes ++ t.content ∧ t.broken = s.broken := by
  unfold exactly? at found
  split at found
  · rename_i enough
    simp only [Prod.mk.injEq, Option.some.injEq] at found
    obtain ⟨rfl, rfl⟩ := found
    exact ⟨List.length_take_of_le enough, (List.take_append_drop _ _).symm, rfl⟩
  · cases found

theorem upTo_append (front rest : Bytes) (broken : Bool) :
    upTo ⟨front ++ rest, broken⟩ front.length = (.ok front, ⟨rest, broken⟩) := by
  simp [upTo]

theorem upTo_eq_ok {s t : Source} {n : Nat} {bytes : Bytes} (found : s.upTo n = (.ok bytes, t)) :
    s.content = bytes ++ t.content ∧ t.broken = s.broken ∧ bytes.length ≤ n := by
  unfold upTo at found
  dsimp only at found
  split at found
  · cases found
  · simp only [Prod.mk.injEq, Except.ok.injEq] at found
    obtain ⟨rfl, rfl⟩ := found
    exact ⟨(List.take_append_drop _ _).symm, rfl, List.length_take_le _ _⟩

/-- The next bytes are found exactly if the stream goes on with them. -/
theorem exactly?_eq_some_iff {s t : Source} {n : Nat} {bytes : Bytes} :
    s.exactly? n = (some bytes, t) ↔
      bytes.length = n ∧ s.content = bytes ++ t.content ∧ t.broken = s.broken := by
  refine ⟨exactly?_eq_some, ?_⟩
  rintro ⟨rfl, content, broken⟩
  obtain ⟨content', broken'⟩ := s
  subst content broken
  exact exactly?_append bytes t.content t.broken

theorem header_eq_true_iff {s t : Source} :
    s.header = (true, t) ↔ s.content = Cache.header ++ t.content ∧ t.broken = s.broken := by
  constructor
  · intro valid
    unfold header at valid
    split at valid
    · cases valid
    · rename_i start s₁ first
      obtain ⟨-, content, broken⟩ := exactly?_eq_some first
      split at valid
      · cases valid
      · rename_i magical
        split at valid
        · cases valid
        · rename_i version s₂ second
          obtain ⟨-, content', broken'⟩ := exactly?_eq_some second
          simp only [Prod.mk.injEq, decide_eq_true_eq] at valid
          obtain ⟨rfl, rfl⟩ := valid
          rw [ne_eq, not_not] at magical
          exact ⟨by rw [content, content', magical, Cache.header, List.append_assoc],
            broken'.trans broken⟩
  · rintro ⟨content, broken⟩
    have first : s.exactly? magic.length
        = (some magic, ⟨Bytes.ofNat 2 formatVersion.toNat ++ t.content, t.broken⟩) :=
      exactly?_eq_some_iff.mpr ⟨rfl, by rw [content, Cache.header, List.append_assoc], broken⟩
    have second : exactly? ⟨Bytes.ofNat 2 formatVersion.toNat ++ t.content, t.broken⟩ 2
        = (some (Bytes.ofNat 2 formatVersion.toNat), t) :=
      exactly?_eq_some_iff.mpr ⟨Bytes.length_ofNat 2 _, rfl, rfl⟩
    simp [header, first, second]

/-- A file that starts with the header is not packed. -/
theorem ofFile_header (packing : Packing) (rest : Bytes) :
    ofFile packing (Cache.header ++ rest) = ⟨Cache.header ++ rest, false⟩ := by
  have headed : Cache.header.take 4 ≠ Packing.magic ∧ 4 ≤ Cache.header.length := by decide +kernel
  rw [ofFile, if_neg]
  rw [List.take_append_of_le_length headed.2]
  exact headed.1

/-- The stream in a file that was closed is what was written, packed or not. -/
theorem ofFile_close_header {packing : Packing} {packed : Bool}
    (lawful : packed = true → packing.Lawful) (content : Bytes) (count : Nat) :
    ofFile packing (Writer.close ⟨Cache.header ++ content, count⟩ packing packed)
      = ⟨Cache.header ++ content, false⟩ := by
  cases packed with
  | true =>
      obtain ⟨marked, unpack_pack⟩ := lawful rfl
      rw [Writer.close, if_pos rfl, ofFile, if_pos (marked _), unpack_pack]
  | false => rw [Writer.close, if_neg Bool.false_ne_true, ofFile_header]

theorem ofFile_close {packing : Packing} {packed : Bool}
    (lawful : packed = true → packing.Lawful) (hash : Hash) (records : List Bytes) (count : Nat) :
    ofFile packing (Writer.close ⟨Cache.encode hash records, count⟩ packing packed)
      = ⟨Cache.encode hash records, false⟩ := by
  rw [Cache.encode, List.append_assoc, ofFile_close_header lawful]

/-- A stream is valid if it starts with the header and the expected hash. -/
theorem validate_eq_ok_iff {s t : Source} {hash : Hash} :
    s.validate hash = (.ok (), t) ↔ hash.bytes.length = Hash.size ∧
      s.content = Cache.header ++ hash.bytes ++ t.content ∧ t.broken = s.broken := by
  constructor
  · intro valid
    unfold validate at valid
    split at valid
    · cases valid
    · rename_i s₁ first
      obtain ⟨content, broken⟩ := header_eq_true_iff.mp first
      cases taken : s₁.exactly? Hash.size with
      | mk bytes? s₂ =>
          cases bytes? with
          | none => simp [hash?, taken] at valid
          | some bytes =>
              obtain ⟨length, content', broken'⟩ := exactly?_eq_some taken
              simp only [hash?, taken, Option.map_some, Prod.mk.injEq] at valid
              obtain ⟨same, rfl⟩ := valid
              split at same
              · rename_i expected
                subst expected
                exact ⟨length, by rw [content, content', List.append_assoc], broken'.trans broken⟩
              · cases same
  · rintro ⟨length, content, broken⟩
    have first : s.header = (true, ⟨hash.bytes ++ t.content, t.broken⟩) :=
      header_eq_true_iff.mpr ⟨by rw [content, List.append_assoc], broken⟩
    have second : exactly? ⟨hash.bytes ++ t.content, t.broken⟩ Hash.size = (some hash.bytes, t) :=
      exactly?_eq_some_iff.mpr ⟨length, rfl, rfl⟩
    simp [validate, first, hash?, second]

/-- Whatever records a cache holds, it is valid. -/
theorem validate_encode {hash : Hash} (whole : hash.bytes.length = Hash.size) (records : List Bytes) :
    (Source.mk (Cache.encode hash records) false).validate hash
      = (.ok (), ⟨records.flatMap frame, false⟩) :=
  validate_eq_ok_iff.mpr ⟨whole, rfl, rfl⟩

/-- The bytes of a number of known width are its encoding. -/
theorem eq_ofNat_of_length {bytes : Bytes} {width n : Nat} (length : bytes.length = width)
    (is : bytes.toNat = n) : bytes = Bytes.ofNat width n := by
  rw [← length, ← is, Bytes.ofNat_toNat]

/-- A stream has a record next exactly if it goes on with its frame. -/
theorem next_eq_record_iff {s t : Source} {record : Bytes} :
    s.next = (.ok (some record), t) ↔ Framed record s.content t.content ∧ t.broken = s.broken := by
  constructor
  · intro found
    unfold next at found
    split at found
    · cases found
    · rename_i length s₁ first
      obtain ⟨content₁, broken₁, atMost₁⟩ := upTo_eq_ok first
      split_ifs at found with absent short
      · cases found
      · cases found
      · split at found
        · cases found
        · rename_i check s₂ second
          obtain ⟨content₂, broken₂, atMost₂⟩ := upTo_eq_ok second
          split_ifs at found with shortCheck
          · cases found
          · split at found
            · cases found
            · rename_i bytes s₃ third
              obtain ⟨content₃, broken₃, atMost₃⟩ := upTo_eq_ok third
              split_ifs at found with shortRecord damaged
              · cases found
              · cases found
              · cases found
                have bound := Bytes.toNat_lt length
                have width : length.length = 8 := by omega
                have whole : length.toNat = record.length := by omega
                rw [width, whole] at bound
                refine ⟨⟨?_, ?_⟩, broken₃.trans (broken₂.trans broken₁)⟩
                · unfold maxWord
                  omega
                · rw [content₁, content₂, content₃, frame, eq_ofNat_of_length width whole,
                    eq_ofNat_of_length (show check.length = 4 by omega) (not_not.mp damaged).symm]
                  simp only [List.append_assoc]
  · rintro ⟨⟨fits, content⟩, broken⟩
    obtain ⟨content', broken'⟩ := s
    obtain rfl : broken' = t.broken := broken.symm
    obtain rfl : content' = frame record ++ t.content := content
    have length : Bytes.toNat (Bytes.ofNat 8 record.length) = record.length :=
      Bytes.toNat_ofNat (by unfold maxWord at fits; omega)
    have check : Bytes.toNat (Bytes.ofNat 4 (Checksum.ofBytes record).toNat)
        = (Checksum.ofBytes record).toNat :=
      Bytes.toNat_ofNat (Checksum.ofBytes record).toNat_lt
    have first := upTo_append (Bytes.ofNat 8 record.length)
      (Bytes.ofNat 4 (Checksum.ofBytes record).toNat ++ (record ++ t.content)) t.broken
    have second := upTo_append (Bytes.ofNat 4 (Checksum.ofBytes record).toNat)
      (record ++ t.content) t.broken
    have third := upTo_append record t.content t.broken
    rw [Bytes.length_ofNat] at first second
    have nonempty : (Bytes.ofNat 8 record.length).isEmpty = false := rfl
    simp [next, frame, first, second, third, length, check, nonempty]

end Source

end Windchest.Cache
