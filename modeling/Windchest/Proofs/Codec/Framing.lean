/-
# Windchest.Proofs.Codec.Framing -- a stream is read frame by frame, as far as it goes

`Source.drain` reads record after record until the answer is another one.  Whatever the
bytes are, it finds as many records as there are frames at the front of them, and what
is left behind the last frame tells the answer: nothing is left, or it is cut off inside
a frame (`Cut`), or it goes on with a frame that was damaged (`Damaged`).  These three
and a whole frame are all that a stream can go on with (`goesOn_cases`).

So a list of records comes back from a cache file as it was written, and a file that was
cut off anywhere behind its hash yields the records in front of the cut and no other
(`framing_exact`).
-/
import Windchest.Proofs.Codec.Blocks
import Windchest.Proofs.Codec.Stream

namespace Windchest.Cache

set_option autoImplicit false

/-- The frames of the records stand in front of the rest. -/
def Frames (records : List Bytes) (content rest : Bytes) : Prop :=
  (∀ record ∈ records, record.length ≤ maxWord) ∧ content = records.flatMap frame ++ rest

/-- So many frames stand at the front of the content and no more. -/
def Front (records : List Bytes) (content rest : Bytes) : Prop :=
  Frames records content rest ∧
    ∀ more rest', Frames more content rest' → more.length ≤ records.length

/-- The bytes end inside a frame: in its length, in its checksum, or in the body that the length
announces.  So many bytes were needed there, and so many are available. -/
inductive Cut : Bytes → Nat → Nat → Prop where
  | length {bytes : Bytes} (started : bytes ≠ []) (short : bytes.length < 8) :
      Cut bytes 8 bytes.length
  | check {length bytes : Bytes} (eight : length.length = 8) (short : bytes.length < 4) :
      Cut (length ++ bytes) 4 bytes.length
  | body {length check bytes : Bytes} (eight : length.length = 8) (four : check.length = 4)
      (short : bytes.length < length.toNat) :
      Cut (length ++ (check ++ bytes)) length.toNat bytes.length

/-- The bytes start with a complete frame that has the checksum of another body. -/
inductive Damaged : Bytes → Prop where
  | frame {length check body rest : Bytes} (eight : length.length = 8) (four : check.length = 4)
      (whole : body.length = length.toNat) (differs : (Checksum.ofBytes body).toNat ≠ check.toNat) :
      Damaged (length ++ (check ++ (body ++ rest)))

theorem length_frame (record : Bytes) : (frame record).length = 12 + record.length := by
  simp only [frame, List.length_append, Bytes.length_ofNat]

/-- Any byte string is empty, ends inside a frame, or starts with a damaged frame or with an intact
one. -/
theorem goesOn_cases (content : Bytes) :
    content = [] ∨ (∃ needed available, Cut content needed available) ∨ Damaged content ∨
      ∃ record rest, Framed record content rest := by
  have split {n : Nat} {bytes : Bytes} (enough : ¬ bytes.length < n) :
      ∃ front back, front.length = n ∧ bytes = front ++ back :=
    ⟨bytes.take n, bytes.drop n, List.length_take_of_le (Nat.le_of_not_lt enough),
      (List.take_append_drop n bytes).symm⟩
  by_cases empty : content = []
  · exact Or.inl empty
  by_cases shortLength : content.length < 8
  · exact Or.inr (Or.inl ⟨_, _, .length empty shortLength⟩)
  obtain ⟨length, content, eight, rfl⟩ := split shortLength
  by_cases shortCheck : content.length < 4
  · exact Or.inr (Or.inl ⟨_, _, .check eight shortCheck⟩)
  obtain ⟨check, content, four, rfl⟩ := split shortCheck
  by_cases shortBody : content.length < length.toNat
  · exact Or.inr (Or.inl ⟨_, _, .body eight four shortBody⟩)
  obtain ⟨body, rest, whole, rfl⟩ := split shortBody
  by_cases differs : (Checksum.ofBytes body).toNat = check.toNat
  · have small := Bytes.toNat_lt length
    refine Or.inr (Or.inr (Or.inr ⟨body, rest, ?_, ?_⟩))
    · rw [eight] at small
      unfold maxWord
      omega
    · rw [frame, whole, differs, ← eight, ← four, Bytes.ofNat_toNat, Bytes.ofNat_toNat]
      simp only [List.append_assoc]
  · exact Or.inr (Or.inr (Or.inl (.frame eight four whole differs)))

namespace Source

/-! ## The next answer -/

theorem upTo_short {bytes : Bytes} {n : Nat} (short : bytes.length ≤ n) :
    upTo ⟨bytes, false⟩ n = (.ok bytes, ⟨[], false⟩) := by
  simp [upTo, List.take_of_length_le short, List.drop_of_length_le short]

theorem upTo_of_length {front : Bytes} {n : Nat} (length : front.length = n) (rest : Bytes) :
    upTo ⟨front ++ rest, false⟩ n = (.ok front, ⟨rest, false⟩) :=
  length ▸ upTo_append front rest false

theorem next_cut {content : Bytes} {needed available : Nat} (cut : Cut content needed available) :
    (next ⟨content, false⟩).1 = .error (.truncated needed available) := by
  cases cut with
  | length started short =>
      simp only [next, upTo_short (Nat.le_of_lt short), List.isEmpty_iff, started, if_false, short,
        if_true]
  | @check length bytes eight short =>
      have started : length.isEmpty = false := by cases length <;> simp at eight ⊢
      simp only [next, upTo_of_length eight, started, eight, upTo_short (Nat.le_of_lt short), short,
        Bool.false_eq_true, Nat.lt_irrefl, if_true, if_false]
  | @body length check bytes eight four short =>
      have started : length.isEmpty = false := by cases length <;> simp at eight ⊢
      simp only [next, upTo_of_length eight, started, eight, upTo_of_length four, four,
        upTo_short (Nat.le_of_lt short), short, Bool.false_eq_true, Nat.lt_irrefl, if_true, if_false]

/-- A complete frame that has the checksum of another body is refused, and reading goes on behind
it. -/
theorem next_refused {length check body : Bytes} (eight : length.length = 8)
    (four : check.length = 4) (whole : body.length = length.toNat)
    (differs : (Checksum.ofBytes body).toNat ≠ check.toNat) (rest : Bytes) :
    next ⟨length ++ (check ++ (body ++ rest)), false⟩ = (.error .checksum, ⟨rest, false⟩) := by
  have started : length.isEmpty = false := by cases length <;> simp at eight ⊢
  simp only [next, upTo_of_length eight, started, eight, upTo_of_length four, four,
    upTo_of_length whole, whole, differs, ne_eq, not_false_eq_true, Bool.false_eq_true,
    Nat.lt_irrefl, if_true, if_false]

theorem next_damaged {content : Bytes} (damaged : Damaged content) :
    (next ⟨content, false⟩).1 = .error .checksum := by
  obtain ⟨eight, four, whole, differs⟩ := damaged
  rw [next_refused eight four whole differs]

theorem next_framed {record content rest : Bytes} (framed : Framed record content rest)
    (broken : Bool) : next ⟨content, broken⟩ = (.ok (some record), ⟨rest, broken⟩) :=
  next_eq_record_iff.mpr ⟨framed, rfl⟩

theorem next_shorter {s t : Source} {record : Bytes} (found : s.next = (.ok (some record), t)) :
    t.content.length < s.content.length := by
  obtain ⟨⟨-, content⟩, -⟩ := next_eq_record_iff.mp found
  rw [content, List.length_append, length_frame]
  omega

/-! ## Reading to the end -/

/-- The records that are found before the first other answer, and whether that is the end of the
stream. -/
def drain (s : Source) : List Bytes × Except CacheError Unit :=
  match found : s.next with
  | (.ok (some record), rest) =>
    have : rest.content.length < s.content.length := next_shorter found
    (record :: (drain rest).1, (drain rest).2)
  | (.ok none, _) => ([], .ok ())
  | (.error why, _) => ([], .error why)
termination_by s.content.length

theorem drain_framed {record content rest : Bytes} (framed : Framed record content rest)
    (broken : Bool) :
    drain ⟨content, broken⟩ = (record :: (drain ⟨rest, broken⟩).1, (drain ⟨rest, broken⟩).2) := by
  rw [drain]
  split
  · rename_i found
    cases (next_framed framed broken).symm.trans found
    rfl
  · rename_i found
    cases (next_framed framed broken).symm.trans found
  · rename_i found
    cases (next_framed framed broken).symm.trans found

/-- The records at the front are found first. -/
theorem drain_frames {records : List Bytes} {content rest : Bytes}
    (frames : Frames records content rest) (broken : Bool) :
    drain ⟨content, broken⟩
      = (records ++ (drain ⟨rest, broken⟩).1, (drain ⟨rest, broken⟩).2) := by
  obtain ⟨fit, rfl⟩ := frames
  induction records with
  | nil => rfl
  | cons record records ih =>
      rw [List.forall_mem_cons] at fit
      have framed : Framed record ((record :: records).flatMap frame ++ rest)
          (records.flatMap frame ++ rest) := ⟨fit.1, by rw [List.flatMap_cons, List.append_assoc]⟩
      rw [drain_framed framed, ih fit.2]
      rfl

theorem drain_nil : drain ⟨[], false⟩ = ([], .ok ()) := by
  rw [drain]
  rfl

theorem drain_error {s : Source} {why : CacheError} (failed : s.next.1 = .error why) :
    drain s = ([], .error why) := by
  rw [drain]
  split
  · rename_i found
    rw [found] at failed
    cases failed
  · rename_i found
    rw [found] at failed
    cases failed
  · rename_i found
    rw [found] at failed
    cases failed
    rfl

theorem drain_cut {content : Bytes} {needed available : Nat} (cut : Cut content needed available) :
    drain ⟨content, false⟩ = ([], .error (.truncated needed available)) := drain_error (next_cut cut)

theorem drain_damaged {content : Bytes} (damaged : Damaged content) :
    drain ⟨content, false⟩ = ([], .error .checksum) := drain_error (next_damaged damaged)

/-- What is found stands in the stream, and behind it stands no intact frame. -/
theorem exists_frames (content : Bytes) : ∃ rest, Frames (drain ⟨content, false⟩).1 content rest ∧
    (drain ⟨content, false⟩).2 = (drain ⟨rest, false⟩).2 ∧ (drain ⟨rest, false⟩).1 = [] := by
  induction length : content.length using Nat.strongRecOn generalizing content with
  | ind n ih =>
  subst length
  -- Unless it goes on with an intact frame, all of the stream is what is left.
  have stop {rest : Bytes} (none : (drain ⟨rest, false⟩).1 = []) :
      ∃ rest', Frames (drain ⟨rest, false⟩).1 rest rest' ∧
        (drain ⟨rest, false⟩).2 = (drain ⟨rest', false⟩).2 ∧ (drain ⟨rest', false⟩).1 = [] :=
    ⟨rest, ⟨by rw [none]; simp, by rw [none]; rfl⟩, rfl, none⟩
  rcases goesOn_cases content with rfl | ⟨needed, available, cut⟩ | damaged | ⟨record, rest, framed⟩
  · exact stop (by rw [drain_nil])
  · exact stop (by rw [drain_cut cut])
  · exact stop (by rw [drain_damaged damaged])
  · obtain ⟨last, ⟨fit, is⟩, answer, none⟩ :=
      ih rest.length (next_shorter (next_framed framed false)) rest rfl
    refine ⟨last, ⟨?_, ?_⟩, ?_, none⟩
    · rw [drain_framed framed, List.forall_mem_cons]
      exact ⟨framed.1, fit⟩
    · rw [drain_framed framed, List.flatMap_cons, List.append_assoc, ← is]
      exact framed.2
    · rw [drain_framed framed]
      exact answer

/-- The records that are found are the frames at the front. -/
theorem drain_eq_iff_front {content : Bytes} {records : List Bytes} :
    (drain ⟨content, false⟩).1 = records ↔ ∃ rest, Front records content rest := by
  obtain ⟨rest, found, -, -⟩ := exists_frames content
  constructor
  · rintro rfl
    refine ⟨rest, found, fun more rest' frames => ?_⟩
    rw [drain_frames frames, List.length_append]
    exact Nat.le_add_right _ _
  · rintro ⟨rest', frames, most⟩
    have atMost := most _ _ found
    rw [drain_frames frames] at atMost ⊢
    rw [List.length_append] at atMost
    have none : (drain ⟨rest', false⟩).1.length = 0 := by omega
    rw [List.length_eq_zero_iff.mp none, List.append_nil]

/-- A stream without a frame at its front has ended, or is cut off, or damaged. -/
theorem answer_cases {rest : Bytes} (none : (drain ⟨rest, false⟩).1 = []) :
    (rest = [] ∧ (drain ⟨rest, false⟩).2 = .ok ()) ∨
      (∃ needed available, Cut rest needed available ∧
        (drain ⟨rest, false⟩).2 = .error (.truncated needed available)) ∨
      (Damaged rest ∧ (drain ⟨rest, false⟩).2 = .error .checksum) := by
  rcases goesOn_cases rest with rfl | ⟨needed, available, cut⟩ | damaged | ⟨record, rest, framed⟩
  · exact Or.inl ⟨rfl, by rw [drain_nil]⟩
  · exact Or.inr (Or.inl ⟨needed, available, cut, by rw [drain_cut cut]⟩)
  · exact Or.inr (Or.inr ⟨damaged, by rw [drain_damaged damaged]⟩)
  · rw [drain_framed framed] at none
    cases none

/-- What the bytes behind the front say to a reader. -/
theorem answer_of_front {content rest : Bytes} (front : Front (drain ⟨content, false⟩).1 content rest) :
    ((drain ⟨content, false⟩).2 = .ok () ↔ rest = []) ∧
      (∀ needed available, (drain ⟨content, false⟩).2 = .error (.truncated needed available) ↔
        Cut rest needed available) ∧
      ((drain ⟨content, false⟩).2 = .error .checksum ↔ Damaged rest) ∧
      (rest = [] ∨ (∃ needed available, Cut rest needed available) ∨ Damaged rest) := by
  have split := drain_frames front.1 false
  have none : (drain ⟨rest, false⟩).1 = [] :=
    List.self_eq_append_right.mp (congrArg Prod.fst split)
  rw [congrArg Prod.snd split]
  refine ⟨⟨fun ended => ?_, ?_⟩, fun needed available => ⟨fun stopped => ?_, fun cut => ?_⟩,
    ⟨fun refused => ?_, fun damaged => ?_⟩, ?_⟩
  · rcases answer_cases none with ⟨empty, -⟩ | ⟨_, _, -, answer⟩ | ⟨-, answer⟩
    · exact empty
    · cases ended.symm.trans answer
    · cases ended.symm.trans answer
  · rintro rfl
    rw [drain_nil]
  · rcases answer_cases none with ⟨-, answer⟩ | ⟨_, _, cut, answer⟩ | ⟨-, answer⟩
    · cases stopped.symm.trans answer
    · cases stopped.symm.trans answer
      exact cut
    · cases stopped.symm.trans answer
  · rw [drain_cut cut]
  · rcases answer_cases none with ⟨-, answer⟩ | ⟨_, _, -, answer⟩ | ⟨damaged, -⟩
    · cases refused.symm.trans answer
    · cases refused.symm.trans answer
    · exact damaged
  · rw [drain_damaged damaged]
  · rcases answer_cases none with ⟨empty, -⟩ | ⟨needed, available, cut, -⟩ | ⟨damaged, -⟩
    · exact Or.inl empty
    · exact Or.inr (Or.inl ⟨needed, available, cut⟩)
    · exact Or.inr (Or.inr damaged)

/-! ## Frames that are cut off -/

/-- A frame of which a part is left is cut off. -/
theorem cut_take_frame {record : Bytes} (fits : record.length ≤ maxWord) {n : Nat} (some : 0 < n)
    (part : n < (frame record).length) :
    ∃ needed available, Cut ((frame record).take n) needed available := by
  rw [length_frame] at part
  have eight := Bytes.length_ofNat 8 record.length
  have four := Bytes.length_ofNat 4 (Checksum.ofBytes record).toNat
  have length : (Bytes.ofNat 8 record.length).toNat = record.length :=
    Bytes.toNat_ofNat (by unfold maxWord at fits; omega)
  rw [frame, List.append_assoc]
  -- The part ends in the length, in the checksum or in the body.
  by_cases inLength : n < 8
  · have is : (Bytes.ofNat 8 record.length ++
        (Bytes.ofNat 4 (Checksum.ofBytes record).toNat ++ record)).take n
          = (Bytes.ofNat 8 record.length).take n := List.take_append_of_le_length (by omega)
    rw [is]
    have short : ((Bytes.ofNat 8 record.length).take n).length = n :=
      List.length_take_of_le (by omega)
    exact ⟨_, _, .length (List.ne_nil_of_length_pos (by omega)) (by omega)⟩
  rw [List.take_append, eight, List.take_of_length_le (by omega)]
  by_cases inCheck : n - 8 < 4
  · rw [List.take_append_of_le_length (by omega)]
    exact ⟨_, _, .check eight (by rw [List.length_take]; omega)⟩
  · rw [List.take_append, four, List.take_of_length_le (by omega)]
    exact ⟨_, _, .body eight four (by rw [List.length_take, length]; omega)⟩

/-- Of frames that are cut off, those in front of the cut are found.  Behind them the stream ends,
if the cut is at the end of a frame, and is truncated otherwise. -/
theorem drain_take {records : List Bytes} (fit : ∀ record ∈ records, record.length ≤ maxWord)
    {n : Nat} (within : n ≤ (records.flatMap frame).length) :
    ∃ k ≤ records.length, (drain ⟨(records.flatMap frame).take n, false⟩).1 = records.take k ∧
      ((drain ⟨(records.flatMap frame).take n, false⟩).2 = .ok () ∧
          n = ((records.take k).flatMap frame).length ∨
        (∃ needed available, (drain ⟨(records.flatMap frame).take n, false⟩).2
          = .error (.truncated needed available)) ∧
          k < records.length ∧ ((records.take k).flatMap frame).length < n ∧
          n < ((records.take (k + 1)).flatMap frame).length) := by
  induction records generalizing n with
  | nil =>
      obtain rfl : n = 0 := Nat.le_zero.mp within
      exact ⟨0, Nat.le_refl 0, by simp [drain_nil], Or.inl ⟨by simp [drain_nil], rfl⟩⟩
  | cons record records ih =>
      rw [List.forall_mem_cons] at fit
      rw [List.flatMap_cons, List.length_append] at within
      rw [List.flatMap_cons]
      -- The cut is in front of the first frame, inside it, or behind it.
      by_cases none : n = 0
      · subst none
        exact ⟨0, Nat.zero_le _, by simp [drain_nil], Or.inl ⟨by simp [drain_nil], rfl⟩⟩
      by_cases part : n < (frame record).length
      · obtain ⟨needed, available, cut⟩ := cut_take_frame fit.1 (Nat.pos_of_ne_zero none) part
        rw [List.take_append_of_le_length (Nat.le_of_lt part), drain_cut cut]
        refine ⟨0, Nat.zero_le _, rfl, Or.inr ⟨⟨needed, available, rfl⟩, Nat.zero_lt_succ _,
          Nat.pos_of_ne_zero none, ?_⟩⟩
        simpa using part
      · have framed : Framed record ((frame record ++ records.flatMap frame).take n)
            ((records.flatMap frame).take (n - (frame record).length)) := by
          refine ⟨fit.1, ?_⟩
          rw [List.take_append, List.take_of_length_le (Nat.le_of_not_lt part)]
        obtain ⟨k, atMost, found, answer⟩ :=
          ih fit.2 (n := n - (frame record).length) (by omega)
        rw [drain_framed framed]
        refine ⟨k + 1, Nat.succ_le_succ atMost, by rw [found, List.take_succ_cons], ?_⟩
        simp only [List.take_succ_cons, List.flatMap_cons, List.length_append,
          List.length_cons, Nat.add_lt_add_iff_right]
        rcases answer with ⟨ended, here⟩ | ⟨truncated, more, behind, before⟩
        · exact Or.inl ⟨ended, by omega⟩
        · exact Or.inr ⟨truncated, more, by omega, by omega⟩

/-! ## Whole files -/

/-- Opens a file that should have the hash and reads it to the end. -/
def readAll (packing : Packing) (hash : Hash) (file : Bytes) :
    Except CacheError (List Bytes × Except CacheError Unit) :=
  match (ofFile packing file).validate hash with
  | (.ok (), s) => .ok s.drain
  | (.error why, _) => .error why

theorem readAll_of_stream {packing : Packing} {hash : Hash} (whole : hash.bytes.length = Hash.size)
    {file content : Bytes}
    (stream : ofFile packing file = ⟨Cache.header ++ (hash.bytes ++ content), false⟩) :
    readAll packing hash file = .ok (drain ⟨content, false⟩) := by
  have valid : (ofFile packing file).validate hash = (.ok (), ⟨content, false⟩) :=
    validate_eq_ok_iff.mpr ⟨whole, by rw [stream, List.append_assoc], by rw [stream]⟩
  rw [readAll, valid]

end Source

namespace Writer

/-- What has been written with the hash and the records. -/
def ofRecords (hash : Hash) (records : List Bytes) : Writer :=
  records.foldl record ((({} : Writer).write header).write hash.bytes)

theorem foldl_record (records : List Bytes) (w : Writer) :
    records.foldl record w
      = ⟨w.content ++ records.flatMap frame, w.records + records.length⟩ := by
  induction records generalizing w with
  | nil => simp
  | cons record records ih =>
      rw [List.foldl_cons, ih]
      simp only [Writer.record, Writer.write, List.flatMap_cons, List.append_assoc,
        List.length_cons, Writer.mk.injEq, true_and]
      omega

theorem ofRecords_eq (hash : Hash) (records : List Bytes) :
    ofRecords hash records = ⟨encode hash records, records.length⟩ := by
  rw [ofRecords, foldl_record]
  simp [write, encode]

end Writer

/-! ## The framing of a cache file -/

open Source

/-- A file that was written and then cut off behind its hash has the frames up to the cut. -/
theorem readAll_take (packing : Packing) {hash : Hash} (whole : hash.bytes.length = Hash.size)
    (records : List Bytes) {n : Nat} (behind : (header ++ hash.bytes).length ≤ n) :
    readAll packing hash (((Writer.ofRecords hash records).close packing false).take n)
      = .ok (drain ⟨(records.flatMap frame).take (n - (header ++ hash.bytes).length), false⟩) := by
  apply readAll_of_stream whole
  rw [Writer.ofRecords_eq, Writer.close, if_neg Bool.false_ne_true, encode, List.take_append,
    List.take_of_length_le behind, List.append_assoc, ofFile_header]

/-- **Records are framed exactly.**  Whatever bytes follow the header and the hash in the stream of
a file, packed or not, the records that are found are as many frames as stand at the front.  The
next answer is that there is none if nothing is left behind them, that the stream is truncated if
it ends inside the next frame, and that the checksum is wrong if the next frame is damaged; and one
of the three is the case.

So what was written is read back.  A file that was cut off somewhere behind its hash has the
records in front of the cut, and then none if a frame ends there, or else a truncated one.  Of the
packing, only that it is lawful is assumed, and only where a file is packed. -/
theorem framing_exact (packing : Packing) (hash : Hash) (whole : hash.bytes.length = Hash.size) :
    (∀ (content : Bytes) (count : Nat) (packed : Bool), (packed = true → packing.Lawful) →
      readAll packing hash
            (Writer.close ⟨header ++ hash.bytes ++ content, count⟩ packing packed)
          = .ok (drain ⟨content, false⟩) ∧
        (∀ records, (drain ⟨content, false⟩).1 = records ↔ ∃ rest, Front records content rest) ∧
        ∀ rest, Front (drain ⟨content, false⟩).1 content rest →
          ((drain ⟨content, false⟩).2 = .ok () ↔ rest = []) ∧
            (∀ needed available,
              (drain ⟨content, false⟩).2 = .error (.truncated needed available) ↔
                Cut rest needed available) ∧
            ((drain ⟨content, false⟩).2 = .error .checksum ↔ Damaged rest) ∧
            (rest = [] ∨ (∃ needed available, Cut rest needed available) ∨ Damaged rest)) ∧
      ∀ records : List Bytes, (∀ record ∈ records, record.length ≤ maxWord) →
        (∀ packed, (packed = true → packing.Lawful) →
          readAll packing hash ((Writer.ofRecords hash records).close packing packed)
            = .ok (records, .ok ())) ∧
        ∀ n, (header ++ hash.bytes).length ≤ n →
          n ≤ ((Writer.ofRecords hash records).close packing false).length →
          ∃ k ≤ records.length, ∃ answer,
            readAll packing hash (((Writer.ofRecords hash records).close packing false).take n)
                = .ok (records.take k, answer) ∧
              (answer = .ok () ∧
                  n = ((Writer.ofRecords hash (records.take k)).close packing false).length ∨
                (∃ needed available, answer = .error (.truncated needed available)) ∧
                  k < records.length ∧
                  ((Writer.ofRecords hash (records.take k)).close packing false).length < n ∧
                  n < ((Writer.ofRecords hash (records.take (k + 1))).close packing false).length) := by
  refine ⟨fun content count packed lawful => ⟨?_, fun records => drain_eq_iff_front,
    fun rest front => answer_of_front front⟩, fun records fit => ⟨fun packed lawful => ?_,
    fun n behind within => ?_⟩⟩
  · apply readAll_of_stream whole
    rw [List.append_assoc, ofFile_close_header lawful]
  · have drained : drain ⟨records.flatMap frame, false⟩ = (records, .ok ()) := by
      have frames : Frames records (records.flatMap frame) [] := ⟨fit, (List.append_nil _).symm⟩
      rw [drain_frames frames, drain_nil, List.append_nil]
    rw [← drained]
    apply readAll_of_stream whole
    rw [Writer.ofRecords_eq, ofFile_close lawful, encode, List.append_assoc]
  · have length (others : List Bytes) : ((Writer.ofRecords hash others).close packing false).length
        = (header ++ hash.bytes).length + (others.flatMap frame).length := by
      rw [Writer.ofRecords_eq, Writer.close, if_neg Bool.false_ne_true, encode, List.length_append]
    simp only [length] at within ⊢
    obtain ⟨k, atMost, found, answer⟩ :=
      drain_take fit (n := n - (header ++ hash.bytes).length) (by omega)
    refine ⟨k, atMost, _, (readAll_take packing whole records behind).trans
      (congrArg Except.ok (Prod.ext found rfl)), ?_⟩
    rcases answer with ⟨ended, here⟩ | ⟨truncated, more, before, inside⟩
    · exact Or.inl ⟨ended, by omega⟩
    · exact Or.inr ⟨truncated, more, by omega, by omega⟩

/-- A hash for the file below. -/
def sevens : Hash := ⟨List.replicate 32 7⟩

/-- Two records, framed in 15 and in 13 bytes behind 44 of header and hash. -/
def pair : List Bytes := [[1, 2, 3], [4]]

/-- The pair is read back, from a packed file too.  Cut off inside the second frame, the file has
the first record and then a truncated one. -/
theorem framing_of_pair :
    readAll .blocks sevens ((Writer.ofRecords sevens pair).close .blocks true) = .ok (pair, .ok ()) ∧
      ∃ needed available, readAll .blocks sevens (((Writer.ofRecords sevens pair).close .blocks false).take 64)
        = .ok ([[1, 2, 3]], .error (.truncated needed available)) := by
  have fit : ∀ record ∈ pair, record.length ≤ maxWord := by decide +kernel
  have front : (header ++ sevens.bytes).length = 44 := by decide +kernel
  have size (k : Nat) : ((Writer.ofRecords sevens (pair.take k)).close .blocks false).length
      = 44 + ((pair.take k).map (12 + ·.length)).sum := by
    rw [Writer.ofRecords_eq, Writer.close, if_neg Bool.false_ne_true, encode, List.length_append,
      List.length_flatMap, front]
    simp only [length_frame]
  have within : 64 ≤ ((Writer.ofRecords sevens pair).close .blocks false).length := by
    rw [← List.take_length (l := pair), size]
    decide
  have exactly := (framing_exact .blocks sevens (by decide)).2 pair fit
  refine ⟨exactly.1 true fun _ => Packing.blocks_lawful, ?_⟩
  obtain ⟨k, atMost, answer, read, cut⟩ := exactly.2 64 (by omega) within
  simp only [size] at cut
  have second : k = 1 ∧ ∃ needed available, answer = .error (.truncated needed available) := by
    have small : k ≤ 2 := atMost
    interval_cases k <;> simp_all [pair]
  obtain ⟨rfl, needed, available, rfl⟩ := second
  exact ⟨needed, available, read⟩

end Windchest.Cache
