/-
# Windchest.Proofs.Load.Corruption -- a damaged record does not reach its object

Something strikes the file of a cache: a row of at most four bytes in the body of one
record, or in its checksum, becomes another one.  The checksum of such a body is another
one too, so the record is refused; its length is as it was, so whoever goes on reading
finds the records behind it unchanged (`corruption_detected`).

An object is given a record only if as many whole frames stand in front of it
(`attempts_of_run`).  So in a load from the file no object is given the damaged record,
and the objects behind it get none.
-/
import Windchest.Proofs.Codec.Framing
import Windchest.Proofs.Digest.Checksum
import Windchest.Proofs.Files.System
import Windchest.Proofs.Load.Runs

namespace Windchest

set_option autoImplicit false

namespace Cache

/-- A row of at most four bytes between two positions has become another one. -/
inductive Struck (low high : Nat) : Bytes → Bytes → Prop where
  | row {front old new back : Bytes} (few : old.length ≤ 4) (length : new.length = old.length)
      (differs : new ≠ old) (above : low ≤ front.length)
      (below : front.length + old.length ≤ high) :
      Struck low high (front ++ old ++ back) (front ++ new ++ back)

namespace Struck

variable {low high : Nat} {before after : Bytes}

theorem same_length (struck : Struck low high before after) : after.length = before.length := by
  obtain ⟨-, length, -⟩ := struck
  simp only [List.length_append, length]

theorem ne (struck : Struck low high before after) : after ≠ before := by
  obtain ⟨-, -, differs, -⟩ := struck
  intro same
  exact differs (List.append_cancel_left (List.append_cancel_right same))

theorem checksum_ne (struck : Struck low high before after) :
    Checksum.ofBytes after ≠ Checksum.ofBytes before := by
  obtain ⟨few, length, differs, -⟩ := struck
  exact Checksum.ofBytes_ne _ _ few length differs

/-- Bytes that are struck between two others leave these as they are. -/
theorem inside {front middle back : Bytes}
    (struck : Struck front.length (front.length + middle.length) (front ++ (middle ++ back)) after) :
    ∃ middle', Struck 0 middle.length middle middle' ∧ after = front ++ (middle' ++ back) := by
  generalize is : front ++ (middle ++ back) = before at struck
  obtain @⟨left, old, new, right, few, length, differs, above, below⟩ := struck
  rw [List.append_assoc] at is
  obtain ⟨start, rfl⟩ : front <+: left :=
    List.prefix_of_prefix_length_le ⟨_, is⟩ (List.prefix_append _ _) above
  rw [List.append_assoc, List.append_right_inj, ← List.append_assoc] at is
  rw [List.length_append, Nat.add_assoc, Nat.add_le_add_iff_left, ← List.length_append] at below
  obtain ⟨rest, rfl⟩ : start ++ old <+: middle :=
    List.prefix_of_prefix_length_le (List.prefix_append _ right) ⟨_, is⟩ below
  rw [List.append_assoc, List.append_right_inj] at is
  refine ⟨start ++ new ++ rest, .row few length differs (Nat.zero_le _) ?_, ?_⟩
  · simp only [List.length_append, Nat.le_add_right]
  · rw [← is]
    simp only [List.append_assoc]

end Struck

namespace Source

/-- The answers to so many requests for the next record, whatever they are. -/
def answers : Nat → Source → List (Except CacheError (Option Bytes))
  | 0, _ => []
  | n + 1, s => s.next.1 :: answers n s.next.2

/-- Frames are answered by their records, one after the other. -/
theorem answers_frames {records : List Bytes} (fit : ∀ record ∈ records, record.length ≤ maxWord)
    (n : Nat) (rest : Bytes) :
    answers (records.length + n) ⟨records.flatMap frame ++ rest, false⟩
      = records.map (fun record => .ok (some record)) ++ answers n ⟨rest, false⟩ := by
  induction records with
  | nil => rw [List.length_nil, Nat.zero_add]; rfl
  | cons record records ih =>
      rw [List.forall_mem_cons] at fit
      have framed : Framed record ((record :: records).flatMap frame ++ rest)
          (records.flatMap frame ++ rest) := ⟨fit.1, by rw [List.flatMap_cons, List.append_assoc]⟩
      rw [List.length_cons, Nat.succ_add, answers, next_framed framed, ih fit.2]
      rfl

/-- At the end of a stream there is no record, however often one asks. -/
theorem answers_nil (n : Nat) : answers n ⟨[], false⟩ = List.replicate n (.ok none) := by
  induction n with
  | zero => rfl
  | succ n ih => exact congrArg _ ih

/-- What stands in the place of the frame of a record whose body or checksum was struck is refused,
and reading goes on behind it. -/
theorem next_of_struck {front back record file : Bytes} (fits : record.length ≤ maxWord)
    (struck :
      Struck (front.length + 8) (front.length + 12) (front ++ (frame record ++ back)) file ∨
      Struck (front.length + 12) (front.length + 12 + record.length)
        (front ++ (frame record ++ back)) file) :
    ∃ damaged, file = front ++ (damaged ++ back) ∧ ∀ rest,
      next ⟨damaged ++ rest, false⟩ = (.error .checksum, ⟨rest, false⟩) := by
  have eight := Bytes.length_ofNat 8 record.length
  have four := Bytes.length_ofNat 4 (Checksum.ofBytes record).toNat
  have length : (Bytes.ofNat 8 record.length).toNat = record.length :=
    Bytes.toNat_ofNat (by unfold maxWord at fits; omega)
  have check : (Bytes.ofNat 4 (Checksum.ofBytes record).toNat).toNat
      = (Checksum.ofBytes record).toNat := Bytes.toNat_ofNat (Checksum.ofBytes record).toNat_lt
  rcases struck with struck | struck
  · have split : front ++ (frame record ++ back)
        = (front ++ Bytes.ofNat 8 record.length)
          ++ (Bytes.ofNat 4 (Checksum.ofBytes record).toNat ++ (record ++ back)) := by
      simp only [frame, List.append_assoc]
    have start : front.length + 8 = (front ++ Bytes.ofNat 8 record.length).length := by
      rw [List.length_append, eight]
    have stop : front.length + 12 = (front ++ Bytes.ofNat 8 record.length).length
        + (Bytes.ofNat 4 (Checksum.ofBytes record).toNat).length := by
      rw [List.length_append, eight, four]
    rw [split, stop, start] at struck
    obtain ⟨other, changed, rfl⟩ := struck.inside
    have width : other.length = 4 := changed.same_length.trans four
    refine ⟨Bytes.ofNat 8 record.length ++ (other ++ record), by simp only [List.append_assoc],
      fun rest => ?_⟩
    rw [List.append_assoc, List.append_assoc]
    refine next_refused eight width length.symm (fun same => changed.ne ?_) rest
    rw [same, ← width, Bytes.ofNat_toNat]
  · have split : front ++ (frame record ++ back)
        = (front ++ (Bytes.ofNat 8 record.length ++ Bytes.ofNat 4 (Checksum.ofBytes record).toNat))
          ++ (record ++ back) := by
      simp only [frame, List.append_assoc]
    have start : front.length + 12 = (front ++ (Bytes.ofNat 8 record.length
        ++ Bytes.ofNat 4 (Checksum.ofBytes record).toNat)).length := by
      rw [List.length_append, List.length_append, eight, four]
    rw [split, start] at struck
    obtain ⟨other, changed, rfl⟩ := struck.inside
    refine ⟨Bytes.ofNat 8 record.length ++ (Bytes.ofNat 4 (Checksum.ofBytes record).toNat ++ other),
      by simp only [List.append_assoc], fun rest => ?_⟩
    rw [List.append_assoc, List.append_assoc]
    refine next_refused eight four (changed.same_length.trans length.symm) (fun same => ?_) rest
    exact changed.checksum_ne (UInt32.toNat_inj.mp (same.trans check))

end Source

end Cache

open Cache

namespace CacheWalk

variable {α : Type} [Loadable α] {report : Reporter} {files : FileSystem} {target : CacheTarget}
  {objects : List α} {a : Arena} {w : CacheWalk α}

/-- No object is given a record beyond those that are found at the front of the cache. -/
theorem attempts_of_run {s : Source} (found : source files target = .ok s)
    (ran : run files target report objects a = .ok w) :
    ∀ attempt ∈ w.attempts, attempt.index < s.drain.1.length := by
  rcases run_cases ran with ⟨usage, none, -⟩ |
    ⟨records, last, b, front, read, left, is, -, reads, stop⟩
  · rw [none] at found
    cases found
  obtain rfl : records = s := Except.ok.inj (is.symm.trans found)
  obtain ⟨taken, length, fit, content, -⟩ := reads.records
  have drained := Source.drain_frames ⟨fit, content⟩ records.broken
  have given : records.drain.1 = taken ++ (Source.drain ⟨last.content, records.broken⟩).1 :=
    congrArg Prod.fst drained
  -- The objects that were read have as many records, and one more is found if another is given one.
  have inFront : ∀ attempt ∈ successes 0 front.length, attempt.index < records.drain.1.length := by
    intro attempt mem
    have below := (successes_index mem).2.1
    rw [given, List.length_append]
    omega
  have another {record : Bytes} (intact : (nextRecord last).1 = .ok record) :
      read.length < records.drain.1.length := by
    have framed := (nextRecord_eq_ok_iff.mp (Prod.ext intact rfl)).1
    have more := Source.drain_framed framed records.broken
    rw [given, List.length_append, reads.length, congrArg Prod.fst more, List.length_cons]
    omega
  cases stop with
  | full trace quiet => exact inFront
  | cancelled left trace declined => exact inFront
  | short object rest record why trace quiet intact result =>
      intro attempt mem
      rcases List.mem_append.mp mem with earlier | here
      · exact inFront attempt earlier
      · rw [List.mem_singleton.mp here]
        exact another intact
  | unusable object rest why trace quiet result =>
      intro attempt mem
      rcases List.mem_append.mp mem with earlier | here
      · exact inFront attempt earlier
      · cases intact : (nextRecord last).1 with
        | error why =>
            rw [intact] at here
            exact absurd here List.not_mem_nil
        | ok record =>
            rw [intact] at here
            rw [List.mem_singleton.mp here]
            exact another intact

end CacheWalk

/-- **Damage to a record is noticed.**  A file that was written with the hash and the records, and
struck in the body or in the checksum of one of them, is answered by the records in front of it, by
a wrong checksum in its place, and by the records behind it.

In no load from the file, however it runs, is an object given the damaged record or one behind it. -/
theorem corruption_detected {packing : Packing} {hash : Hash} (whole : hash.bytes.length = Hash.size)
    {front back : List Bytes} {record : Bytes}
    (fit : ∀ r ∈ front ++ record :: back, r.length ≤ maxWord) {start : Nat}
    (behind : start = ((Writer.ofRecords hash front).close packing false).length) {file : Bytes}
    (struck :
      Struck (start + 8) (start + 12)
        ((Writer.ofRecords hash (front ++ record :: back)).close packing false) file ∨
      Struck (start + 12) (start + 12 + record.length)
        ((Writer.ofRecords hash (front ++ record :: back)).close packing false) file) :
    (∃ source, (Source.ofFile packing file).validate hash = (.ok (), source) ∧
      ∀ n, source.answers (front.length + (1 + (back.length + n)))
        = front.map (fun r => .ok (some r)) ++ (.error .checksum ::
            (back.map (fun r => .ok (some r)) ++ List.replicate n (.ok none)))) ∧
    ∀ {α : Type} [Loadable α] (report : Reporter) (store : Store) (path : String)
      (concurrency : Nat) (stage : Stage α) (r : LoadResult α),
      stage.files.read path = .ok file → Loads report store ⟨path, hash, packing⟩ concurrency stage r →
        ∀ attempt ∈ r.fromCache, attempt.index < front.length := by
  obtain ⟨frontFit, fit⟩ := List.forall_mem_append.mp fit
  obtain ⟨fits, backFit⟩ := List.forall_mem_cons.mp fit
  have written : (Writer.ofRecords hash (front ++ record :: back)).close packing false
      = (header ++ hash.bytes ++ front.flatMap frame) ++ (frame record ++ back.flatMap frame) := by
    rw [Writer.ofRecords_eq, Writer.close, if_neg Bool.false_ne_true, encode, List.flatMap_append,
      List.flatMap_cons, List.append_assoc (header ++ hash.bytes)]
  rw [Writer.ofRecords_eq, Writer.close, if_neg Bool.false_ne_true, encode] at behind
  rw [written, behind] at struck
  obtain ⟨damaged, rfl, refused⟩ := Source.next_of_struck fits struck
  have stream : Source.ofFile packing (header ++ hash.bytes ++ front.flatMap frame
      ++ (damaged ++ back.flatMap frame))
      = ⟨header ++ (hash.bytes ++ (front.flatMap frame ++ (damaged ++ back.flatMap frame))), false⟩ := by
    simp only [List.append_assoc, Source.ofFile_header]
  have valid : (Source.ofFile packing (header ++ hash.bytes ++ front.flatMap frame
      ++ (damaged ++ back.flatMap frame))).validate hash
      = (.ok (), ⟨front.flatMap frame ++ (damaged ++ back.flatMap frame), false⟩) :=
    Source.validate_eq_ok_iff.mpr ⟨whole, by rw [stream, List.append_assoc], by rw [stream]⟩
  refine ⟨⟨_, valid, fun n => ?_⟩, fun report store path concurrency stage r stored run => ?_⟩
  · rw [Source.answers_frames frontFit, Nat.add_comm 1, Source.answers, refused,
      ← List.append_nil (back.flatMap frame), Source.answers_frames backFit, Source.answers_nil]
  · have found : CacheWalk.source stage.files ⟨path, hash, packing⟩
        = .ok ⟨front.flatMap frame ++ (damaged ++ back.flatMap frame), false⟩ := by
      have present : stage.files.contains path = true := FileSystem.contains_of_read stored
      rw [CacheWalk.source, present, stored]
      simp only [Bool.not_true, Bool.false_eq_true, if_false, valid]
    have drained : (Source.drain ⟨front.flatMap frame ++ (damaged ++ back.flatMap frame), false⟩).1
        = front := by
      rw [Source.drain_frames ⟨frontFit, rfl⟩, Source.drain_error (by rw [refused]),
        List.append_nil]
    rw [← drained]
    cases run with
    | cached walked settled => exact CacheWalk.attempts_of_run found walked
    | crewed walked goesOn reaches rest => exact CacheWalk.attempts_of_run found walked

/-- Three records, of which the second one stands from 69 on. -/
def trio : List Bytes := [[9], [1, 2, 3, 4, 5], [4]]

/-- The file of the three records, in which the middle of the second one was struck. -/
def struckTrio : Bytes :=
  let file := (Writer.ofRecords sevens trio).close .blocks false
  file.take 70 ++ [0, 3, 0] ++ file.drop 73

/-- The second of the three records is refused, and the third one is found behind it. -/
theorem trio_detected :
    sevens.bytes.length = Hash.size ∧ (∀ r ∈ trio, r.length ≤ maxWord) ∧
      Struck 69 74 ((Writer.ofRecords sevens trio).close .blocks false) struckTrio ∧
      ∃ source, (Source.ofFile .blocks struckTrio).validate sevens = (.ok (), source) ∧
        source.answers 4 = [.ok (some [9]), .error .checksum, .ok (some [4]), .ok none] := by
  have whole : sevens.bytes.length = Hash.size := by decide
  have fit : ∀ r ∈ ([[9]] : List Bytes) ++ [1, 2, 3, 4, 5] :: [[4]], r.length ≤ maxWord := by decide
  have start : 57 = ((Writer.ofRecords sevens [[9]]).close .blocks false).length := by decide +kernel
  have struck : Struck 69 74 ((Writer.ofRecords sevens trio).close .blocks false) struckTrio := by
    have written : (Writer.ofRecords sevens trio).close .blocks false
        = ((Writer.ofRecords sevens trio).close .blocks false).take 70 ++ [2, 3, 4]
          ++ ((Writer.ofRecords sevens trio).close .blocks false).drop 73 := by decide +kernel
    have place : (((Writer.ofRecords sevens trio).close .blocks false).take 70).length = 70 := by
      decide +kernel
    nth_rewrite 1 [written]
    exact .row (by decide) rfl (by decide) (by rw [place]; decide) (by rw [place]; decide)
  obtain ⟨⟨source, valid, answers⟩, -⟩ := corruption_detected whole fit start (.inr struck)
  exact ⟨whole, fit, struck, source, valid, answers 1⟩

end Windchest
