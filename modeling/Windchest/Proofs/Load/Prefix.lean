/-
# Windchest.Proofs.Load.Prefix -- how far the cache goes, and what comes from files

Unless a load is cancelled or runs out of memory, its cache usage tells a number `k` of
records.  The cache stream holds as many intact records that the first `k` objects
accept, and no such record for the next object; the first `k` objects come from these
records, and each of the others from its files, exactly once
(`loads_longest_prefix`).  Damage of any kind ends the prefix and nothing else.
-/
import Windchest.Proofs.Codec.Stream
import Windchest.Proofs.Load.Truth

namespace Windchest

set_option autoImplicit false

open Cache (Source Framed)

/-- The number of records that were used, among so many objects. -/
def CacheUsage.records (total : Nat) : CacheUsage → Nat
  | absent => 0
  | rejected => 0
  | partially records => records
  | full => total

variable {α : Type} [Loadable α]

/-- An object can be loaded from a record, if there is room. -/
def Accepts (object : α) (record : Bytes) : Prop :=
  ∃ install, (Loadable.fromRecord record object).promised = .ok install

/-- The cache at the target holds these records for the first objects, intact and accepted, and
none for the next object that is intact and accepted. -/
structure LongestPrefix (files : FileSystem) (target : CacheTarget) (objects : List α)
    (records : List Bytes) : Prop where
  bound : records.length ≤ objects.length
  fit : ∀ record ∈ records, record.length ≤ maxWord
  accepted : ∀ (i : Nat) (record : Bytes) (object : α), records[i]? = some record → objects[i]? = some object →
    Accepts object record
  stream : ∃ file rest, files.read target.path = .ok file ∧
    (Source.ofFile target.packing file).content = Cache.encode target.hash records ++ rest ∧
    ∀ object, objects[records.length]? = some object →
      ∀ record more, Framed record rest more → ¬ Accepts object record

namespace CacheWalk

theorem source_eq_error {files : FileSystem} {target : CacheTarget} {usage : CacheUsage}
    (none : source files target = .error usage) : usage = .absent ∨ usage = .rejected := by
  unfold source at none
  split at none
  · exact Or.inl (Except.error.inj none).symm
  · split at none
    · exact Or.inr (Except.error.inj none).symm
    · split at none
      · exact Or.inr (Except.error.inj none).symm
      · cases none

/-- A cache that is read starts with the header and the expected hash. -/
theorem source_eq_ok {files : FileSystem} {target : CacheTarget} {records : Source}
    (found : source files target = .ok records) :
    ∃ file, files.read target.path = .ok file ∧
      (Source.ofFile target.packing file).validate target.hash = (.ok (), records) := by
  unfold source at found
  split at found
  · cases found
  · split at found
    · cases found
    · rename_i file read
      split at found
      · cases found
      · rename_i valid
        obtain rfl := Except.ok.inj found
        exact ⟨file, read, valid⟩

/-- The objects that were read are the longest prefix, if the next object cannot use the cache. -/
theorem Reads.longestPrefix {files : FileSystem} {target : CacheTarget} {source last : Source}
    {a b : Arena} {front read left : List α} (reads : Reads source a front read last b)
    (found : CacheWalk.source files target = .ok source)
    (next : ∀ object ∈ left.head?, ∀ record more, Framed record last.content more →
      ¬ Accepts object record) :
    ∃ records : List Bytes, records.length = read.length ∧
      LongestPrefix files target (front ++ left) records ∧
      ∀ (i : Nat) (record : Bytes) (object : α), records[i]? = some record →
        (front ++ left)[i]? = some object → ∃ result, read[i]? = some result ∧
          (Loadable.fromRecord record object).Ends b result (.ok ()) := by
  obtain ⟨file, opened, valid⟩ := source_eq_ok found
  obtain ⟨-, content, -⟩ := Source.validate_eq_ok_iff.mp valid
  obtain ⟨records, length, fit, framed, ends⟩ := reads.records
  have ends (i : Nat) (record : Bytes) (object : α) (at_i : records[i]? = some record)
      (object_is : (front ++ left)[i]? = some object) := ends i record object at_i (by
    rwa [List.getElem?_append_left] at object_is
    rw [← length]
    exact (List.getElem?_eq_some_iff.mp at_i).1)
  refine ⟨records, by rw [length, reads.length], ⟨?_, fit, ?_, ?_⟩, ends⟩
  · rw [length, List.length_append]
    exact Nat.le_add_right _ _
  · intro i record object at_i object_is
    obtain ⟨result, -, ended⟩ := ends i record object at_i object_is
    cases ended with
    | loaded install ids promised resolved => exact ⟨install, promised⟩
  · refine ⟨file, last.content, opened, ?_, fun object object_is => next object ?_⟩
    · rw [content, framed, Cache.encode, List.append_assoc, List.append_assoc, List.append_assoc]
    · rw [length, List.getElem?_append_right (Nat.le_refl _), Nat.sub_self] at object_is
      rw [List.head?_eq_getElem?, object_is]
      rfl

/-- A walk that was not interrupted ends behind the longest prefix of usable records. -/
theorem prefix_of_run {files : FileSystem} {target : CacheTarget} {report : Reporter}
    {objects : List α} {a : Arena} {w : CacheWalk α}
    (ran : run files target report objects a = .ok w) (goesOn : w.cancelled = false)
    (enough : w.outOfMemory = false) :
    w.distributor.loaded = w.usage.records objects.length ∧
    (∀ i < w.distributor.loaded, ⟨i, .ok ()⟩ ∈ w.attempts) ∧
    (∀ attempt ∈ w.attempts, attempt.index ≤ w.distributor.loaded) ∧
    (w.usage ≠ .absent → w.usage ≠ .rejected → ∃ records : List Bytes,
      records.length = w.distributor.loaded ∧ LongestPrefix files target objects records ∧
      ∀ (i : Nat) (record : Bytes) (object : α), records[i]? = some record →
        objects[i]? = some object → ∃ result, w.objects[i]? = some result ∧
          (Loadable.fromRecord record object).Ends w.arena result (.ok ())) := by
  rcases run_cases ran with ⟨usage, none, rfl⟩ |
    ⟨records, last, b, front, read, left, found, rfl, reads, stop⟩
  · refine ⟨?_, ?_, ?_, ?_⟩
    · rcases source_eq_error none with rfl | rfl
      · rfl
      · rfl
    · intro i few
      exact absurd few (Nat.not_lt_zero i)
    · intro attempt mem
      exact absurd mem List.not_mem_nil
    · intro present accepted
      rcases source_eq_error none with rfl | rfl
      · exact absurd rfl present
      · exact absurd rfl accepted
  · have same := reads.length
    cases stop with
    | full trace quiet =>
        refine ⟨by simp [CacheUsage.records, same], ?_, ?_, ?_⟩
        · intro i few
          exact mem_successes (Nat.zero_le i) (by simpa [← same] using few)
        · intro attempt mem
          have := (successes_index mem).2.1
          simp only [same]
          omega
        · intro _ _
          apply reads.longestPrefix found
          intro object no
          cases no
    | cancelled left trace declined => cases goesOn
    | short object rest record why trace quiet intact result => cases enough
    | unusable object rest why trace quiet result =>
        refine ⟨rfl, ?_, ?_, ?_⟩
        · intro i few
          apply List.mem_append_left
          exact mem_successes (Nat.zero_le i) (by simpa [← same] using few)
        · intro attempt mem
          rcases List.mem_append.mp mem with success | tried
          · have := (successes_index success).2.1
            simp only [same]
            omega
          · split at tried
            · obtain rfl := List.mem_singleton.mp tried
              exact Nat.le_refl _
            · exact absurd tried List.not_mem_nil
        · intro _ _
          have refused : ∀ next ∈ (object :: rest).head?, ∀ record more,
              Framed record last.content more → ¬ Accepts next record := by
            rintro next is record more framed ⟨install, promised⟩
            obtain rfl : object = next := Option.some.inj is
            have intact : nextRecord last = (.ok record, ⟨more, last.broken⟩) :=
              nextRecord_eq_ok_iff.mpr ⟨framed, rfl⟩
            rw [intact] at result
            have ended := (Plan.carryOut_ends (planFor object (.ok record)) b).2
            rw [result] at ended
            have failed := ended.promised fun _ no => by cases no
            rw [show (planFor object (.ok record)).promised = .ok install from promised] at failed
            cases failed
          obtain ⟨records, length, longest, ends⟩ := reads.longestPrefix found refused
          refine ⟨records, length, longest, ?_⟩
          intro i record before at_i before_is
          obtain ⟨result, is, ended⟩ := ends i record before at_i before_is
          have inRead : i < read.length := (List.getElem?_eq_some_iff.mp is).1
          exact ⟨result, by rw [List.getElem?_append_left inRead, is],
            ended.of_grows (Plan.carryOut_ends _ _).1⟩

end CacheWalk

namespace LoadResult

/-- The first `k` objects come from the cache, and the others from their files. -/
structure SplitAt (files : FileSystem) (target : CacheTarget) (objects : List α) (k : Nat)
    (r : LoadResult α) : Prop where
  bound : k ≤ objects.length
  /-- Unless the cache was not read at all, `k` is the length of the longest usable prefix of its
  records, and the objects are what these records hold. -/
  longest : r.usage ≠ .absent → r.usage ≠ .rejected → ∃ records : List Bytes,
    records.length = k ∧ LongestPrefix files target objects records ∧
    ∀ (i : Nat) (record : Bytes) (before : α), records[i]? = some record →
      objects[i]? = some before → ∃ object, r.objects[i]? = some object ∧
        (Loadable.fromRecord record before).Ends r.arena object (.ok ())
  cached : ∀ i < k, ⟨i, .ok ()⟩ ∈ r.fromCache ∧
    ∃ object, r.objects[i]? = some object ∧ Loadable.isReady object = true
  /-- Reading a record is not tried behind the next object. -/
  tried : ∀ attempt ∈ r.fromCache, attempt.index ≤ k
  once : ∀ i, r.fromFiles.countP (·.index == i) = if k ≤ i ∧ i < objects.length then 1 else 0
  complete : r.outcome = .complete ↔ ∀ attempt ∈ r.fromFiles, attempt.succeeded = true

end LoadResult

namespace CacheWalk

variable [LawfulLoadable α] {report : Reporter} {store : Store} {target : CacheTarget}
  {workers : Nat} {stage : Stage α} {w : CacheWalk α}

/-- The split of a load that the cache completes. -/
theorem splitAt_result
    (walked : run stage.files target report (stage.objects.map Loadable.reset) stage.arena = .ok w)
    (settled : w.crew? report store workers = none) (goesOn : w.cancelled = false)
    (enough : w.outOfMemory = false) :
    w.result.SplitAt stage.files target (stage.objects.map Loadable.reset)
      (w.usage.records stage.objects.length) := by
  have done := done_of_run walked
  have sorted := sorted_result done settled
  obtain ⟨loaded, cached, tried, longest⟩ := prefix_of_run walked goesOn enough
  rw [List.length_map] at loaded
  rw [← loaded]
  have all := (loaded_of_settled done settled enough goesOn).2.2
  have length : w.objects.length = (stage.objects.map Loadable.reset).length := done.length
  constructor
  · omega
  · exact longest
  · intro i few
    exact ⟨cached i few, done.isReady few⟩
  · exact tried
  · intro i
    rw [if_neg (by omega)]
    rfl
  · have ready : w.objects.all Loadable.isReady = true := by
      apply sorted.all_ready_iff_mem.mpr
      intro i inside
      exact List.mem_range.mpr (all ▸ inside)
    have complete : w.result.outcome = .complete := by
      rw [sorted.outcome_eq]
      simp [result, enough, goesOn, ready]
    apply iff_of_true complete
    intro attempt mem
    exact absurd mem List.not_mem_nil

/-- The split of a load whose other objects a crew has loaded: the crew leaves what came from the
cache alone, and tries each of the others once. -/
theorem splitAt_resultWith {s c : Crew α}
    (walked : run stage.files target report (stage.objects.map Loadable.reset) stage.arena = .ok w)
    (crew : w.crew? report store workers = some s) (reaches : s.Reaches c) (rest : c.AtRest)
    (goesOn : c.cancelled = false) (enough : c.outOfMemory = false) :
    (w.resultWith c).SplitAt stage.files target (stage.objects.map Loadable.reset)
      (w.usage.records stage.objects.length) := by
  have done := done_of_run walked
  have sorted := sorted_resultWith done crew reaches rest
  have finished := finished_of_crew? done crew reaches rest
  obtain ⟨-, plans, is, arena, distributor, -, -, unshort, uncancelled⟩ := crew?_eq_some done crew
  obtain ⟨loaded, cached, tried, longest⟩ := prefix_of_run walked uncancelled unshort
  rw [List.length_map] at loaded
  rw [← loaded]
  have reached : c.distributor.pos = (stage.objects.map Loadable.reset).length :=
    (sorted.all enough goesOn).trans sorted.total
  have length : c.objects.length = (stage.objects.map Loadable.reset).length := sorted.length
  have started := finished.started
  have kept (i : Nat) (few : i < w.distributor.loaded) : c.objects[i]? = w.objects[i]? := by
    rw [finished.untouched i (by omega), is]
  constructor
  · omega
  · intro present accepted
    obtain ⟨records, count, prefixed, ends⟩ := longest present accepted
    refine ⟨records, count, prefixed, ?_⟩
    intro i record before at_i before_is
    obtain ⟨object, object_is, ended⟩ := ends i record before at_i before_is
    have few : i < w.distributor.loaded := count ▸ (List.getElem?_eq_some_iff.mp at_i).1
    exact ⟨object, (kept i few).trans object_is, ended.of_grows (arena ▸ finished.follows.grows)⟩
  · intro i few
    obtain ⟨object, object_is, isReady⟩ := done.isReady few
    exact ⟨cached i few, object, (kept i few).trans object_is, isReady⟩
  · exact tried
  · intro i
    rw [← reached]
    exact finished.once i
  · have complete : (w.resultWith c).outcome = .complete ↔
        c.objects.all Loadable.isReady = true := by
      rw [sorted.outcome_eq]
      simp [resultWith, enough, goesOn]
    have allReady : c.objects.all Loadable.isReady = true ↔ ∀ i < c.objects.length,
        i ∈ List.range w.distributor.loaded
          ++ (c.attempts.filter (·.succeeded)).map (·.index) := sorted.all_ready_iff_mem
    rw [complete, allReady, length, ← reached]
    refine Iff.trans ?_ finished.all_succeeded_iff.symm
    apply forall₂_congr
    intro i inside
    rw [List.mem_append, List.mem_range, ← Nat.not_le, or_iff_not_imp_left, not_not]

end CacheWalk

/-- **A load takes the longest usable prefix of the cache, and each other object once from its
files**, whatever the cache holds, unless the load is cancelled or short of room. -/
theorem loads_longest_prefix [LawfulLoadable α] {report : Reporter} {store : Store}
    {target : CacheTarget} {concurrency : Nat} {stage : Stage α} {r : LoadResult α}
    (run : Loads report store target concurrency stage r) (goesOn : ¬ Declined report r.trace)
    (enough : ¬ r.RanOut) :
    r.SplitAt stage.files target (stage.objects.map Loadable.reset)
      (r.usage.records stage.objects.length) := by
  obtain ⟨ready, sorted⟩ := sorted_of_loads run
  have uncancelled : r.cancelled = false := by
    apply Bool.eq_false_iff.mpr
    intro cancelled
    exact goesOn (sorted.declined.mp cancelled)
  have unshort : r.outOfMemory = false := by
    apply Bool.eq_false_iff.mpr
    intro short
    exact enough (sorted.shortage.mp short)
  cases run with
  | cached walked settled => exact CacheWalk.splitAt_result walked settled uncancelled unshort
  | crewed walked crew reaches rest =>
      exact CacheWalk.splitAt_resultWith walked crew reaches rest uncancelled unshort

/-- The small chest takes its first pipe from the cache and the others from their files. -/
theorem smallChest_split : ∃ r, Loads Reporter.patient smallStore smallTarget 2 smallChest r ∧
    r.SplitAt smallChest.files smallTarget (smallChest.objects.map Loadable.reset) 1 := by
  obtain ⟨r, run, usage, -, -, -, enough⟩ := smallChest_loads
  have split := loads_longest_prefix run (not_declined_of_patient (fun _ => rfl) _) enough
  rw [usage] at split
  exact ⟨r, run, split⟩

end Windchest
