/-
# Windchest.Proofs.Load.Probe -- what a probe says of a cache, a load makes of it

A probe looks at the header and the hash of a cache and no further, and a load decides by
the same bytes, on a way of its own, whether it reads the records.  So the two agree
(`probe_agrees_with_load`): a cache is rejected as a whole if it is probed as anything but
valid, and if it is probed as valid the load takes what it can from it, be it nothing.

`probe_of_read` says what the status of a file is, whatever its bytes are, packed or not,
and `CacheStatus.Means` what each status tells of a path.  A load that gives no answer at all
has come by an intact record on which its object gives up (`CacheWalk.fault_of_run`).
-/
import Windchest.Proofs.Files.System
import Windchest.Proofs.Load.Prefix

namespace Windchest

set_option autoImplicit false

open Cache (Source)

namespace Cache

/-- Every answer that a stream can be validated with, told by its first bytes. -/
theorem Source.validate_answers (s : Source) {hash : Hash} (whole : hash.bytes.length = Hash.size) :
    (s.validate hash).1 =
      if ¬ Cache.header <+: s.content then .error .badMagic
      else if s.content.length < Cache.header.length + Hash.size then .error .noHash
      else if Cache.header ++ hash.bytes <+: s.content then .ok ()
      else .error .otherHash := by
  by_cases headed : Cache.header <+: s.content
  · obtain ⟨rest, content⟩ := headed
    have first : s.header = (true, ⟨rest, s.broken⟩) :=
      header_eq_true_iff.mpr ⟨content.symm, rfl⟩
    have expected : hash.bytes <+: rest ↔ Hash.mk (rest.take Hash.size) = hash := by
      rw [List.prefix_iff_eq_take, whole, eq_comm]
      exact ⟨fun same => congrArg Hash.mk same, congrArg Hash.bytes⟩
    rw [if_neg (not_not.mpr ⟨rest, content⟩)]
    simp only [← content, List.length_append, Nat.add_lt_add_iff_left, expected,
      List.prefix_append_right_inj]
    simp only [validate, first, hash?, exactly?]
    by_cases short : rest.length < Hash.size
    · rw [if_pos short, if_neg (Nat.not_le_of_lt short)]
      rfl
    · rw [if_neg short, if_pos (Nat.le_of_not_lt short)]
      rfl
  · have first : s.header.1 = false := by
      rw [Bool.eq_false_iff]
      intro passed
      obtain ⟨content, -⟩ := header_eq_true_iff.mp (Prod.ext passed rfl : s.header = (true, s.header.2))
      exact headed ⟨_, content.symm⟩
    rw [if_pos headed, validate]
    split
    · rfl
    · rename_i passed
      rw [passed] at first
      cases first

variable {packing : Packing} {fs : FileSystem} {path : String} {hash : Hash}

/-- The status of a file. -/
theorem probe_of_read {file : Bytes} (whole : hash.bytes.length = Hash.size)
    (stored : fs.read path = .ok file) :
    probe packing fs path hash =
      if ¬ header <+: (Source.ofFile packing file).content then .badMagic
      else if (Source.ofFile packing file).content.length < header.length + Hash.size then .unreadable
      else if header ++ hash.bytes <+: (Source.ofFile packing file).content then .valid
      else .outdated := by
  simp only [probe, FileSystem.contains_of_read stored, Bool.not_true, Bool.false_eq_true, if_false,
    stored, Source.validate_answers _ whole]
  split_ifs <;> rfl

theorem probe_of_isDirectory (directory : fs.isDirectory path = true) :
    probe packing fs path hash = .unreadable := by
  obtain ⟨there, unread⟩ := FileSystem.read_of_isDirectory directory
  simp [probe, there, unread]

theorem probe_eq_absent_iff : probe packing fs path hash = .absent ↔ fs.contains path = false := by
  unfold probe
  cases there : fs.contains path with
  | false => simp
  | true =>
      simp only [Bool.not_true, Bool.false_eq_true, if_false, Bool.true_eq_false, iff_false]
      split
      · exact CacheStatus.noConfusion
      · split <;> exact CacheStatus.noConfusion

end Cache

/-- What each status says about what lies at a path.  The stream of a file is its unpacked content,
up to the first thing that makes no sense, if it is packed, and the file itself otherwise. -/
structure CacheStatus.Means (packing : Packing) (fs : FileSystem) (path : String) (hash : Hash)
    (status : CacheStatus) : Prop where
  absent : status = .absent ↔ fs.contains path = false
  /-- There is a directory, or a file whose stream ends inside the hash. -/
  unreadable : status = .unreadable ↔ fs.isDirectory path = true ∨ ∃ file, fs.read path = .ok file ∧
    Cache.header <+: (Source.ofFile packing file).content ∧
      (Source.ofFile packing file).content.length < Cache.header.length + Hash.size
  /-- The stream does not begin with the header. -/
  badMagic : status = .badMagic ↔ ∃ file, fs.read path = .ok file ∧
    ¬ Cache.header <+: (Source.ofFile packing file).content
  /-- The stream begins with the header and the expected hash. -/
  valid : status = .valid ↔ ∃ file, fs.read path = .ok file ∧
    Cache.header ++ hash.bytes <+: (Source.ofFile packing file).content
  /-- The stream begins with the header and another hash. -/
  outdated : status = .outdated ↔ ∃ file, fs.read path = .ok file ∧
    Cache.header <+: (Source.ofFile packing file).content ∧
      Cache.header.length + Hash.size ≤ (Source.ofFile packing file).content.length ∧
        ¬ Cache.header ++ hash.bytes <+: (Source.ofFile packing file).content

/-- A probe tells the truth about what lies at a path. -/
theorem CacheStatus.means_probe (packing : Packing) (fs : FileSystem) (path : String) {hash : Hash}
    (whole : hash.bytes.length = Hash.size) :
    (Cache.probe packing fs path hash).Means packing fs path hash := by
  cases there : fs.contains path with
  | false =>
      have unread (file : Bytes) : fs.read path ≠ .ok file := by
        intro stored
        exact Bool.false_ne_true (there.symm.trans (FileSystem.contains_of_read stored))
      have noDirectory : fs.isDirectory path = false := by
        rw [Bool.eq_false_iff]
        intro directory
        exact Bool.false_ne_true (there.symm.trans (FileSystem.read_of_isDirectory directory).1)
      rw [Cache.probe_eq_absent_iff.mpr there]
      constructor <;> simp [there, unread, noDirectory]
  | true =>
      rcases FileSystem.isDirectory_or_read there with directory | ⟨file, stored⟩
      · obtain ⟨-, unread⟩ := FileSystem.read_of_isDirectory directory
        rw [Cache.probe_of_isDirectory directory]
        constructor <;> simp [there, unread, directory]
      · have noDirectory := FileSystem.isDirectory_of_read stored
        rw [Cache.probe_of_read whole stored]
        by_cases headed : Cache.header <+: (Source.ofFile packing file).content
        · by_cases short : (Source.ofFile packing file).content.length < Cache.header.length + Hash.size
          · have other : ¬ Cache.header ++ hash.bytes <+: (Source.ofFile packing file).content := by
              intro valid
              have long := valid.length_le
              rw [List.length_append, whole] at long
              exact Nat.not_lt_of_le long short
            constructor <;> simp [there, stored, noDirectory, headed, short, other]
          · have long := Nat.le_of_not_lt short
            by_cases valid : Cache.header ++ hash.bytes <+: (Source.ofFile packing file).content <;>
              constructor <;> simp [there, stored, noDirectory, headed, short, long, valid]
        · have other : ¬ Cache.header ++ hash.bytes <+: (Source.ofFile packing file).content :=
            fun valid => headed ((List.prefix_append _ _).trans valid)
          constructor <;> simp [there, stored, noDirectory, headed, other]

variable {α : Type} [Loadable α]

namespace CacheWalk

/-- The cache is found, or rejected, as it is probed. -/
theorem source_of_probe (files : FileSystem) (target : CacheTarget) :
    let status := Cache.probe target.packing files target.path target.hash
    (status = .absent ∧ source files target = .error .absent) ∨
    ((status = .badMagic ∨ status = .outdated ∨ status = .unreadable) ∧
      source files target = .error .rejected) ∨
    (status = .valid ∧ ∃ records, source files target = .ok records) := by
  simp only [Cache.probe, source]
  cases files.contains target.path with
  | false => simp
  | true =>
      cases files.read target.path with
      | error why => simp
      | ok file =>
          obtain ⟨answer, records, answered⟩ :
              ∃ answer records, (Source.ofFile target.packing file).validate target.hash = (answer, records) :=
            ⟨_, _, rfl⟩
          cases answer with
          | ok _ => simp [answered]
          | error why => cases why <;> simp [answered]

/-- A walk that reads a cache uses it, if only in part. -/
theorem usage_of_run {files : FileSystem} {target : CacheTarget} {report : Reporter}
    {objects : List α} {a : Arena} {w : CacheWalk α}
    (ran : run files target report objects a = .ok w) :
    (∀ usage, source files target = .error usage → w.usage = usage ∧ w.attempts = []) ∧
    ∀ records, source files target = .ok records →
      (∃ n, w.usage = .partially n) ∨ w.usage = .full := by
  rcases run_cases ran with ⟨usage, none, rfl⟩ |
    ⟨records, last, b, front, read, left, found, -, -, stop⟩
  · constructor
    · intro usage' none'
      exact ⟨Except.error.inj (none.symm.trans none'), rfl⟩
    · intro records found
      cases none.symm.trans found
  · constructor
    · intro usage none
      cases none.symm.trans found
    · intro _ _
      cases stop with
      | full trace quiet => exact Or.inr rfl
      | cancelled left trace declined =>
          dsimp only [usageOf]
          split
          · exact Or.inl ⟨_, rfl⟩
          · exact Or.inr rfl
      | short object rest record why trace quiet intact result => exact Or.inl ⟨_, rfl⟩
      | unusable object rest why trace quiet result => exact Or.inl ⟨_, rfl⟩

/-- A walk gives up where an object gives up on an intact record, behind others that were read. -/
theorem go_eq_error {report : Reporter} {done : List α} {n : Nat} {a : Arena} {d : Distributor}
    {trace : List Progress} {attempts : List (Attempt CacheError)} {source : Source}
    {objects : List α} {why : Fault}
    (ran : go report done n a d trace attempts source objects = .error why) :
    ∃ (front read rest : List α) (object : α) (last next : Source) (b : Arena) (record : Bytes),
      objects = front ++ object :: rest ∧ Reads source a front read last b ∧
        nextRecord last = (.ok record, next) ∧
        (attempt record object b).result = .error (.fault why) := by
  induction objects generalizing done n a d trace attempts source with
  | nil => cases ran
  | cons object rest ih =>
      obtain ⟨record, next, found⟩ : ∃ record next, nextRecord source = (record, next) :=
        ⟨_, _, rfl⟩
      cases record with
      | error why =>
          -- without a record there is nothing that an object could give up on
          simp [go, found, planFor, Plan.carryOut, Plan.failing, Plan.carryOn, Failure.toSetback]
            at ran
      | ok record =>
          cases result : (attempt record object a).result with
          | ok accepted =>
              simp only [go, found, result] at ran
              split at ran
              · obtain ⟨front, read, others, object', last, next', b, record', rfl, reads, stops⟩ :=
                  ih ran
                exact ⟨object :: front, _ :: read, others, object', last, next', b, record', rfl,
                  .more found result reads, stops⟩
              · cases ran
          | error setback =>
              cases setback with
              | outOfMemory short =>
                  simp only [go, found, result] at ran
                  cases ran
              | error refused =>
                  simp only [go, found, result] at ran
                  cases ran
              | fault why' =>
                  simp only [go, found, result] at ran
                  obtain rfl := Except.error.inj ran
                  exact ⟨[], [], rest, object, source, next, a, record, rfl, .none _ _, found,
                    result⟩

/-- The cache at the target holds an intact record on which its object gives up. -/
structure GivesUp (files : FileSystem) (target : CacheTarget) (objects : List α) (why : Fault)
    (records : List Bytes) (record : Bytes) : Prop where
  stream : ∃ file rest, files.read target.path = .ok file ∧
    (Source.ofFile target.packing file).content = Cache.encode target.hash (records ++ [record]) ++ rest
  faulty : ∃ object, objects[records.length]? = some object ∧
    (Loadable.fromRecord record object).promised = .error (.fault why)

theorem fault_of_run {files : FileSystem} {target : CacheTarget} {report : Reporter}
    {objects : List α} {a : Arena} {why : Fault}
    (ran : run files target report objects a = .error why) :
    ∃ records record, GivesUp files target objects why records record := by
  unfold run at ran
  split at ran
  · cases ran
  · rename_i stream found
    obtain ⟨front, read, rest, object, last, next, b, record, rfl, reads, intact, result⟩ :=
      go_eq_error ran
    obtain ⟨file, stored, valid⟩ := source_eq_ok found
    obtain ⟨-, content, -⟩ := Source.validate_eq_ok_iff.mp valid
    obtain ⟨records, length, -, framed, -⟩ := reads.records
    obtain ⟨⟨-, more⟩, -⟩ := nextRecord_eq_ok_iff.mp intact
    have ends := (Plan.carryOut_ends (planFor object (.ok record)) b).2
    rw [result] at ends
    refine ⟨records, record, ⟨file, next.content, stored, ?_⟩, object, ?_, ?_⟩
    · rw [content, framed, more, Cache.encode, List.flatMap_append, List.flatMap_singleton]
      simp only [List.append_assoc]
    · rw [length, List.getElem?_append_right (Nat.le_refl _), Nat.sub_self]
      rfl
    · exact ends.promised fun _ no => by cases no

end CacheWalk

/-- Writing a new cache changes nothing about what was used of the old one. -/
theorem LoadResult.usage_finish (r : LoadResult α) (report : Reporter) (target : CacheTarget)
    (options : LoadOptions) (files : FileSystem) :
    (r.finish report target options files).1.usage = r.usage := by
  obtain ⟨written, reported, -⟩ := r.finish_eq report target options files
  exact congrArg LoadReport.usage reported

/-- What a load has used of the cache, told by what the cache was probed as. -/
theorem usage_of_loads {report : Reporter} {store : Store} {target : CacheTarget} {workers : Nat}
    {stage : Stage α} {r : LoadResult α} (run : Loads report store target workers stage r) :
    let status := Cache.probe target.packing stage.files target.path target.hash
    (status = .absent ∧ r.usage = .absent) ∨
    ((status = .badMagic ∨ status = .outdated ∨ status = .unreadable) ∧ r.usage = .rejected ∧
      r.fromCache = []) ∨
    (status = .valid ∧ ((∃ n, r.usage = .partially n) ∨ r.usage = .full)) := by
  obtain ⟨w, walked, usage, attempts⟩ : ∃ w : CacheWalk α,
      CacheWalk.run stage.files target report (stage.objects.map Loadable.reset) stage.arena = .ok w ∧
        r.usage = w.usage ∧ r.fromCache = w.attempts := by
    cases run with
    | cached walked settled => exact ⟨_, walked, rfl, rfl⟩
    | crewed walked goesOn reaches rest => exact ⟨_, walked, rfl, rfl⟩
  obtain ⟨bypassed, used⟩ := CacheWalk.usage_of_run walked
  rw [usage, attempts]
  rcases CacheWalk.source_of_probe stage.files target with
    ⟨status, none⟩ | ⟨status, none⟩ | ⟨status, records, found⟩
  · exact Or.inl ⟨status, (bypassed _ none).1⟩
  · exact Or.inr (Or.inl ⟨status, bypassed _ none⟩)
  · exact Or.inr (Or.inr ⟨status, used _ found⟩)

/-- **Probing a cache and loading from it agree**, whatever lies at its path.  The cache is absent for
the one if it is for the other; it is valid if and only if the load uses it, in part or in full; and
it is probed as bad, outdated or unreadable if and only if the load rejects it and gives no record of
it to any object.  The load has a result unless the cache is valid and holds a record on which its
object gives up. -/
theorem probe_agrees_with_load {target : CacheTarget} (whole : target.hash.bytes.length = Hash.size)
    (report : Reporter) (store : Store) (options : LoadOptions) (stage : Stage α) :
    let status := Cache.probe target.packing stage.files target.path target.hash
    status.Means target.packing stage.files target.path target.hash ∧
    (∀ r, Loads report store target options.concurrency stage r →
      let told := (r.finish report target options stage.files).1
      (status = .absent ↔ told.usage = .absent) ∧
      (status = .valid ↔ (∃ n, told.usage = .partially n) ∨ told.usage = .full) ∧
      ((status = .badMagic ∨ status = .outdated ∨ status = .unreadable) ↔
        told.usage = .rejected ∧ r.fromCache = [])) ∧
    ((∃ result, load report store target options stage = .ok result) ∨
      status = .valid ∧ ∃ why records record,
        CacheWalk.GivesUp stage.files target (stage.objects.map Loadable.reset) why records record) := by
  intro status
  refine ⟨CacheStatus.means_probe _ _ _ whole, ?_, ?_⟩
  · intro r run told
    rw [show told.usage = r.usage from r.usage_finish report target options stage.files]
    rcases usage_of_loads run with ⟨is, used⟩ | ⟨is, used, none⟩ | ⟨is, ⟨n, used⟩ | used⟩
    · simp [status, is, used]
    · rcases is with is | is | is <;> simp [status, is, used, none]
    · simp [status, is, used]
    · simp [status, is, used]
  · cases walked : CacheWalk.run stage.files target report (stage.objects.map Loadable.reset)
        stage.arena with
    | ok walk =>
        have ended : ∃ r, loadAll report store target options.concurrency stage = .ok r :=
          exists_loadAll walked
        obtain ⟨r, all⟩ := ended
        refine Or.inl ⟨r.finish report target options stage.files, ?_⟩
        rw [load, all]
        rfl
    | error why =>
        obtain ⟨records, record, givesUp⟩ := CacheWalk.fault_of_run walked
        obtain ⟨file, rest, stored, content⟩ := givesUp.stream
        refine Or.inr ⟨(CacheStatus.means_probe _ _ _ whole).valid.mpr ⟨file, stored, ?_⟩,
          why, records, record, givesUp⟩
        rw [content, Cache.encode, List.append_assoc]
        exact List.prefix_append _ _

/-- The small chest with a cache that ends one byte short of its hash. -/
def cutChest : Stage Object :=
  { smallChest with
    files := { nodes := [(["cache"], .file (Cache.header ++ List.replicate 31 7))] } }

/-- The cache of the small chest is valid, and every load uses it.  Cut short it is unreadable, and
there is a load, which rejects it. -/
theorem smallChest_probed :
    (Cache.probe .blocks smallChest.files smallTarget.path smallTarget.hash = .valid ∧
      ∃ r, Loads Reporter.patient smallStore smallTarget 2 smallChest r ∧
        ((∃ n, r.usage = .partially n) ∨ r.usage = .full)) ∧
    Cache.probe .blocks cutChest.files smallTarget.path smallTarget.hash = .unreadable ∧
      ∃ r, Loads Reporter.patient smallStore smallTarget 2 cutChest r ∧
        r.usage = .rejected ∧ r.fromCache = [] := by
  have whole : smallTarget.hash.bytes.length = Hash.size := by decide
  have agrees (stage : Stage Object) :=
    probe_agrees_with_load whole Reporter.patient smallStore { concurrency := 2 } stage
  constructor
  · obtain ⟨-, usages, -⟩ := agrees smallChest
    have valid : Cache.probe .blocks smallChest.files smallTarget.path smallTarget.hash = .valid := by
      decide +kernel
    obtain ⟨r, run, -⟩ := smallChest_loads
    obtain ⟨-, used, -⟩ := usages r run
    rw [LoadResult.usage_finish] at used
    exact ⟨valid, r, run, used.mp valid⟩
  · obtain ⟨means, usages, returns⟩ := agrees cutChest
    have cut : Cache.probe .blocks cutChest.files smallTarget.path smallTarget.hash = .unreadable :=
      means.unreadable.mpr (Or.inr ⟨Cache.header ++ List.replicate 31 7, by decide +kernel⟩)
    rcases returns with ⟨result, ran⟩ | ⟨valid, -⟩
    · obtain ⟨r, run, -⟩ := loads_of_load ran
      obtain ⟨-, -, rejected⟩ := usages r run
      rw [LoadResult.usage_finish] at rejected
      exact ⟨cut, r, run, rejected.mp (Or.inr (Or.inr cut))⟩
    · cases cut.symm.trans valid

end Windchest
