/-
# Windchest.Proofs.Load.Sequence -- a load without workers tells of its objects one by one

Two loops take part in a load, one over the records of the cache and one over the sample
files, and between them an object may be handed over that the first one has begun.  Without
workers neither shows: the updates of both together are about the first objects, each once
and in order, and at the seam none is missing and none comes twice (`ToldOf`).

They end with the last object, or with the first that was short of room, or with the first
update that is declined.  If it is the `k`-th that is declined, `k` objects were tried and the
others are as they were (`loads_in_sequence`).
-/
import Windchest.Proofs.Crew.Alone
import Windchest.Proofs.Load.Truth
import Windchest.Proofs.Load.Update

namespace Windchest

set_option autoImplicit false

/-! ## What is told while objects are loaded -/

namespace Progress

/-- Whether this is about an object. -/
def isUpdate : Progress → Bool
  | update .. => true
  | setup .. => false

/-- Whether a new cache is written from here on. -/
def beginsWriting : Progress → Bool
  | setup _ .writingCache => true
  | _ => false

/-- What is told before a new cache is written, that is, while objects are loaded. -/
def whileLoading (trace : List Progress) : List Progress := trace.takeWhile (! ·.beginsWriting)

theorem forall_mem_updates {total done : Nat} {titles : List String} {step : Progress}
    (mem : step ∈ updates total done titles) : step.isUpdate = true ∧ step.beginsWriting = false := by
  induction titles generalizing done with
  | nil => exact absurd mem List.not_mem_nil
  | cons title rest ih =>
      rcases List.mem_cons.mp mem with rfl | later
      · exact ⟨rfl, rfl⟩
      · exact ih later

end Progress

/-- While objects were loaded, the updates were those about these titles, counted from one. -/
structure ToldOf (total : Nat) (titles : List String) (trace : List Progress) : Prop where
  updates : trace.filter Progress.isUpdate = Progress.updates total 0 titles
  loading : ∀ step ∈ trace, step.beginsWriting = false

namespace ToldOf

variable {total : Nat} {titles : List String} {trace : List Progress}

theorem nil (total : Nat) : ToldOf total [] [] := ⟨rfl, by simp⟩

/-- The next phase counts on. -/
theorem setup (told : ToldOf total titles trace) (n : Nat) {phase : Phase}
    (loads : phase ≠ .writingCache) : ToldOf total titles (trace ++ [.setup n phase]) where
  updates := by
    rw [List.filter_append, told.updates]
    exact List.append_nil _
  loading := by
    intro step mem
    rcases List.mem_append.mp mem with before | last
    · exact told.loading step before
    · rw [List.mem_singleton.mp last]
      cases phase with
      | writingCache => exact absurd rfl loads
      | _ => rfl

theorem append (told : ToldOf total titles trace) (more : List String) :
    ToldOf total (titles ++ more) (trace ++ Progress.updates total titles.length more) where
  updates := by
    rw [List.filter_append, told.updates, Progress.updates_append, Nat.zero_add,
      List.filter_eq_self.mpr fun _ mem => (Progress.forall_mem_updates mem).1]
  loading := by
    intro step mem
    rcases List.mem_append.mp mem with before | after
    · exact told.loading step before
    · exact (Progress.forall_mem_updates after).2

/-- Nothing of it is told while a cache is written. -/
theorem whileLoading_eq (told : ToldOf total titles trace) (n : Nat) (more : List Progress) :
    Progress.whileLoading trace = trace ∧
      Progress.whileLoading (trace ++ .setup n .writingCache :: more) = trace := by
  have all : ∀ step ∈ trace, (! step.beginsWriting) = true := by
    intro step mem
    rw [told.loading step mem]
    rfl
  constructor
  · exact List.takeWhile_eq_self_iff.mpr all
  · rw [Progress.whileLoading, List.takeWhile_append_of_pos all]
    exact List.append_nil _

end ToldOf

/-- The reporter has answered the `k`-th update with no. -/
def DeclinedAt (report : Reporter) (trace : List Progress) (k : Nat) : Prop :=
  ∃ told pos total title, told ++ [.update pos total title] <+: trace ∧
    report (told ++ [.update pos total title]) = false ∧
      (told.filter Progress.isUpdate).length + 1 = k

theorem declined_iff_exists {report : Reporter} {trace : List Progress} :
    Declined report trace ↔ ∃ k, DeclinedAt report trace k := by
  constructor
  · rintro ⟨told, pos, total, title, start, no⟩
    exact ⟨_, told, pos, total, title, start, no, rfl⟩
  · rintro ⟨k, told, pos, total, title, start, no, -⟩
    exact ⟨told, pos, total, title, start, no⟩

/-- Where only the last update can have been declined, it is as many as there are. -/
theorem DeclinedAt.eq_length {report : Reporter} {trace : List Progress} {k : Nat}
    (declined : DeclinedAt report trace k) (agreed : ¬ Declined report trace.dropLast) :
    k = (trace.filter Progress.isUpdate).length := by
  obtain ⟨told, pos, total, title, start, no, rfl⟩ := declined
  rcases trace.eq_nil_or_concat' with rfl | ⟨earlier, last, rfl⟩
  · have := start.length_le
    simp at this
  · rcases List.prefix_concat_iff.mp start with whole | before
    · rw [← whole, List.filter_append, List.length_append]
      rfl
    · rw [List.dropLast_concat] at agreed
      exact absurd ⟨told, pos, total, title, before, no⟩ agreed

variable {α : Type} [Loadable α]

/-! ## Titles that never change -/

/-- Objects that keep their titles, whatever becomes of them. -/
class Entitled (α : Type) [Loadable α] : Prop extends Titled α where
  title_reset : ∀ object : α, Loadable.title (Loadable.reset object) = Loadable.title object
  title_begun : ∀ (record : Bytes) (object : α),
    Loadable.title (Loadable.fromRecord record object).started = Loadable.title object
  title_read : ∀ {record : Bytes} {object : α} {install : List BlockId → α},
    (Loadable.fromRecord record object).verdict = .ok install →
      ∀ ids, Loadable.title (install ids) = Loadable.title object
  title_fail : ∀ (message : String) (object : α),
    Loadable.title (Loadable.fail message object) = Loadable.title object

/-- Objects that are the same but for what was loaded have the same title. -/
theorem Object.title_congr {object other : Object}
    (same : Loadable.reset object = Loadable.reset other) :
    Loadable.title object = Loadable.title other := by
  rw [← title_reset, same, title_reset]

instance : Entitled Object where
  title_reset := Object.title_reset
  title_begun record object := Object.title_congr (Object.reset_started record object)
  title_read verdict ids := by
    obtain ⟨attacks, releases, drafted, -⟩ := Object.drafted_of_fromRecord verdict
    exact Object.title_congr (drafted.reset_install ids)
  title_fail message object := Object.title_congr (Object.reset_fail message object)

theorem Entitled.title_of_ends [Entitled α] {record : Bytes} {before object : α} {a : Arena}
    (ends : (Loadable.fromRecord record before).Ends a object (.ok ())) :
    Loadable.title object = Loadable.title before := by
  obtain ⟨install, ids, promised, rfl, -⟩ := ends.installs
  exact title_read (Plan.verdict_of_promised promised).2 ids

/-! ## The walk through the cache -/

namespace CacheWalk

variable {report : Reporter} {files : FileSystem} {target : CacheTarget} {objects : List α} {a : Arena}
  {w : CacheWalk α}

/-- What a walk has told is about the objects that it has loaded. -/
theorem told_of_run [Entitled α] (ran : run files target report objects a = .ok w) :
    ToldOf objects.length ((objects.map Loadable.title).take w.distributor.loaded) w.trace ∧
      ¬ Declined report w.trace.dropLast := by
  unfold run at ran
  split at ran
  · obtain rfl := Except.ok.inj ran
    exact ⟨.nil _, not_declined_nil report⟩
  · have quiet : ¬ Declined report ([] ++ [.setup objects.length .readingCache]) := by
      rw [declined_append_setup]
      exact not_declined_nil report
    obtain ⟨front, read, left, last, b, split, reads, stop, tells⟩ :=
      go_stops List.length_nil (Nat.zero_add _).symm quiet ran
    have loaded : w.distributor.loaded = read.length := by cases stop <;> rfl
    have titles : (objects.map Loadable.title).take w.distributor.loaded
        = read.map Loadable.title := by
      rw [split, List.map_append, ← reads.map Entitled.title_of_ends, loaded, List.take_left']
      exact List.length_map _
    have begun : ToldOf objects.length [] [.setup objects.length .readingCache] :=
      (ToldOf.nil _).setup _ (by decide)
    rw [tells.trace, titles]
    exact ⟨begun.append _, tells.trace ▸ tells.agreed⟩

/-- Whatever was given a record was handed out. -/
theorem handedOut_of_run (ran : run files target report objects a = .ok w) :
    ∀ attempt ∈ w.attempts, attempt.index < w.distributor.pos := by
  intro attempt mem
  rcases run_cases ran with ⟨usage, -, rfl⟩ |
    ⟨records, last, b, front, read, left, -, -, reads, stop⟩
  · exact absurd mem List.not_mem_nil
  · have same := reads.length
    have inFront (success : attempt ∈ successes 0 front.length) : attempt.index < read.length := by
      have := (successes_index success).2.1
      omega
    cases stop with
    | full trace quiet => exact inFront mem
    | cancelled left trace declined => exact inFront mem
    | short object rest record why trace quiet intact result =>
        rcases List.mem_append.mp mem with success | here
        · exact Nat.lt_succ_of_lt (inFront success)
        · rw [List.mem_singleton.mp here]
          exact Nat.lt_succ_self _
    | unusable object rest why trace quiet result =>
        rcases List.mem_append.mp mem with success | here
        · exact Nat.lt_succ_of_lt (inFront success)
        · split at here
          · rw [List.mem_singleton.mp here]
            exact Nat.lt_succ_self _
          · exact absurd here List.not_mem_nil

/-- A walk changes no titles. -/
theorem titles_of_run [Entitled α] (ran : run files target report objects a = .ok w) :
    w.objects.map Loadable.title = objects.map Loadable.title :=
  map_of_run Entitled.title_begun Entitled.title_of_ends Entitled.title_fail ran

/-- The crew of a walk has as many workers as it was to have, and goes on with the trace. -/
theorem trace_of_crew? {store : Store} {workers : Nat} {s : Crew α}
    (crew : w.crew? report store workers = some s) :
    s.trace = w.trace ++ [.setup w.distributor.total .loadingSamples] ∧
      s.workers = List.replicate workers .checking := by
  simp only [crew?] at crew
  split at crew
  · obtain rfl := Option.some.inj crew
    exact ⟨rfl, rfl⟩
  · cases crew

end CacheWalk

/-! ## The load -/

namespace LoadResult

/-- A load that was done by one thread has told of the objects handed out, and nothing has happened
before the last of them that would have stopped it. -/
structure InTurn (report : Reporter) (titles : List String) (r : LoadResult α) : Prop where
  told : ToldOf titles.length (titles.take r.distributor.pos) r.trace
  agreed : ¬ Declined report r.trace.dropLast
  served : ∀ attempt ∈ r.fromFiles, attempt.isShort = true → attempt.index + 1 = r.distributor.pos
  fromCache : ∀ attempt ∈ r.fromCache, attempt.index < r.distributor.pos
  fromFiles : ∀ attempt ∈ r.fromFiles, attempt.index < r.distributor.pos

end LoadResult

section Run

variable [Entitled α] {report : Reporter} {store : Store} {target : CacheTarget} {stage : Stage α}

/-- What a driver without workers goes on to tell when a walk has left objects to it. -/
theorem CacheWalk.inTurn_resultWith {objects : List α} {a : Arena} {files : FileSystem}
    {w : CacheWalk α} {s c : Crew α} (ran : CacheWalk.run files target report objects a = .ok w)
    (goesOn : w.crew? report store 0 = some s) (reaches : s.Reaches c) (rest : c.AtRest) :
    (w.resultWith c).InTurn report (objects.map Loadable.title) := by
  have done := done_of_run ran
  obtain ⟨told, -⟩ := told_of_run ran
  obtain ⟨fresh, plans, is, -, distributor, reporter, -⟩ := crew?_eq_some done goesOn
  obtain ⟨begun, alone⟩ := trace_of_crew? goesOn
  have finished := finished_of_crew? done goesOn reaches rest
  have planned : s.objects.length = s.plans.length := by rw [plans, is, List.length_map]
  have total : s.distributor.total = objects.length := by rw [distributor, done.total]
  have turn : Crew.InTurn w.objects w.distributor.loaded s c :=
    Crew.inTurn_of_reaches fresh plans planned alone reaches
  have gone : c.driver.task = .gone :=
    ((Crew.kept_of_reaches reaches planned fresh.kept).gone_of_atRest
      (by rw [total, plans, List.length_map, done.length]) rest).2 _ List.mem_cons_self
  have trace := turn.trace_eq finished (total.trans done.length.symm) gone
  have started := finished.started
  have ahead : w.distributor.pos ≤ c.distributor.pos := distributor ▸ finished.follows.ahead
  constructor
  case told =>
    have loaded : ((objects.map Loadable.title).take w.distributor.loaded).length
        = w.distributor.loaded := by
      have := finished.bound
      have := finished.follows.total
      rw [List.length_take, List.length_map]
      omega
    have before : ToldOf objects.length ((objects.map Loadable.title).take w.distributor.loaded)
        s.trace := by
      rw [begun]
      exact told.setup _ (by decide)
    have whole := before.append (((objects.map Loadable.title).drop w.distributor.loaded).take
      (c.distributor.pos - w.distributor.loaded))
    rw [loaded, ← List.take_add, Nat.add_sub_of_le started] at whole
    rw [resultWith, List.length_map, trace, titles_of_run ran, total]
    exact whole
  case agreed => exact reporter ▸ finished.follows.report ▸ turn.agreed
  case served => exact fun attempt mem short => turn.isShort_last finished mem short
  case fromCache =>
    exact fun attempt mem => Nat.lt_of_lt_of_le (handedOut_of_run ran attempt mem) ahead
  case fromFiles =>
    exact fun attempt mem => (finished.mem_indices.mp (List.mem_map_of_mem mem)).2

/-- A load without workers, with room for what the cache holds, is done in turn. -/
theorem inTurn_of_loads {r : LoadResult α} (run : Loads report store target 0 stage r)
    (room : ∀ attempt ∈ r.fromCache, attempt.isShort = false) :
    r.InTurn report (stage.objects.map Loadable.title) := by
  have titles : (stage.objects.map Loadable.reset).map Loadable.title
      = stage.objects.map Loadable.title := by
    rw [List.map_map]
    exact List.map_congr_left fun object _ => Entitled.title_reset object
  rw [← titles]
  cases run with
  | crewed walked goesOn reaches rest => exact CacheWalk.inTurn_resultWith walked goesOn reaches rest
  | @cached walk walked settled =>
      have done := CacheWalk.done_of_run walked
      obtain ⟨told, agreed⟩ := CacheWalk.told_of_run walked
      have pos : walk.distributor.pos = walk.distributor.loaded := by
        rcases done.ended with ⟨pos, -⟩ | ⟨-, pending, -, enough, goesOn⟩ | ⟨-, -, short, -⟩
        · exact pos
        · rw [(CacheWalk.loaded_of_settled done settled enough goesOn).1] at pending
          cases pending
        · obtain ⟨attempt, mem, isShort⟩ := done.shortage.mp short
          rw [room attempt mem] at isShort
          cases isShort
      refine ⟨?_, agreed, ?_, CacheWalk.handedOut_of_run walked, ?_⟩
      · rw [List.length_map, CacheWalk.result, pos]
        exact told
      · exact fun attempt no => absurd no List.not_mem_nil
      · exact fun attempt no => absurd no List.not_mem_nil

end Run

/-! ## The cache that is written behind it -/

/-- What is told while records are written comes behind the rest. -/
theorem prefix_of_writeRecords {report : Reporter} {arena : Arena} {total done : Nat}
    {trace told : List Progress} {writer writer' : Cache.Writer} {objects : List α}
    {result : Except UpdateCacheError Unit}
    (written : writeRecords report arena total done trace writer objects = (result, writer', told)) :
    trace <+: told := by
  induction objects generalizing done trace writer with
  | nil =>
      cases written
      exact List.prefix_rfl
  | cons object rest ih =>
      unfold writeRecords at written
      split at written
      · cases written
        exact List.prefix_rfl
      · dsimp only at written
        split at written
        · exact (List.prefix_append _ _).trans (ih written)
        · cases written
          exact List.prefix_append _ _

/-- Before it announces that a cache is written, an update tells nothing. -/
theorem trace_of_updateCache {report : Reporter} {trace told : List Progress} {target : CacheTarget}
    {packed : Bool} {stage : Stage α} {result : Except UpdateCacheError Nat} {files : FileSystem}
    (updated : updateCache report trace target packed stage = (result, files, told)) :
    told = trace ∨ trace ++ [.setup stage.objects.length .writingCache] <+: told := by
  cases updateCache_cases updated with
  | undeleted deleted => exact Or.inl rfl
  | unprepared deleted made => exact Or.inl rfl
  | unopened deleted made opened => exact Or.inr List.prefix_rfl
  | unwritten deleted made opened written left => exact Or.inr (prefix_of_writeRecords written)
  | closed deleted made opened written closed => exact Or.inr (prefix_of_writeRecords written)

namespace LoadResult

/-- Of what a load has told in all, that about loading is what it had told when it was done with it. -/
theorem whileLoading_finish {total : Nat} {titles : List String} {r : LoadResult α}
    (told : ToldOf total titles r.trace) (report : Reporter) (target : CacheTarget)
    (options : LoadOptions) (files : FileSystem) :
    Progress.whileLoading (r.finish report target options files).2.2 = r.trace := by
  unfold finish
  split
  · rcases written : updateCache report r.trace target options.packCache ⟨r.objects, r.arena, files⟩
      with ⟨result, files', trace⟩
    rcases trace_of_updateCache written with is | ⟨more, is⟩
    · rw [show trace = r.trace from is]
      exact (told.whileLoading_eq 0 []).1
    · rw [List.append_assoc] at is
      rw [show trace = _ from is.symm]
      exact (told.whileLoading_eq _ more).2
  · exact (told.whileLoading_eq 0 []).1

end LoadResult

/-- A load has told of the first `m` objects, one by one, and nothing has stopped it before the last of
them. -/
structure Sequential (report : Reporter) (titles : List String) (r : LoadResult α)
    (trace : List Progress) (m : Nat) : Prop where
  bound : m ≤ titles.length
  updates : (Progress.whileLoading trace).filter Progress.isUpdate
    = Progress.updates titles.length 0 (titles.take m)
  /-- Only the last update was declined, and only the last object short of room. -/
  declined : ∀ k, DeclinedAt report (Progress.whileLoading trace) k → k = m
  short : ∀ attempt ∈ r.fromFiles, attempt.isShort = true → attempt.index + 1 = m
  /-- There is a reason for which it has ended. -/
  ended : m = titles.length ∨ DeclinedAt report (Progress.whileLoading trace) m ∨
    ∃ attempt ∈ r.fromFiles, attempt.index + 1 = m ∧ attempt.isShort = true

/-- What a load that was stopped behind the first `k` objects leaves behind. -/
structure StoppedAt (k : Nat) (r : LoadResult α) (told : LoadReport) (before after : Stage α) :
    Prop where
  settled : ∀ i < k, ∃ object, after.objects[i]? = some object ∧
    (Loadable.isReady object = true ∨ ∃ failure ∈ told.failures, failure.index = i ∧
      Loadable.isReady object = false ∧ Loadable.error? object = some failure.message)
  /-- Neither a record nor the files of another object were tried. -/
  fromCache : ∀ attempt ∈ r.fromCache, attempt.index < k
  fromFiles : ∀ attempt ∈ r.fromFiles, attempt.index < k
  left : ∀ i object, k ≤ i → after.objects[i]? = some object →
    Loadable.isReady object = false ∧ Loadable.error? object = none
  outcome : told.outcome =
    if ∃ attempt ∈ r.fromFiles, attempt.index + 1 = k ∧ attempt.isShort = true then .outOfMemory
    else .cancelled
  files : after.files = before.files

section Law

variable [Entitled α] [LawfulLoadable α] {report : Reporter} {store : Store} {target : CacheTarget}
  {options : LoadOptions} {stage after : Stage α} {r : LoadResult α} {told : LoadReport}
  {trace : List Progress}

/-- A load without workers tells of its objects one by one. -/
theorem sequential_of_loads (run : Loads report store target 0 stage r)
    (room : ∀ attempt ∈ r.fromCache, attempt.isShort = false)
    (finished : r.finish report target options stage.files = (told, after, trace)) :
    Progress.whileLoading trace = r.trace ∧
      Sequential report (stage.objects.map Loadable.title) r trace r.distributor.pos := by
  obtain ⟨ready, sorted⟩ := sorted_of_loads run
  have turn := inTurn_of_loads run room
  have total : (stage.objects.map Loadable.title).length = r.distributor.total := by
    rw [sorted.total, List.length_map, List.length_map]
  have bound : r.distributor.pos ≤ (stage.objects.map Loadable.title).length :=
    total.symm ▸ sorted.bound
  have loading : Progress.whileLoading trace = r.trace := by
    have loading := r.whileLoading_finish turn.told report target options stage.files
    rw [finished] at loading
    exact loading
  have last (k : Nat) (declined : DeclinedAt report r.trace k) : k = r.distributor.pos := by
    rw [declined.eq_length turn.agreed, turn.told.updates, Progress.length_updates, List.length_take]
    exact Nat.min_eq_left bound
  refine ⟨loading, bound, ?_, ?_, turn.served, ?_⟩
  · rw [loading]
    exact turn.told.updates
  · rw [loading]
    exact last
  · rw [loading]
    cases cancelled : r.cancelled with
    | true =>
        obtain ⟨k, declined⟩ := declined_iff_exists.mp (sorted.declined.mp cancelled)
        exact Or.inr (Or.inl (last k declined ▸ declined))
    | false =>
        cases short : r.outOfMemory with
        | false => exact Or.inl ((sorted.all short cancelled).trans total.symm)
        | true =>
            rcases sorted.shortage.mp short with ⟨attempt, mem, isShort⟩ | ⟨attempt, mem, isShort⟩
            · rw [room attempt mem] at isShort
              cases isShort
            · exact Or.inr (Or.inr ⟨attempt, mem, turn.served attempt mem isShort, isShort⟩)

/-- What a load without workers leaves behind when an update was declined. -/
theorem stoppedAt_of_loads (run : Loads report store target 0 stage r)
    (room : ∀ attempt ∈ r.fromCache, attempt.isShort = false)
    (finished : r.finish report target options stage.files = (told, after, trace))
    (declined : Declined report r.trace) : StoppedAt r.distributor.pos r told stage after := by
  obtain ⟨ready, sorted⟩ := sorted_of_loads run
  have turn := inTurn_of_loads run room
  have cancelled : r.cancelled = true := sorted.declined.mpr declined
  have uncacheable : r.cacheable = false := by simp [LoadResult.cacheable, cancelled]
  simp only [LoadResult.finish, uncacheable, Bool.false_and, Bool.false_eq_true, if_false,
    Prod.mk.injEq] at finished
  obtain ⟨rfl, rfl, rfl⟩ := finished
  have truthful := sorted.truthful false
  refine ⟨?_, turn.fromCache, turn.fromFiles, truthful.left, ?_, rfl⟩
  · intro i few
    rcases List.mem_append.mp (sorted.handedOut.mem_iff.mpr (List.mem_range.mpr few)) with
      loaded | failed
    · obtain ⟨object, is, isReady⟩ := sorted.loaded i loaded
      exact ⟨object, is, Or.inl isReady⟩
    · obtain ⟨failure, mem, rfl⟩ := List.mem_map.mp failed
      obtain ⟨object, is, unready, message⟩ := truthful.failed failure mem
      exact ⟨object, is, Or.inr ⟨failure, mem, rfl, unready, message⟩⟩
  · split
    · rename_i short
      obtain ⟨attempt, mem, -, isShort⟩ := short
      exact truthful.outOfMemory.mpr (Or.inr ⟨attempt, mem, isShort⟩)
    · rename_i enough
      refine truthful.cancelled.mpr ⟨?_, declined⟩
      rintro (⟨attempt, mem, isShort⟩ | ⟨attempt, mem, isShort⟩)
      · rw [room attempt mem] at isShort
        cases isShort
      · exact enough ⟨attempt, mem, turn.served attempt mem isShort, isShort⟩

/-- **A load without workers tells of its objects one by one.**  It ends unless a record makes its
reader give up.  With room for what the cache holds, the updates of reading the cache and of loading
samples are, together, those about the first `m` objects, where `m` is the number of all objects, or the
last update was declined, or the last object short of room.  If the `k`-th update is declined, just the
first `k` objects were tried, and neither the others nor the files have changed. -/
theorem loads_in_sequence (alone : options.concurrency = 0)
    (readable : ∃ walk, CacheWalk.run stage.files target report (stage.objects.map Loadable.reset)
      stage.arena = .ok walk) :
    (∃ result, load report store target options stage = .ok result) ∧
    ∀ (r : LoadResult α) (told : LoadReport) (after : Stage α) (trace : List Progress),
      Loads report store target options.concurrency stage r →
      r.finish report target options stage.files = (told, after, trace) →
      (∀ attempt ∈ r.fromCache, attempt.isShort = false) →
      (∃ m, Sequential report (stage.objects.map Loadable.title) r trace m) ∧
        ∀ k, DeclinedAt report (Progress.whileLoading trace) k → StoppedAt k r told stage after := by
  constructor
  · obtain ⟨walk, walked⟩ := readable
    obtain ⟨r, ran⟩ := @exists_loadAll _ _ report store target options.concurrency stage walk walked
    exact ⟨_, by rw [load, ran]; rfl⟩
  · intro r told after trace run finished room
    rw [alone] at run
    obtain ⟨loading, sequential⟩ := sequential_of_loads run room finished
    refine ⟨⟨_, sequential⟩, fun k declined => ?_⟩
    obtain rfl := sequential.declined k declined
    rw [loading] at declined
    exact stoppedAt_of_loads run room finished (declined_iff_exists.mpr ⟨_, declined⟩)

end Law

/-- A reporter that declines the `k`-th update. -/
def Reporter.stopping (k : Nat) : Reporter :=
  fun trace => decide ((trace.filter Progress.isUpdate).length ≠ k)

/-- What the reporter of the small chest hears when it declines the second update.  The first pipe comes
from the cache; the record of the second cannot be used, so it comes from its file. -/
def smallChestTrace : List Progress :=
  [.setup 3 .readingCache, .update 1 3 "C", .setup 3 .loadingSamples, .update 2 3 "D"]

/-- The load of the small chest, declined right behind the seam, has told of two pipes and has left the
third as it was. -/
theorem smallChest_in_sequence : ∃ (r : LoadResult Object) (told : LoadReport) (after : Stage Object),
    r.finish (.stopping 2) smallTarget { concurrency := 0 } smallChest.files
      = (told, after, smallChestTrace) ∧
    Sequential (.stopping 2) ["C", "D", "E"] r smallChestTrace 2 ∧
    StoppedAt 2 r told smallChest after ∧ told.outcome = .cancelled := by
  obtain ⟨walk, walked, -⟩ : ∃ walk ∈ (CacheWalk.run smallChest.files smallTarget (.stopping 2)
      (smallChest.objects.map Loadable.reset) smallChest.arena).toOption, True := by
    decide +kernel
  obtain ⟨r, ran, trace, uncacheable, room, served⟩ :
      ∃ r ∈ (loadAll (.stopping 2) smallStore smallTarget 0 smallChest).toOption,
        r.trace = smallChestTrace ∧ r.cacheable = false ∧
          (∀ attempt ∈ r.fromCache, attempt.isShort = false) ∧
          ∀ attempt ∈ r.fromFiles, attempt.isShort = false := by
    decide +kernel
  have finished : r.finish (.stopping 2) smallTarget { concurrency := 0 } smallChest.files
      = (r.toReport false, ⟨r.objects, r.arena, smallChest.files⟩, smallChestTrace) := by
    simp [LoadResult.finish, uncacheable, trace]
  obtain ⟨-, each⟩ := @loads_in_sequence _ _ _ _ (.stopping 2) smallStore smallTarget
    { concurrency := 0 } smallChest rfl ⟨walk, eq_ok_of_mem_toOption walked⟩
  obtain ⟨⟨m, sequential⟩, stopped⟩ :=
    each r _ _ _ (loads_of_loadAll (eq_ok_of_mem_toOption ran)) finished room
  have declined : DeclinedAt (.stopping 2) (Progress.whileLoading smallChestTrace) 2 :=
    ⟨[.setup 3 .readingCache, .update 1 3 "C", .setup 3 .loadingSamples], 2, 3, "D", by decide,
      by decide, rfl⟩
  obtain rfl := sequential.declined 2 declined
  have stopped := stopped 2 declined
  refine ⟨r, _, _, finished, sequential, stopped, ?_⟩
  rw [stopped.outcome, if_neg]
  rintro ⟨attempt, mem, -, short⟩
  rw [served attempt mem] at short
  cases short

end Windchest
