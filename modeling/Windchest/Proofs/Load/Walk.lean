/-
# Windchest.Proofs.Load.Walk -- how far a cache is read

Reading a cache splits the objects in two.  Those in front were read one after the
other, each from its record (`CacheWalk.Reads`); behind them the walk stopped for one
of four reasons (`CacheWalk.Stop`): no object was left, the reporter declined, the
arena had no room, or the record of the next object could not be used.  `go_stops`
says that this is all there is, whatever the bytes of the cache are, and what the reporter
was told on the way (`CacheWalk.Tells`).

`CacheWalk.Done` sums up what is true of a walk in all four cases, and of one that
did not take place (`done_of_run`).
-/
import Windchest.Load.Basic
import Windchest.Proofs.Arena.Plans
import Windchest.Proofs.Codec.Stream
import Windchest.Proofs.Crew.Finish

namespace Windchest

set_option autoImplicit false

open Cache (Source Framed)

variable {α : Type} [Loadable α]

namespace CacheWalk

/-- How carrying out the plan for a record ends. -/
abbrev attempt (record : Bytes) (object : α) (a : Arena) : Carried α CacheError :=
  (planFor object (.ok record)).carryOut a

/-- An object that accepts its record becomes what its plan promises for it. -/
theorem ends_of_accepted {record : Bytes} {object : α} {a : Arena}
    (accepted : (attempt record object a).result = .ok ()) :
    (Loadable.fromRecord record object).Ends (attempt record object a).arena
      (attempt record object a).object (.ok ()) := by
  rw [← accepted]
  exact (Plan.carryOut_ends (planFor object (.ok record)) a).2

/-- Objects that are read from the front of a cache, one after the other: the cache and the arena,
the objects before and after, and the cache and the arena behind them. -/
inductive Reads : Source → Arena → List α → List α → Source → Arena → Prop where
  | none (source : Source) (a : Arena) : Reads source a [] [] source a
  | more {source next last : Source} {a b : Arena} {object : α} {record : Bytes}
      {rest read : List α} (intact : nextRecord source = (.ok record, next))
      (accepted : (attempt record object a).result = .ok ())
      (others : Reads next (attempt record object a).arena rest read last b) :
      Reads source a (object :: rest) ((attempt record object a).object :: read) last b

theorem nextRecord_eq_ok_iff {source next : Source} {record : Bytes} :
    nextRecord source = (.ok record, next) ↔
      Framed record source.content next.content ∧ next.broken = source.broken := by
  rw [← Source.next_eq_record_iff]
  unfold nextRecord
  split
  · rename_i is
    rw [is]
    simp
  · rename_i is
    rw [is]
    simp
  · rename_i is
    rw [is]
    simp

/-- The attempts on objects from an index on that were all loaded. -/
def successes (first : Nat) : Nat → List (Attempt CacheError)
  | 0 => []
  | n + 1 => ⟨first, .ok ()⟩ :: successes (first + 1) n

namespace Reads

variable {source last : Source} {a b : Arena} {objects read : List α}

theorem length (reads : Reads source a objects read last b) : read.length = objects.length := by
  induction reads with
  | none => rfl
  | more intact accepted others ih => simp [ih]

theorem grows (reads : Reads source a objects read last b) : a.Grows b := by
  induction reads with
  | none => exact .refl _
  | more intact accepted others ih => exact (Plan.carryOut_ends _ _).1.trans ih

/-- The objects that were read had intact records, one after the other, and each is what its plan
promises for its record. -/
theorem records (reads : Reads source a objects read last b) :
    ∃ records : List Bytes, records.length = objects.length ∧
      (∀ record ∈ records, record.length ≤ maxWord) ∧
      source.content = records.flatMap Cache.frame ++ last.content ∧
      ∀ (i : Nat) (record : Bytes) (object : α), records[i]? = some record → objects[i]? = some object →
        ∃ result, read[i]? = some result ∧
          (Loadable.fromRecord record object).Ends b result (.ok ()) := by
  induction reads with
  | none => exact ⟨[], by simp⟩
  | @more source next last a b object record rest read intact accepted others ih =>
      obtain ⟨records, length, fit, content, ends⟩ := ih
      obtain ⟨⟨fits, framed⟩, -⟩ := nextRecord_eq_ok_iff.mp intact
      refine ⟨record :: records, by simp [length], ?_, ?_, ?_⟩
      · intro other mem
        rcases List.mem_cons.mp mem with rfl | later
        · exact fits
        · exact fit other later
      · rw [framed, content, List.flatMap_cons, List.append_assoc]
      · intro i other object' at_i object_is
        cases i with
        | zero =>
            cases at_i
            cases object_is
            exact ⟨_, rfl, (ends_of_accepted accepted).of_grows others.grows⟩
        | succ i => exact ends i other object' (by simpa using at_i) (by simpa using object_is)

end Reads

/-- How a walk stops behind the objects `read`, with the others in `left`. -/
inductive Stop (report : Reporter) (source : Source) (a : Arena) (read : List α)
    (attempts : List (Attempt CacheError)) : List α → CacheWalk α → Prop where
  | full (trace : List Progress) (quiet : ¬ Declined report trace) :
      Stop report source a read attempts []
        { objects := read, arena := a, trace, usage := .full, attempts
          distributor := ⟨read.length, read.length, read.length, read.length, false⟩ }
  | cancelled (left : List α) (trace : List Progress) (declined : Declined report trace) :
      Stop report source a read attempts left
        { objects := read ++ left, arena := a, trace, cancelled := true, attempts
          usage := usageOf read.length (read.length + left.length)
          distributor := ⟨read.length + left.length, read.length, read.length, read.length, true⟩ }
  | short (object : α) (rest : List α) (record : Bytes) (why : OutOfMemory) (trace : List Progress)
      (quiet : ¬ Declined report trace) (intact : (nextRecord source).1 = .ok record)
      (result : (attempt record object a).result = .error (.outOfMemory why)) :
      Stop report source a read attempts (object :: rest)
        { objects :=
            read ++ Loadable.fail why.message (Loadable.fromRecord record object).started :: rest
          arena := (attempt record object a).arena
          trace, outOfMemory := true
          usage := .partially read.length
          failures := [⟨read.length,
            Loadable.title (Loadable.fromRecord record object).started, why.message⟩]
          attempts := attempts ++ [⟨read.length, .error (.outOfMemory why)⟩]
          distributor :=
            ⟨read.length + (rest.length + 1), read.length + 1, read.length + 1, read.length, true⟩ }
  | unusable (object : α) (rest : List α) (why : CacheError) (trace : List Progress)
      (quiet : ¬ Declined report trace)
      (result : ((planFor object (nextRecord source).1).carryOut a).result = .error (.error why)) :
      Stop report source a read attempts (object :: rest)
        { objects := read ++ (planFor object (nextRecord source).1).started :: rest
          arena := ((planFor object (nextRecord source).1).carryOut a).arena
          trace, pending := some read.length
          usage := .partially read.length
          attempts := attempts ++
            if (nextRecord source).1.isOk then [⟨read.length, .error (.error why)⟩] else []
          distributor :=
            ⟨read.length + (rest.length + 1), read.length + 1, read.length + 1, read.length, false⟩ }

section Step

variable {report : Reporter} {done rest : List α} {n total : Nat} {a : Arena}
  {trace : List Progress} {attempts : List (Attempt CacheError)} {source next : Source}
  {object : α} {record : Bytes}

theorem fetch_next (left : n < total) :
    (Distributor.mk total n n n false).fetch.2 = ⟨total, n + 1, n + 1, n, false⟩ := by
  simp [Distributor.fetch, Distributor.claim, Distributor.publish, left]

/-- An object that was read is behind the walk, and the reporter is asked whether to go on. -/
theorem go_cons_ok (count : done.length = n) (left : n < total)
    (intact : nextRecord source = (.ok record, next))
    (accepted : (attempt record object a).result = .ok ()) :
    let read := attempt record object a
    let told := trace ++ [.update (n + 1) total (Loadable.title read.object)]
    go report done n a ⟨total, n, n, n, false⟩ trace attempts source (object :: rest)
      = if report told = true then
          go report (done ++ [read.object]) (n + 1) read.arena ⟨total, n + 1, n + 1, n + 1, false⟩
            told (attempts ++ [⟨n, .ok ()⟩]) next rest
        else .ok
          { objects := done ++ read.object :: rest, arena := read.arena, trace := told
            cancelled := true, attempts := attempts ++ [⟨n, .ok ()⟩]
            usage := usageOf (n + 1) total
            distributor := ⟨total, n + 1, n + 1, n + 1, true⟩ } := by
  have logged : (Except.ok record : Except CacheError Bytes).isOk = true := rfl
  simp only [go, fetch_next left, intact, count, accepted, logged, if_true,
    Distributor.recordLoaded, Distributor.abort]

/-- An object that the arena has no room for ends the walk. -/
theorem go_cons_short (count : done.length = n) (left : n < total)
    (intact : nextRecord source = (.ok record, next)) {why : OutOfMemory}
    (short : (attempt record object a).result = .error (.outOfMemory why)) :
    go report done n a ⟨total, n, n, n, false⟩ trace attempts source (object :: rest) = .ok
      { objects := done ++ Loadable.fail why.message (Loadable.fromRecord record object).started :: rest
        arena := (attempt record object a).arena
        trace, outOfMemory := true
        usage := .partially n
        failures := [⟨n, Loadable.title (Loadable.fromRecord record object).started, why.message⟩]
        attempts := attempts ++ [⟨n, .error (.outOfMemory why)⟩]
        distributor := ⟨total, n + 1, n + 1, n, true⟩ } := by
  have logged : (Except.ok record : Except CacheError Bytes).isOk = true := rfl
  have ends := (Plan.carryOut_ends (planFor object (.ok record)) a).2
  rw [short] at ends
  have started : ((planFor object (.ok record)).carryOut a).object
      = (Loadable.fromRecord record object).started := ends.started
  simp only [go, fetch_next left, intact, count, short, logged, if_true, started, Distributor.abort]

/-- An object whose record cannot be used is left to the crew, and ends the walk. -/
theorem go_cons_unusable (count : done.length = n) (left : n < total) {why : CacheError}
    (refused : ((planFor object (nextRecord source).1).carryOut a).result = .error (.error why)) :
    go report done n a ⟨total, n, n, n, false⟩ trace attempts source (object :: rest) = .ok
      { objects := done ++ (planFor object (nextRecord source).1).started :: rest
        arena := ((planFor object (nextRecord source).1).carryOut a).arena
        trace, pending := some n
        usage := .partially n
        attempts := attempts ++
          if (nextRecord source).1.isOk then [⟨n, .error (.error why)⟩] else []
        distributor := ⟨total, n + 1, n + 1, n, false⟩ } := by
  have ends := (Plan.carryOut_ends (planFor object (nextRecord source).1) a).2
  rw [refused] at ends
  simp only [go, fetch_next left, count, refused, ends.started]

end Step

/-- A walk has told of the objects that it read, one by one, and only the last update can have been
declined. -/
structure Tells (report : Reporter) (trace : List Progress) (total n : Nat) (read : List α)
    (w : CacheWalk α) : Prop where
  trace : w.trace = trace ++ Progress.updates total n (read.map Loadable.title)
  agreed : ¬ Declined report w.trace.dropLast

/-- A walk that has stopped without a word has told of nothing. -/
theorem tells_nil {report : Reporter} {trace : List Progress} {w : CacheWalk α}
    (quiet : ¬ Declined report trace) (silent : w.trace = trace) (total n : Nat) :
    w.Tells report trace total n [] where
  trace := silent.trans (List.append_nil _).symm
  agreed := by
    rw [silent]
    exact fun declined => quiet (declined.mono <| List.dropLast_prefix _)

/-- **What reading a cache comes to**, from the middle of a walk that has loaded all it came by. -/
theorem go_stops {report : Reporter} {done : List α} {n total : Nat} {a : Arena}
    {trace : List Progress} {attempts : List (Attempt CacheError)} {source : Source}
    {objects : List α} {w : CacheWalk α} (count : done.length = n)
    (all : total = n + objects.length) (quiet : ¬ Declined report trace)
    (ran : go report done n a ⟨total, n, n, n, false⟩ trace attempts source objects = .ok w) :
    ∃ front read left last b, objects = front ++ left ∧ Reads source a front read last b ∧
      Stop report last b (done ++ read) (attempts ++ successes n front.length) left w ∧
      w.Tells report trace total n read := by
  induction objects generalizing done n a trace attempts source with
  | nil =>
      subst all count
      obtain rfl := Except.ok.inj ran
      refine ⟨[], [], [], source, a, rfl, .none source a, ?_, tells_nil quiet rfl _ _⟩
      simp only [List.append_nil, successes, List.length_nil]
      exact .full trace quiet
  | cons object rest ih =>
      rw [List.length_cons] at all
      have more : n < total := by omega
      obtain ⟨record, next, found⟩ : ∃ record next, nextRecord source = (record, next) :=
        ⟨_, _, rfl⟩
      cases result : ((planFor object record).carryOut a).result with
      | ok accepted =>
          cases record with
          | error why => cases result
          | ok record =>
              have reached : (done ++ [(attempt record object a).object]).length = n + 1 := by
                rw [List.length_append, count]
                rfl
              rw [go_cons_ok count more found result] at ran
              split at ran
              · rename_i goesOn
                have told : ¬ Declined report (trace ++
                    [.update (n + 1) total (Loadable.title (attempt record object a).object)]) := by
                  rw [declined_append_update, not_or, goesOn]
                  exact ⟨quiet, Bool.noConfusion⟩
                obtain ⟨front, read, left, last, b, rfl, reads, stop, tells, agreed⟩ :=
                  ih reached (by omega) told ran
                rw [List.append_assoc] at tells
                rw [List.append_assoc, List.append_assoc] at stop
                exact ⟨object :: front, _ :: read, left, last, b, rfl, .more found result reads, stop,
                  tells, agreed⟩
              · rename_i no
                obtain rfl := Except.ok.inj ran
                refine ⟨[object], [_], rest, next, _, rfl, .more found result (.none _ _), ?_, rfl, ?_⟩
                case refine_2 => rwa [List.dropLast_concat]
                have declined : Declined report (trace ++
                    [.update (n + 1) total (Loadable.title (attempt record object a).object)]) := by
                  rw [declined_append_update]
                  exact Or.inr (Bool.eq_false_iff.mpr no)
                have stop := @Stop.cancelled _ _ report next (attempt record object a).arena
                  (done ++ [(attempt record object a).object]) (attempts ++ [⟨n, .ok ()⟩]) rest _
                  declined
                rw [reached, show n + 1 + rest.length = total by omega, List.append_assoc] at stop
                exact stop
      | error why =>
          have stopped (stop : Stop report source a done attempts (object :: rest) w)
              (silent : w.trace = trace) : ∃ front read left last b, object :: rest = front ++ left ∧
                Reads source a front read last b ∧
                Stop report last b (done ++ read) (attempts ++ successes n front.length) left w ∧
                w.Tells report trace total n read := by
            refine ⟨[], [], object :: rest, source, a, rfl, .none source a, ?_,
              tells_nil quiet silent _ _⟩
            rw [List.append_nil, List.length_nil, successes, List.append_nil]
            exact stop
          have whole : done.length + (rest.length + 1) = total := by omega
          cases why with
          | outOfMemory why =>
              cases record with
              | error why => cases result
              | ok record =>
                  rw [go_cons_short count more found result] at ran
                  obtain rfl := Except.ok.inj ran
                  have stop := @Stop.short _ _ report source a done attempts object rest record why
                    trace quiet (by rw [found]) result
                  rw [whole, count] at stop
                  exact stopped stop rfl
          | error why =>
              have refused : ((planFor object (nextRecord source).1).carryOut a).result
                  = .error (.error why) := by
                rw [found]
                exact result
              rw [go_cons_unusable count more refused] at ran
              obtain rfl := Except.ok.inj ran
              have stop := @Stop.unusable _ _ report source a done attempts object rest why
                trace quiet refused
              rw [whole, count] at stop
              exact stopped stop rfl
          | fault why =>
              simp only [go, found, result] at ran
              cases ran

theorem successes_index {first n : Nat} {attempt : Attempt CacheError}
    (mem : attempt ∈ successes first n) :
    first ≤ attempt.index ∧ attempt.index < first + n ∧ attempt.result = .ok () := by
  induction n generalizing first with
  | zero => simp [successes] at mem
  | succ n ih =>
      rcases List.mem_cons.mp mem with rfl | later
      · simp
      · obtain ⟨lower, upper, result⟩ := ih later
        exact ⟨by omega, by omega, result⟩

theorem mem_successes {first n i : Nat} (lower : first ≤ i) (upper : i < first + n) :
    ⟨i, .ok ()⟩ ∈ successes first n := by
  induction n generalizing first with
  | zero => omega
  | succ n ih =>
      by_cases here : i = first
      · rw [here]
        exact List.mem_cons_self
      · exact List.mem_cons_of_mem _ (ih (by omega) (by omega))

theorem successes_not_short {first n : Nat} {attempt : Attempt CacheError}
    (mem : attempt ∈ successes first n) : attempt.isShort = false := by
  rw [Attempt.isShort, (successes_index mem).2.2]

/-- What holds of a walk over objects, wherever it stopped. -/
structure Done (report : Reporter) (objects : List α) (w : CacheWalk α) : Prop where
  total : w.distributor.total = objects.length
  length : w.objects.length = objects.length
  free : w.distributor.cursor = w.distributor.pos
  bound : w.distributor.pos ≤ w.distributor.total
  aborted : w.distributor.aborted = (w.outOfMemory || w.cancelled)
  declined : w.cancelled = true ↔ Declined report w.trace
  shortage : w.outOfMemory = true ↔ ∃ attempt ∈ w.attempts, attempt.isShort = true
  /-- Objects counted as loaded were read from records. -/
  loaded : ∀ i < w.distributor.loaded, ∃ (record : Bytes) (object result : α),
    objects[i]? = some object ∧ w.objects[i]? = some result ∧
      (Loadable.fromRecord record object).Ends w.arena result (.ok ())
  /-- Objects that were not handed out are as they were. -/
  left : ∀ i, w.distributor.pos ≤ i → w.objects[i]? = objects[i]?
  /-- One object may have been handed out and not be loaded. -/
  ended :
    (w.distributor.pos = w.distributor.loaded ∧ w.pending = none ∧ w.failures = [] ∧
      w.outOfMemory = false) ∨
    (w.distributor.pos = w.distributor.loaded + 1 ∧ w.pending = some w.distributor.loaded ∧
      w.failures = [] ∧ w.outOfMemory = false ∧ w.cancelled = false) ∨
    (w.distributor.pos = w.distributor.loaded + 1 ∧ w.pending = none ∧ w.outOfMemory = true ∧
      ∃ (object : α) (title message : String),
        w.failures = [⟨w.distributor.loaded, title, message⟩] ∧
          w.objects[w.distributor.loaded]? = some (Loadable.fail message object))

theorem done_bypassed (report : Reporter) (objects : List α) (a : Arena) (usage : CacheUsage) :
    (bypassed objects a usage).Done report objects where
  total := rfl
  length := rfl
  free := rfl
  bound := Nat.zero_le _
  aborted := rfl
  declined := iff_of_false Bool.false_ne_true (not_declined_nil report)
  shortage := by simp [bypassed]
  loaded := by simp [bypassed]
  left := fun _ _ => rfl
  ended := Or.inl ⟨rfl, rfl, rfl, rfl⟩

/-- The objects that were read stay where they are, whatever comes behind them. -/
theorem Reads.loaded {source last : Source} {a b c : Arena} {front read : List α}
    (reads : Reads source a front read last b) (left tail : List α) (grows : b.Grows c) {i : Nat}
    (few : i < read.length) :
    ∃ (record : Bytes) (object result : α), (front ++ left)[i]? = some object ∧
      (read ++ tail)[i]? = some result ∧
        (Loadable.fromRecord record object).Ends c result (.ok ()) := by
  have inFront : i < front.length := reads.length ▸ few
  obtain ⟨records, length, -, -, ends⟩ := reads.records
  have inRecords : i < records.length := length ▸ inFront
  obtain ⟨result, is, ends⟩ := ends i records[i] front[i] (List.getElem?_eq_getElem inRecords)
    (List.getElem?_eq_getElem inFront)
  refine ⟨records[i], front[i], result, ?_, ?_, ends.of_grows grows⟩
  · rw [List.getElem?_append_left inFront, List.getElem?_eq_getElem inFront]
  · rw [List.getElem?_append_left few, is]

theorem done_of_stop {report : Reporter} {source last : Source} {a b : Arena}
    {front read left : List α} {w : CacheWalk α} (reads : Reads source a front read last b)
    (stop : Stop report last b read (successes 0 front.length) left w) :
    w.Done report (front ++ left) := by
  have same := reads.length
  have behind (x : α) (i : Nat) (beyond : read.length + 1 ≤ i) (object : α) (rest : List α) :
      (read ++ x :: rest)[i]? = (front ++ object :: rest)[i]? := by
    obtain ⟨j, rfl⟩ := Nat.exists_eq_add_of_le beyond
    rw [List.getElem?_append_right (by omega), List.getElem?_append_right (by omega), same,
      show front.length + 1 + j - front.length = j + 1 by omega, List.getElem?_cons_succ,
      List.getElem?_cons_succ]
  have unshort : ¬ ∃ attempt ∈ successes 0 front.length, attempt.isShort = true := by
    rintro ⟨attempt, mem, short⟩
    rw [successes_not_short mem] at short
    cases short
  cases stop with
  | full trace quiet =>
      exact {
        total := by simp [same]
        length := by simp [same]
        free := rfl
        bound := Nat.le_refl _
        aborted := rfl
        declined := iff_of_false Bool.false_ne_true quiet
        shortage := iff_of_false Bool.false_ne_true unshort
        loaded := by
          intro i few
          have := reads.loaded [] [] (.refl _) few
          rwa [List.append_nil read] at this
        left := by
          intro i beyond
          rw [List.getElem?_eq_none (by simpa using beyond),
            List.getElem?_eq_none (by simpa [same] using beyond)]
        ended := Or.inl ⟨rfl, rfl, rfl, rfl⟩ }
  | cancelled left trace declined =>
      exact {
        total := by simp [same]
        length := by simp [same]
        free := rfl
        bound := Nat.le_add_right _ _
        aborted := rfl
        declined := iff_of_true rfl declined
        shortage := iff_of_false Bool.false_ne_true unshort
        loaded := fun i few => reads.loaded left left (.refl _) few
        left := by
          intro i beyond
          have beyond : read.length ≤ i := beyond
          rw [List.getElem?_append_right beyond, List.getElem?_append_right (same ▸ beyond), same]
        ended := Or.inl ⟨rfl, rfl, rfl, rfl⟩ }
  | short object rest record why trace quiet intact result =>
      exact {
        total := by simp [same]
        length := by simp [same]
        free := rfl
        bound := by simp
        aborted := rfl
        declined := iff_of_false Bool.false_ne_true quiet
        shortage := iff_of_true rfl ⟨_, List.mem_append_right _ List.mem_cons_self, rfl⟩
        loaded := fun i few => reads.loaded _ _ (Plan.carryOut_ends _ _).1 few
        left := fun i beyond => behind _ i beyond object rest
        ended := by
          refine Or.inr (Or.inr ⟨rfl, rfl, rfl, (Loadable.fromRecord record object).started, _,
            why.message, rfl, ?_⟩)
          rw [List.getElem?_append_right (Nat.le_refl _), Nat.sub_self]
          rfl }
  | unusable object rest why trace quiet result =>
      exact {
        total := by simp [same]
        length := by simp [same]
        free := rfl
        bound := by simp
        aborted := rfl
        declined := iff_of_false Bool.false_ne_true quiet
        shortage := by
          refine iff_of_false Bool.false_ne_true ?_
          rintro ⟨attempt, mem, short⟩
          rcases List.mem_append.mp mem with success | last
          · exact unshort ⟨attempt, success, short⟩
          · split at last
            · obtain rfl := List.mem_singleton.mp last
              cases short
            · exact absurd last List.not_mem_nil
        loaded := fun i few => reads.loaded _ _ (Plan.carryOut_ends _ _).1 few
        left := fun i beyond => behind _ i beyond object rest
        ended := Or.inr (Or.inl ⟨rfl, rfl, rfl, rfl, rfl⟩) }

/-- A walk does not take place, or it reads some objects and stops behind them. -/
theorem run_cases {files : FileSystem} {target : CacheTarget} {report : Reporter}
    {objects : List α} {a : Arena} {w : CacheWalk α}
    (ran : run files target report objects a = .ok w) :
    (∃ usage, source files target = .error usage ∧ w = bypassed objects a usage) ∨
      ∃ (records last : Source) (b : Arena) (front read left : List α),
        source files target = .ok records ∧ objects = front ++ left ∧
          Reads records a front read last b ∧
            Stop report last b read (successes 0 front.length) left w := by
  unfold run at ran
  split at ran
  · rename_i usage none
    exact Or.inl ⟨usage, none, (Except.ok.inj ran).symm⟩
  · rename_i records found
    have quiet : ¬ Declined report [.setup objects.length .readingCache] := by
      intro declined
      apply not_declined_nil report
      exact (declined_append_setup report [] objects.length .readingCache).mp declined
    obtain ⟨front, read, left, last, b, split, reads, stop, -⟩ :=
      go_stops List.length_nil (Nat.zero_add _).symm quiet ran
    exact Or.inr ⟨records, last, b, front, read, left, found, split, reads, stop⟩

/-- Whatever a walk finds at its target, it is done like this. -/
theorem done_of_run {files : FileSystem} {target : CacheTarget} {report : Reporter}
    {objects : List α} {a : Arena} {w : CacheWalk α}
    (ran : run files target report objects a = .ok w) : w.Done report objects := by
  rcases run_cases ran with ⟨usage, -, rfl⟩ |
    ⟨records, last, b, front, read, left, -, rfl, reads, stop⟩
  · exact done_bypassed report objects a usage
  · exact done_of_stop reads stop

section Map

variable {β : Type} {f : α → β}

theorem Reads.map {source last : Source} {a b : Arena} {front read : List α}
    (kept : ∀ {record before object} {a : Arena},
      (Loadable.fromRecord record before).Ends a object (.ok ()) → f object = f before)
    (reads : Reads source a front read last b) : read.map f = front.map f := by
  induction reads with
  | none source a => rfl
  | more intact accepted others ih =>
      rw [List.map_cons, List.map_cons, ih, kept (ends_of_accepted accepted)]

/-- What no end of a plan changes about an object, a walk does not change. -/
theorem map_of_run (begun : ∀ record object, f (Loadable.fromRecord record object).started = f object)
    (kept : ∀ {record before object} {a : Arena},
      (Loadable.fromRecord record before).Ends a object (.ok ()) → f object = f before)
    (failed : ∀ message object, f (Loadable.fail message object) = f object) {files : FileSystem}
    {target : CacheTarget} {report : Reporter} {objects : List α} {a : Arena} {w : CacheWalk α}
    (ran : run files target report objects a = .ok w) : w.objects.map f = objects.map f := by
  rcases run_cases ran with ⟨usage, -, rfl⟩ |
    ⟨records, last, b, front, read, left, -, rfl, reads, stop⟩
  · rfl
  · have same := reads.map kept
    cases stop with
    | full trace quiet => rw [List.append_nil, same]
    | cancelled left trace declined => rw [List.map_append, List.map_append, same]
    | short object rest record why trace quiet intact result =>
        rw [List.map_append, List.map_append, same, List.map_cons, List.map_cons, failed, begun]
    | unusable object rest why trace quiet result =>
        rw [List.map_append, List.map_append, same, List.map_cons, List.map_cons]
        cases (nextRecord last).1 with
        | ok record => rw [planFor, begun]
        | error why => rfl

end Map

end CacheWalk

end Windchest
