/-
# Windchest.Proofs.Load.RoundTrip -- an organ that was cached is loaded from its cache

If the cache of loaded objects could be written, then loading the same objects afresh
takes every one of them from the cache and opens no sample file, and their sections are
those of the first load bit for bit (`load_of_updateCache`).  It takes no more room than
the blocks of the first objects do.  Nothing but a lack of room or a reporter who cancels keeps
a load from taking everything from the cache (`ends_of_readable`).
-/
import Windchest.Proofs.Codec.Blocks
import Windchest.Proofs.Load.Truth
import Windchest.Proofs.Load.Update

namespace Windchest

set_option autoImplicit false

open Cache (Source Framed)

section Walk

variable {α : Type} [Loadable α]

/-- The object can be loaded from the record, if there is room. -/
def Readable (object : α) (record : Bytes) : Prop :=
  record.length ≤ maxWord ∧ ∃ install, (Loadable.fromRecord record object).promised = .ok install

namespace CacheWalk

/-- What the plans for records reserve. -/
def recordBytes (objects : List α) (records : List Bytes) : Nat :=
  (List.zipWith (fun object record => (Loadable.fromRecord record object).bytes) objects records).sum

/-- A stream of framed records gives the first of them, and goes on with the others. -/
theorem nextRecord_of_framed {record : Bytes} (fits : record.length ≤ maxWord) (records : List Bytes) :
    nextRecord ⟨(record :: records).flatMap Cache.frame, false⟩
      = (.ok record, ⟨records.flatMap Cache.frame, false⟩) :=
  nextRecord_eq_ok_iff.mpr ⟨⟨fits, rfl⟩, rfl⟩

/-- Nothing but a lack of room keeps a readable object from being read. -/
theorem attempt_of_readable {object : α} {record : Bytes} (readable : Readable object record)
    (a : Arena) : (attempt record object a).result = .ok () ∨
      ∃ why, (attempt record object a).result = .error (.outOfMemory why) := by
  obtain ⟨-, install, promised⟩ := readable
  obtain ⟨-, ends⟩ := (Loadable.fromRecord record object).carryOut_ends a
  change (Loadable.fromRecord record object).Ends _ _ (attempt record object a).result at ends
  cases result : (attempt record object a).result with
  | ok done => exact .inl rfl
  | error why =>
      rw [result] at ends
      by_contra served
      have refused := ends.promised fun shortage is => served (.inr ⟨shortage, congrArg _ is⟩)
      rw [promised] at refused
      cases refused

/-- With room for their blocks, readable objects are read from a stream of their records. -/
theorem reads_of_records {objects : List α} {records : List Bytes} {a : Arena}
    (readable : List.Forall₂ Readable objects records)
    (room : a.used + recordBytes objects records ≤ a.capacity) :
    ∃ read b, Reads ⟨records.flatMap Cache.frame, false⟩ a objects read ⟨[], false⟩ b ∧
      List.Forall₂ (fun given result => (Loadable.fromRecord given.2 given.1).Ends b result (.ok ()))
        (objects.zip records) read := by
  induction readable generalizing a with
  | nil => exact ⟨[], a, .none _ _, .nil⟩
  | @cons object record objects records first others ih =>
      simp only [recordBytes, List.zipWith_cons_cons, List.sum_cons] at room ih
      obtain ⟨-, ends⟩ := (Loadable.fromRecord record object).carryOut_ends a
      obtain ⟨enough, -⟩ := (Loadable.fromRecord record object).carryOut_room a (by omega)
      have accepted : (attempt record object a).result = .ok () := by
        rcases attempt_of_readable first a with accepted | ⟨why, short⟩
        · exact accepted
        · exact absurd short (enough why)
      obtain ⟨read, b, reads, ended⟩ := ih ((Loadable.fromRecord record object).room_carryOut room)
      have taken := accepted
      change ((Loadable.fromRecord record object).carryOut a).result = .ok () at accepted
      rw [accepted] at ends
      exact ⟨_, b, .more (nextRecord_of_framed first.1 records) taken reads,
        .cons (ends.of_grows reads.grows) ended⟩

/-- A walk that reads all objects and is not cancelled ends behind the last of them. -/
theorem go_of_reads {report : Reporter} (patient : ∀ trace, report trace = true)
    {source last : Source} {a b : Arena} {objects read : List α}
    (reads : Reads source a objects read last b) {done : List α} {n total : Nat}
    {trace : List Progress} {attempts : List (Attempt CacheError)} (count : done.length = n)
    (all : total = n + objects.length) :
    ∃ w, go report done n a ⟨total, n, n, n, false⟩ trace attempts source objects = .ok w ∧
      w.objects = done ++ read ∧ w.arena = b ∧ w.distributor = ⟨total, total, total, total, false⟩ ∧
      w.usage = .full ∧ w.pending = none ∧ w.failures = [] ∧ w.outOfMemory = false ∧
      w.cancelled = false := by
  induction reads generalizing done n trace attempts with
  | none source a =>
      obtain rfl : total = n := all
      exact ⟨_, rfl, (List.append_nil _).symm, rfl, rfl, rfl, rfl, rfl, rfl, rfl⟩
  | @more source next last a b object record rest read intact accepted others ih =>
      rw [List.length_cons] at all
      obtain ⟨w, went, objects, facts⟩ := @ih (done ++ [(attempt record object a).object]) (n + 1)
        (trace ++ [.update (n + 1) total (Loadable.title (attempt record object a).object)])
        (attempts ++ [⟨n, .ok ()⟩]) (by simp [count]) (by omega)
      refine ⟨w, ?_, ?_, facts⟩
      · rw [go_cons_ok count (by omega) intact accepted, if_pos (patient _)]
        exact went
      · rw [objects, List.append_assoc]
        rfl

/-- With room for their blocks, and nobody who cancels, a load takes readable objects from their
records, and leaves nothing to a crew. -/
theorem run_of_records {files : FileSystem} {target : CacheTarget} {report : Reporter}
    (patient : ∀ trace, report trace = true) {objects : List α} {records : List Bytes} {a : Arena}
    (found : source files target = .ok ⟨records.flatMap Cache.frame, false⟩)
    (readable : List.Forall₂ Readable objects records)
    (room : a.used + recordBytes objects records ≤ a.capacity) :
    ∃ w, run files target report objects a = .ok w ∧
      List.Forall₂ (fun given result =>
        (Loadable.fromRecord given.2 given.1).Ends w.arena result (.ok ()))
        (objects.zip records) w.objects ∧
      (∀ store workers, w.crew? report store workers = none) ∧ w.result.usage = .full ∧
      w.result.outcome = .complete := by
  obtain ⟨read, b, reads, ended⟩ := reads_of_records readable room
  obtain ⟨w, went, objects_is, arena_is, distributor, usage, pending, failures, enough, goesOn⟩ :=
    @go_of_reads _ _ _ patient _ _ _ _ _ _ reads [] 0 objects.length
      [.setup objects.length .readingCache] [] rfl (Nat.zero_add _).symm
  rw [List.nil_append] at objects_is
  refine ⟨w, ?_, ?_, ?_, usage, ?_⟩
  · rw [run, found]
    exact went
  · rw [objects_is, arena_is]
    exact ended
  · intro store workers
    simp [crew?, pending, distributor]
  · simp [LoadResult.outcome, result, failures, enough, goesOn, distributor, objects_is, reads.length]

end CacheWalk

/-- A load whose cache was full does not write it again. -/
theorem LoadResult.finish_of_full {r : LoadResult α} (full : r.usage = .full) (report : Reporter)
    (target : CacheTarget) (options : LoadOptions) (files : FileSystem) :
    r.finish report target options files
      = (r.toReport false, ⟨r.objects, r.arena, files⟩, r.trace) := by
  rw [LoadResult.finish, if_neg]
  simp [full]

end Walk

namespace Object

/-- The object was loaded, from its files or from a record, into blocks that the arena still has. -/
def LoadedIn (a : Arena) (object : Object) : Prop :=
  ∃ before : Object, (∃ store, (Loadable.fromFiles store before).Ends a object (.ok ())) ∨
    ∃ record, (Loadable.fromRecord record before).Ends a object (.ok ())

/-- Whatever is ready when a load ends was loaded into the arena of the load. -/
theorem loadedIn_of_loads {report : Reporter} {store : Store} {target : CacheTarget} {workers : Nat}
    {stage : Stage Object} {r : LoadResult Object} (run : Loads report store target workers stage r) :
    ∀ object ∈ r.objects, Loadable.isReady object = true → object.LoadedIn r.arena := by
  intro object mem isReady
  obtain ⟨i, inside, rfl⟩ := List.getElem_of_mem mem
  have at_i := List.getElem?_eq_getElem inside
  cases run with
  | cached walked settled =>
      have done := CacheWalk.done_of_run walked
      have sorted := CacheWalk.sorted_result done settled
      have few := List.mem_range.mp ((sorted.mem_ready i).mpr ⟨_, at_i, isReady⟩)
      obtain ⟨record, before, result, -, is, ends⟩ := done.loaded i few
      obtain rfl := Option.some.inj (is.symm.trans at_i)
      exact ⟨before, Or.inr ⟨record, ends⟩⟩
  | @crewed walk start crew walked goesOn reaches rest =>
      have done := CacheWalk.done_of_run walked
      have sorted := CacheWalk.sorted_resultWith done goesOn reaches rest
      rcases List.mem_append.mp ((sorted.mem_ready i).mpr ⟨_, at_i, isReady⟩) with read | loaded
      · have few := List.mem_range.mp read
        obtain ⟨record, before, object, is, ends⟩ :=
          CacheWalk.read_of_crew done goesOn reaches rest few
        obtain rfl := Option.some.inj (is.symm.trans at_i)
        exact ⟨before, Or.inr ⟨record, ends⟩⟩
      · obtain ⟨before, object, is, ends⟩ :=
          CacheWalk.loaded_of_crew done goesOn reaches rest loaded
        obtain rfl := Option.some.inj (is.symm.trans at_i)
        exact ⟨before, Or.inl ⟨store, ends⟩⟩

/-- The bytes that the blocks of an object occupy. -/
def footprint (a : Arena) (object : Object) : Nat :=
  ((object.attacks ++ object.releases).map fun s =>
    Arena.bytesFor ((s.samples? a).getD []).length).sum

/-- Two objects have the same sections, bit for bit, each in its own arena. -/
structure Same (a b : Arena) (object other : Object) : Prop where
  attacks : List.Forall₂ (Section.Same a b) object.attacks other.attacks
  releases : List.Forall₂ (Section.Same a b) object.releases other.releases

theorem LoadedIn.drafted {a : Arena} {object : Object} (loaded : object.LoadedIn a) :
    ∃ (before : Object) (attacks releases : List Draft) (install : List BlockId → Object)
      (ids : List BlockId), before.Drafted attacks releases install ∧ object = install ids ∧
        a.Resolves ids ((attacks ++ releases).map (·.samples)) ∧
          ∀ d ∈ attacks ++ releases, 4 * d.samples.length ≤ Arena.maxBuffer := by
  obtain ⟨before, ⟨store, ends⟩ | ⟨record, ends⟩⟩ := loaded
  · cases ends with
    | loaded install ids promised resolved =>
        obtain ⟨fits, verdict⟩ := Plan.verdict_of_promised promised
        obtain ⟨attacks, releases, drafted, contents⟩ := drafted_of_fromFiles verdict
        rw [contents] at resolved
        rw [Plan.fits_iff, contents, List.forall_mem_map] at fits
        exact ⟨before, attacks, releases, install, ids, drafted, rfl, resolved, fits⟩
  · cases ends with
    | loaded install ids promised resolved =>
        obtain ⟨fits, verdict⟩ := Plan.verdict_of_promised promised
        obtain ⟨attacks, releases, drafted, contents⟩ := drafted_of_fromRecord verdict
        rw [contents] at resolved
        rw [Plan.fits_iff, contents, List.forall_mem_map] at fits
        exact ⟨before, attacks, releases, install, ids, drafted, rfl, resolved, fits⟩

/-- The record restores the object in any arena, and takes as much room as the object does. -/
structure Restores (a : Arena) (object : Object) (record : Bytes) : Prop where
  promised : ∃ install, (Loadable.fromRecord record (Loadable.reset object)).promised = .ok install
  bytes : (Loadable.fromRecord record (Loadable.reset object)).bytes = object.footprint a
  same : ∀ {b other}, (Loadable.fromRecord record (Loadable.reset object)).Ends b other (.ok ()) →
    object.Same a b other

/-- **The record of a loaded object restores it.** -/
theorem LoadedIn.restores {a : Arena} {object : Object} (loaded : object.LoadedIn a)
    (countable : object.Countable) {record : Bytes} (saved : Loadable.save a object = .ok record) :
    object.Restores a record := by
  obtain ⟨before, attacks, releases, install, ids, drafted, rfl, resolved, fits⟩ := loaded.drafted
  obtain ⟨foundAttacks, foundReleases⟩ := drafted.draft?_install resolved
  have fewAttacks := congrArg List.length foundAttacks
  have fewReleases := congrArg List.length foundReleases
  rw [List.length_map, List.length_map] at fewAttacks fewReleases
  have found : ((install ids).attacks ++ (install ids).releases).map (Section.draft? a)
      = (attacks ++ releases).map some := by
    rw [List.map_append, List.map_append, foundAttacks, foundReleases]
  have small : ∀ d ∈ attacks ++ releases, d.Small := by
    intro d mem
    have is : some d ∈ (attacks ++ releases).map some := List.mem_map_of_mem mem
    rw [← found] at is
    obtain ⟨s, inSections, made⟩ := List.mem_map.mp is
    obtain ⟨samples, -, rfl⟩ := Option.map_eq_some_iff.mp made
    exact ⟨countable.loops s inSections, Nat.le_trans (fits _ mem) (by decide)⟩
  obtain ⟨record', saved', made⟩ := drafted.reset.exists_record
  obtain rfl : record' = record := Except.ok.inj ((saved' a ids resolved).symm.trans saved)
  obtain ⟨verdict, contents⟩ := made (fewAttacks ▸ countable.attacks)
    (fewReleases ▸ countable.releases) small
  have before_is := drafted.reset_install ids
  refine ⟨⟨install, ?_⟩, ?_, ?_⟩
  · rw [before_is]
    refine Plan.promised_of_ok (Plan.fits_iff.mpr ?_) verdict
    rw [contents, List.forall_mem_map]
    exact fits
  · have occupied : (install ids).footprint a
        = ((((install ids).attacks ++ (install ids).releases).map (Section.draft? a)).map
          fun d? => Arena.bytesFor ((d?.map (·.samples)).getD []).length).sum := by
      rw [footprint, List.map_map]
      refine congrArg List.sum (List.map_congr_left ?_)
      intro s _
      simp only [Function.comp_apply, Section.draft?, Option.map_map]
      cases s.samples? a <;> rfl
    rw [before_is, Plan.bytes_eq, contents, occupied, found, List.map_map, List.map_map]
    rfl
  · intro b other ends
    rw [before_is] at ends
    cases ends with
    | loaded install' ids' promised resolved' =>
        obtain ⟨-, verdict'⟩ := Plan.verdict_of_promised promised
        obtain rfl := Except.ok.inj (verdict'.symm.trans verdict)
        rw [contents] at resolved'
        obtain ⟨sameAttacks, sameReleases⟩ := drafted.same resolved resolved'
        exact ⟨sameAttacks, sameReleases⟩

end Object

section Objects

variable {arena fresh b : Arena} {objects : List Object} {records : List Bytes}

theorem recordBytes_of_restores
    (restores : List.Forall₂ (Object.Restores arena) objects records) :
    CacheWalk.recordBytes (objects.map Loadable.reset) records
      = (objects.map (Object.footprint arena)).sum := by
  induction restores with
  | nil => rfl
  | cons first others ih =>
      simp only [CacheWalk.recordBytes, List.map_cons, List.zipWith_cons_cons, List.sum_cons] at ih ⊢
      rw [first.bytes, ih]

theorem same_of_restores (restores : List.Forall₂ (Object.Restores arena) objects records)
    {read : List Object} (ended : List.Forall₂
      (fun given result => (Loadable.fromRecord given.2 given.1).Ends b result (.ok ()))
      ((objects.map Loadable.reset).zip records) read) :
    List.Forall₂ (Object.Same arena b) objects read := by
  induction restores generalizing read with
  | nil =>
      cases ended
      exact .nil
  | cons first others ih =>
      cases ended with
      | cons ends others' => exact .cons (first.same ends) (ih others')

/-- The records of loaded objects restore them, and can be read again. -/
theorem readable_of_saves (loaded : ∀ object ∈ objects, object.LoadedIn arena)
    (countable : ∀ object ∈ objects, object.Countable)
    (fit : ∀ object ∈ objects, ∀ record, Loadable.save arena object = .ok record →
      record.length ≤ maxWord)
    (saves : Saves arena objects records) :
    List.Forall₂ (Object.Restores arena) objects records ∧
      List.Forall₂ Readable (objects.map Loadable.reset) records := by
  have members : ∀ object ∈ objects, object.LoadedIn arena ∧ object.Countable :=
    fun object mem => ⟨loaded object mem, countable object mem⟩
  have each := (List.forall₂_and_left objects records).mpr ⟨members, saves⟩
  have restores : List.Forall₂ (Object.Restores arena) objects records :=
    each.imp fun object record ⟨⟨loaded, countable⟩, saved⟩ => loaded.restores countable saved
  have small := (List.forall₂_and_left objects records).mpr ⟨fit, saves⟩
  have fits : List.Forall₂ (fun _ record => record.length ≤ maxWord) objects records :=
    small.imp fun object record ⟨fit, saved⟩ => fit record saved
  exact ⟨restores, List.forall₂_map_left_iff.mpr
    (fits.mp (fun object record fits restores => ⟨fits, restores.promised⟩) restores)⟩

/-- **An organ whose cache was written is loaded from it, and comes out as it was.**

The first load may have been any: all that counts is that its objects are still in their arena.
The second one starts from objects with the same titles, files and parameters.  Records are byte
strings in memory, so a word counts their bytes, as a hash has its fixed size.  If the cache is
packed, its packing has to be lawful. -/
theorem load_of_updateCache {blank : List Object} {files files' : FileSystem} {target : CacheTarget}
    {packed : Bool} {writing reading : Reporter} {trace trace' : List Progress} {n : Nat}
    (lawful : packed = true → target.packing.Lawful)
    (loaded : ∀ object ∈ objects, object.LoadedIn arena)
    (countable : ∀ object ∈ objects, object.Countable)
    (fit : ∀ object ∈ objects, ∀ record, Loadable.save arena object = .ok record →
      record.length ≤ maxWord)
    (whole : target.hash.bytes.length = Hash.size)
    (updated : updateCache writing trace target packed ⟨objects, arena, files⟩
      = (.ok n, files', trace'))
    (again : blank.map Loadable.reset = objects.map Loadable.reset)
    (room : fresh.used + (objects.map (Object.footprint arena)).sum ≤ fresh.capacity)
    (patient : ∀ trace, reading trace = true) :
    ∃ (told : LoadReport) (after : Stage Object) (trace : List Progress),
      told.usage = .full ∧ told.outcome = .complete ∧
      List.Forall₂ (Object.Same arena after.arena) objects after.objects ∧
      (∀ store options, load reading store target options ⟨blank, fresh, files'⟩
        = .ok (told, after, trace)) ∧
      ∀ store (options : LoadOptions) r,
        Loads reading store target options.concurrency ⟨blank, fresh, files'⟩ r →
          r.fromFiles = [] ∧ r.finish reading target options files' = (told, after, trace) := by
  obtain ⟨records, saves, found⟩ := source_of_updateCache lawful whole updated
  obtain ⟨restores, readable⟩ := readable_of_saves loaded countable fit saves
  obtain ⟨w, ran, ended, settled, full, complete⟩ := CacheWalk.run_of_records patient found readable
    (by rw [recordBytes_of_restores restores]; exact room)
  rw [← again] at ran
  refine ⟨w.result.toReport false, ⟨w.objects, w.arena, files'⟩, w.trace, full, complete,
    same_of_restores restores ended, ?_, ?_⟩
  · intro store options
    have finished := LoadResult.finish_of_full full reading target options files'
    simp only [load, loadAll, ran, settled, bind, Except.bind, pure, Except.pure, finished]
    rfl
  · intro store options r run
    cases run with
    | cached walked settled =>
        obtain rfl := Except.ok.inj (ran.symm.trans walked)
        exact ⟨rfl, LoadResult.finish_of_full full reading target options files'⟩
    | crewed walked crew reaches rest =>
        obtain rfl := Except.ok.inj (ran.symm.trans walked)
        rw [settled] at crew
        cases crew

/-- A section of one frame, with or without an alignment table. -/
def hum (aligned : Bool) : Draft where
  shape :=
    { rate := 48000, channels := 1, frames := 1, peak := .zero, loops := [], ends := endPoints 1 []
      alignment := if aligned then some ⟨List.replicate alignSlots 0⟩ else none }
  samples := List.replicate 17 .zero

theorem sound_hum (aligned : Bool) : (hum aligned).Sound := by
  have mono : (1 : UInt16) ≠ 0 := by decide
  refine ⟨⟨mono, Nat.one_ne_zero, rfl, rfl, ?_⟩, rfl⟩
  intro table is
  cases aligned with
  | false => cases is
  | true =>
      obtain rfl := Option.some.inj is
      exact ⟨rfl, fun position mem => (List.mem_replicate.mp mem).2 ▸ Nat.one_pos⟩

/-- A pipe with an attack and a release that hum. -/
def hummingPipe : Pipe := { title := "C", attackFiles := [⟨"c.wav", []⟩], releaseFiles := [⟨"r.wav", []⟩] }

/-- The hall that the pipe hums in: an arena that holds its sections and has no room for more. -/
def hummingHall : Arena :=
  { limit := 136, used := 136, blocks := [(hum false).samples, (hum true).samples] }

/-- The pipe, loaded into the hall. -/
def hummingObject : Object :=
  .pipe (hummingPipe.starting.install [hum false] [hum true] [⟨0, 0⟩, ⟨1, 0⟩])

theorem drafted_hummingPipe : (Object.pipe hummingPipe).Drafted [hum false] [hum true]
    fun ids => .pipe (hummingPipe.starting.install [hum false] [hum true] ids) :=
  .pipe ⟨rfl, rfl, fun d mem => by
    rcases List.mem_cons.mp mem with rfl | mem
    · exact sound_hum false
    · exact List.mem_singleton.mp mem ▸ sound_hum true, rfl⟩

theorem loadedIn_hummingHall : hummingObject.LoadedIn hummingHall := by
  obtain ⟨record, -, made⟩ := drafted_hummingPipe.exists_record
  obtain ⟨verdict, contents⟩ := made (by decide) (by decide) fun d mem => by
    rcases List.mem_cons.mp mem with rfl | mem
    · exact ⟨by decide, by decide⟩
    · exact List.mem_singleton.mp mem ▸ ⟨by decide, by decide⟩
  have promised := Plan.promised_of_ok (Plan.fits_iff.mpr (by rw [contents]; decide)) verdict
  have resolved : hummingHall.Resolves [⟨0, 0⟩, ⟨1, 0⟩]
      (Loadable.fromRecord record (Object.pipe hummingPipe)).contents := by
    rw [contents]
    rfl
  exact ⟨.pipe hummingPipe, Or.inr ⟨record, .loaded _ _ promised resolved⟩⟩

/-- Where the cache of the pipe goes. -/
def hummingTarget : CacheTarget := ⟨"caches/C", ⟨List.replicate 32 7⟩, .blocks⟩

/-- Writing the cache of the pipe, packed. -/
def hummingUpdate : Except UpdateCacheError Nat × FileSystem × List Progress :=
  updateCache Reporter.patient [] hummingTarget true ⟨[hummingObject], hummingHall, {}⟩

/-- The humming pipe comes back from its cache. -/
theorem hummingPipe_comes_back :
    hummingUpdate.1 = .ok 1 ∧ ∃ (told : LoadReport) (after : Stage Object) (trace : List Progress),
      told.usage = .full ∧ told.outcome = .complete ∧
      List.Forall₂ (Object.Same hummingHall after.arena) [hummingObject] after.objects ∧
      ∀ store options, load Reporter.patient store hummingTarget options
        ⟨[.pipe hummingPipe], { limit := 136, generation := 1 }, hummingUpdate.2.1⟩
          = .ok (told, after, trace) := by
  have updated : hummingUpdate.1 = .ok 1 := by decide +kernel
  have countable : hummingObject.Countable := ⟨by decide, by decide, by decide⟩
  have length : (Loadable.save hummingHall hummingObject).map List.length = .ok 408 := by
    decide +kernel
  have fit (record : Bytes) (saved : Loadable.save hummingHall hummingObject = .ok record) :
      record.length ≤ maxWord := by
    rw [saved] at length
    rw [show record.length = 408 from Except.ok.inj length]
    decide
  obtain ⟨told, after, trace, usage, outcome, same, loads, -⟩ :=
    @load_of_updateCache hummingHall { limit := 136, generation := 1 } [hummingObject]
      [.pipe hummingPipe] {} hummingUpdate.2.1 hummingTarget true Reporter.patient
      Reporter.patient [] hummingUpdate.2.2 1 (fun _ => Packing.blocks_lawful)
      (fun object mem => List.mem_singleton.mp mem ▸ loadedIn_hummingHall)
      (fun object mem => List.mem_singleton.mp mem ▸ countable)
      (fun object mem => List.mem_singleton.mp mem ▸ fit) rfl (Prod.ext updated rfl) rfl (by decide)
      fun _ => rfl
  exact ⟨updated, told, after, trace, usage, outcome, same, loads⟩

end Objects

end Windchest
