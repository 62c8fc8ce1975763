/-
# Windchest.Proofs.Audio.Decoding -- sample decoding never succeeds short

Nothing is known of the library here but what it is: a reader that comes upon packets of
any tracks, wants the decoder to start afresh, fails, or gives up, in any order and for as
long as it likes, and a decoder with a memory.

`Decoder.Hears` tells what such a file has to say on one track: the buffers that are
decoded, in order, and the trouble that cut them off, unless the file was over.  What a
recording makes of them is said in terms of their planes (`Interleaves`).

* `hears_exists` and `hears_unique`: a file says one thing.
* `hears_cons_iff`: what one event adds to it.
* `gather_eq_ok_iff`: what the loop over all events has gathered.
* `decoding_is_complete`: a recording accounts for all that the file says on the track,
  and a file that can be accounted for is decoded.
-/
import Windchest.Audio.Library
import Windchest.Proofs.Audio.Rows

namespace Windchest

set_option autoImplicit false

/-- How a packet is decoded.  A decoder that has to start afresh is given a second chance. -/
inductive Decoder.Decodes (d : Decoder) (p : Packet) :
    List DecoderCall → Except (Failure AudioTrouble) AudioBuffer → List DecoderCall → Prop where
  | once {calls : List DecoderCall} {result : Except (Failure AudioTrouble) AudioBuffer}
      (answer : d.answer calls p = result) (fresh : result ≠ .error (.error .restart)) :
      Decodes d p calls result (calls ++ [.decode p])
  | again {calls : List DecoderCall} {result : Except (Failure AudioTrouble) AudioBuffer}
      (stale : d.answer calls p = .error (.error .restart))
      (answer : d.answer (calls ++ [.decode p, .reset]) p = result) :
      Decodes d p calls result (calls ++ [.decode p, .reset] ++ [.decode p])

/-- What the events of a file say on a track: its buffers, and the trouble behind them. -/
inductive Decoder.Hears (d : Decoder) (track : Nat) :
    List DecoderCall → List ReadEvent → List AudioBuffer → Option (Failure AudioTrouble) → Prop where
  | finished (calls : List DecoderCall) : Hears d track calls [] [] none
  | ended (calls : List DecoderCall) (rest : List ReadEvent) :
      Hears d track calls (.error (.error .ended) :: rest) [] none
  | restarted {calls : List DecoderCall} {rest : List ReadEvent} {buffers : List AudioBuffer}
      {why : Option (Failure AudioTrouble)}
      (more : Hears d track (calls ++ [.reset]) rest buffers why) :
      Hears d track calls (.error (.error .restart) :: rest) buffers why
  | unread (calls : List DecoderCall) (rest : List ReadEvent) (why : Failure AudioTrouble)
      (early : why ≠ .error .ended) (lasting : why ≠ .error .restart) :
      Hears d track calls (.error why :: rest) [] (some why)
  | foreign {calls : List DecoderCall} {p : Packet} {rest : List ReadEvent}
      {buffers : List AudioBuffer} {why : Option (Failure AudioTrouble)} (other : p.track ≠ track)
      (more : Hears d track calls rest buffers why) : Hears d track calls (.ok p :: rest) buffers why
  | decoded {calls calls' : List DecoderCall} {p : Packet} {b : AudioBuffer} {rest : List ReadEvent}
      {buffers : List AudioBuffer} {why : Option (Failure AudioTrouble)} (own : p.track = track)
      (answer : d.Decodes p calls (.ok b) calls') (more : Hears d track calls' rest buffers why) :
      Hears d track calls (.ok p :: rest) (b :: buffers) why
  | undecoded {calls calls' : List DecoderCall} {p : Packet} (rest : List ReadEvent)
      {why : Failure AudioTrouble} (own : p.track = track)
      (answer : d.Decodes p calls (.error why) calls') :
      Hears d track calls (.ok p :: rest) [] (some why)

/-- A recording holds all that a file says on a track. -/
structure Recording.AccountsFor (r : Recording) (track : Track) (buffers : List AudioBuffer)
    (why : Option (Failure AudioTrouble)) : Prop where
  rate : track.rate = some r.rate
  channels_pos : 0 < r.channels
  /-- Buffers without any values are not asked. -/
  channels : ∀ b ∈ buffers, 0 < b.size → b.planes = r.channels.toNat
  /-- The number of channels was declared, or is that of some buffer. -/
  declared : track.declared = r.channels ∨ track.declared = 0 ∧ ∃ b ∈ buffers, 0 < b.size
  samples : Interleaves r.samples buffers
  whole : r.channels.toNat ∣ r.samples.length
  announced : ∀ n, track.announced = some n → n ≤ r.frames
  /-- A file that ends in trouble makes no sense there, and has told how long it is. -/
  trouble : ∀ t, why = some t → t = .error .malformed ∧ track.announced.isSome

/-! ## Buffers -/

namespace AudioBuffer

/-- A buffer holds whole frames. -/
theorem whole (b : AudioBuffer) : b.channels.toNat ∣ b.samples.length := by
  rw [toNat_channels, length_samples, size]
  exact Nat.dvd_mul_left ..

/-- Buffers have as many planes as channels are counted. -/
theorem channels_eq_iff {b : AudioBuffer} {channels : UInt16} :
    b.channels = channels ↔ b.planes = channels.toNat := by
  rw [← toNat_channels, UInt16.toNat_inj]

theorem channels_ne_zero {b : AudioBuffer} (filled : b.samples ≠ []) : b.channels ≠ 0 := by
  intro none
  have whole := b.whole
  rw [none] at whole
  exact filled (List.length_eq_zero_iff.mp (Nat.zero_dvd.mp whole))

theorem whole_flatMap {buffers : List AudioBuffer} {channels : UInt16}
    (agreed : ∀ b ∈ buffers, b.samples ≠ [] → b.channels = channels) :
    channels.toNat ∣ (buffers.flatMap samples).length := by
  induction buffers with
  | nil => simp
  | cons b rest ih =>
    rw [List.flatMap_cons, List.length_append]
    apply Nat.dvd_add
    · by_cases filled : b.samples = []
      · simp [filled]
      · rw [← agreed b (by simp) filled]
        exact b.whole
    · exact ih fun c mem => agreed c (List.mem_cons_of_mem b mem)

end AudioBuffer

/-! ## One event -/

namespace Decoder

variable {d : Decoder} {track : Nat}

theorem decodes_iff {p : Packet} {calls calls' : List DecoderCall}
    {result : Except (Failure AudioTrouble) AudioBuffer} :
    d.Decodes p calls result calls' ↔ d.attempt p calls = (result, calls') := by
  by_cases stale : d.answer calls p = .error (.error .restart)
  · have retried : d.attempt p calls = (d.answer (calls ++ [.decode p, .reset]) p,
        calls ++ [.decode p, .reset] ++ [.decode p]) := by
      simp only [attempt, stale]
    rw [retried]
    constructor
    · rintro (⟨rfl, fresh⟩ | ⟨-, rfl⟩)
      · exact absurd stale fresh
      · rfl
    · intro second
      cases second
      exact .again stale rfl
  · have kept : d.attempt p calls = (d.answer calls p, calls ++ [.decode p]) := by
      simp only [attempt]
    rw [kept]
    constructor
    · rintro (⟨rfl, -⟩ | ⟨same, -⟩)
      · rfl
      · exact absurd same stale
    · intro same
      cases same
      exact .once rfl stale

/-- What one event adds to what the events behind it say. -/
theorem hears_cons_iff {calls : List DecoderCall} {event : ReadEvent} {rest : List ReadEvent}
    {buffers : List AudioBuffer} {why : Option (Failure AudioTrouble)} :
    d.Hears track calls (event :: rest) buffers why ↔
      match d.hear track calls event with
      | .finished => buffers = [] ∧ why = none
      | .nothing calls => d.Hears track calls rest buffers why
      | .buffer b calls => ∃ more, buffers = b :: more ∧ d.Hears track calls rest more why
      | .trouble t => buffers = [] ∧ why = some t := by
  constructor
  · intro h
    cases h with
    | ended => exact ⟨rfl, rfl⟩
    | restarted more => exact more
    | unread _ _ t early lasting =>
      cases t with
      | fault f => exact ⟨rfl, rfl⟩
      | error t =>
        cases t with
        | ended => exact absurd rfl early
        | restart => exact absurd rfl lasting
        | malformed | other => exact ⟨rfl, rfl⟩
    | foreign other more => simpa only [hear, if_neg other] using more
    | decoded own answer more =>
      simp only [hear, if_pos own, decodes_iff.mp answer]
      exact ⟨_, rfl, more⟩
    | undecoded rest own answer => simp [hear, own, decodes_iff.mp answer]
  · intro h
    cases event with
    | error t =>
      cases t with
      | fault f =>
        obtain ⟨rfl, rfl⟩ := h
        exact .unread calls rest _ (by simp) (by simp)
      | error t =>
        cases t with
        | ended =>
          obtain ⟨rfl, rfl⟩ := h
          exact .ended calls rest
        | restart => exact .restarted h
        | malformed | other =>
          obtain ⟨rfl, rfl⟩ := h
          exact .unread calls rest _ (by simp) (by simp)
    | ok p =>
      by_cases own : p.track = track
      · rcases answer : d.attempt p calls with ⟨result, calls'⟩
        simp only [hear, if_pos own, answer] at h
        cases result with
        | ok b =>
          obtain ⟨more, rfl, h⟩ := h
          exact .decoded own (decodes_iff.mpr answer) h
        | error t =>
          obtain ⟨rfl, rfl⟩ := h
          exact .undecoded rest own (decodes_iff.mpr answer)
      · simp only [hear, if_neg own] at h
        exact .foreign own h

theorem hears_nil_iff {calls : List DecoderCall} {buffers : List AudioBuffer} {why : Option (Failure AudioTrouble)} :
    d.Hears track calls [] buffers why ↔ buffers = [] ∧ why = none := by
  constructor
  · intro h
    cases h
    exact ⟨rfl, rfl⟩
  · rintro ⟨rfl, rfl⟩
    exact .finished calls

variable (d track)

theorem hears_exists (calls : List DecoderCall) (events : List ReadEvent) :
    ∃ buffers why, d.Hears track calls events buffers why := by
  induction events generalizing calls with
  | nil => exact ⟨[], none, .finished calls⟩
  | cons event rest ih =>
    simp only [hears_cons_iff]
    cases d.hear track calls event with
    | finished => exact ⟨[], none, rfl, rfl⟩
    | nothing calls' => exact ih calls'
    | buffer b calls' =>
      obtain ⟨buffers, why, h⟩ := ih calls'
      exact ⟨b :: buffers, why, buffers, rfl, h⟩
    | trouble t => exact ⟨[], some t, rfl, rfl⟩

variable {d track}

theorem hears_unique {calls : List DecoderCall} {events : List ReadEvent} {buffers others : List AudioBuffer}
    {why reason : Option (Failure AudioTrouble)} (h : d.Hears track calls events buffers why)
    (k : d.Hears track calls events others reason) : buffers = others ∧ why = reason := by
  induction events generalizing calls buffers others with
  | nil =>
    obtain ⟨rfl, rfl⟩ := hears_nil_iff.mp h
    obtain ⟨rfl, rfl⟩ := hears_nil_iff.mp k
    exact ⟨rfl, rfl⟩
  | cons event rest ih =>
    rw [hears_cons_iff] at h k
    cases heard : d.hear track calls event with
    | finished | trouble t =>
      rw [heard] at h k
      obtain ⟨rfl, rfl⟩ := h
      obtain ⟨rfl, rfl⟩ := k
      exact ⟨rfl, rfl⟩
    | nothing calls' =>
      rw [heard] at h k
      exact ih h k
    | buffer b calls' =>
      rw [heard] at h k
      obtain ⟨more, rfl, h⟩ := h
      obtain ⟨others, rfl, k⟩ := k
      obtain ⟨rfl, rfl⟩ := ih h k
      exact ⟨rfl, rfl⟩

end Decoder

/-! ## The loop over all events -/

/-- The number of channels that is known behind some buffers, if so many were known before. -/
def Settles (channels : UInt16) (buffers : List AudioBuffer) (settled : UInt16) : Prop :=
  (∀ b ∈ buffers, b.samples ≠ [] → b.channels = settled) ∧
    (channels = settled ∨ channels = 0 ∧ ∃ b ∈ buffers, b.samples ≠ [])

/-- What is settled in terms of the planes. -/
theorem settles_iff {channels settled : UInt16} {buffers : List AudioBuffer} :
    Settles channels buffers settled ↔
      (∀ b ∈ buffers, 0 < b.size → b.planes = settled.toNat) ∧
        (channels = settled ∨ channels = 0 ∧ ∃ b ∈ buffers, 0 < b.size) := by
  simp only [Settles, AudioBuffer.samples_ne_nil_iff, AudioBuffer.channels_eq_iff]

theorem settles_nil {channels settled : UInt16} :
    Settles channels [] settled ↔ channels = settled := by
  simp [Settles]

theorem settles_cons_of_empty {channels settled : UInt16} {b : AudioBuffer}
    {buffers : List AudioBuffer} (empty : b.samples = []) :
    Settles channels (b :: buffers) settled ↔ Settles channels buffers settled := by
  simp [Settles, empty]

theorem settles_cons_of_filled {channels settled : UInt16} {b : AudioBuffer}
    {buffers : List AudioBuffer} (filled : b.samples ≠ []) :
    Settles channels (b :: buffers) settled ↔
      (channels = 0 ∨ channels = b.channels) ∧ Settles b.channels buffers settled := by
  have counted := AudioBuffer.channels_ne_zero filled
  constructor
  · rintro ⟨agreed, known⟩
    have own : b.channels = settled := agreed b (by simp) filled
    refine ⟨?_, fun c mem => agreed c (List.mem_cons_of_mem b mem), .inl own⟩
    rcases known with known | ⟨none, -⟩
    · exact .inr (known.trans own.symm)
    · exact .inl none
  · rintro ⟨known, agreed, own⟩
    have own : b.channels = settled := own.resolve_right fun h => counted h.1
    refine ⟨?_, ?_⟩
    · intro c mem filled
      rcases List.mem_cons.mp mem with rfl | mem
      · exact own
      · exact agreed c mem filled
    · rcases known with none | known
      · exact .inr ⟨none, b, by simp, filled⟩
      · exact .inl (known.trans own)

theorem map_eq_ok_iff {ε α β : Type} {f : α → β} {x : Except ε α} {b : β} :
    x.map f = .ok b ↔ ∃ a, x = .ok a ∧ f a = b := by
  cases x with
  | error why => simp [Except.map]
  | ok a => simp [Except.map]

theorem mapError_eq_ok_iff {ε ε' α : Type} {f : ε → ε'} {x : Except ε α} {a : α} :
    x.mapError f = .ok a ↔ x = .ok a := by
  cases x with
  | error why => simp [Except.mapError]
  | ok b => simp [Except.mapError]

namespace Track

variable {t : Track} {d : Decoder}

/-- What the loop over all events gathers, if the file says these buffers and that trouble. -/
theorem gather_eq_ok_iff {events : List ReadEvent} {buffers : List AudioBuffer}
    {why : Option (Failure AudioTrouble)} {calls : List DecoderCall}
    (said : d.Hears t.id calls events buffers why) {channels settled : UInt16} {arrived : Nat} {samples : List Sample} :
    t.gather d channels arrived calls events = .ok (settled, samples) ↔
      Settles channels buffers settled ∧ samples = buffers.flatMap AudioBuffer.samples ∧
        ∀ reason, why = some reason →
          reason = .error .malformed ∧ t.isReached settled (arrived + samples.length) := by
  induction events generalizing buffers calls channels arrived samples with
  | nil =>
    obtain ⟨rfl, rfl⟩ := Decoder.hears_nil_iff.mp said
    simp [gather, settles_nil]
  | cons event rest ih =>
    rw [Decoder.hears_cons_iff] at said
    rw [gather]
    cases heard : d.hear t.id calls event with
    | finished =>
      rw [heard] at said
      obtain ⟨rfl, rfl⟩ := said
      simp [settles_nil]
    | nothing calls' =>
      rw [heard] at said
      exact ih said
    | trouble reason =>
      rw [heard] at said
      obtain ⟨rfl, rfl⟩ := said
      simp only [settles_nil, List.flatMap_nil, Option.some.injEq, forall_eq']
      by_cases reached : reason = .error .malformed ∧ t.isReached channels arrived
      · rw [if_pos reached]
        constructor
        · intro h
          cases h
          exact ⟨rfl, rfl, reached⟩
        · rintro ⟨rfl, rfl, -⟩
          rfl
      · rw [if_neg reached]
        constructor
        · intro h
          cases h
        · rintro ⟨rfl, rfl, ended⟩
          exact absurd ended reached
    | buffer b calls' =>
      rw [heard] at said
      obtain ⟨more, rfl, said⟩ := said
      by_cases empty : b.samples = []
      · simp only [empty, List.isEmpty_nil, or_true, if_true, ih said, List.flatMap_cons,
          settles_cons_of_empty empty, List.nil_append]
      · have filled : ¬(b.channels = 0 ∨ b.samples.isEmpty) := by
          simp [empty, AudioBuffer.channels_ne_zero empty]
        simp only [if_neg filled, settles_cons_of_filled empty]
        by_cases agreed : channels = 0 ∨ channels = b.channels
        · rw [if_pos agreed, map_eq_ok_iff]
          constructor
          · rintro ⟨⟨c, front⟩, gathered, same⟩
            cases same
            obtain ⟨settles, rfl, ended⟩ := (ih said).mp gathered
            refine ⟨⟨agreed, settles⟩, rfl, ?_⟩
            simpa only [List.length_append, Nat.add_assoc] using ended
          · rintro ⟨⟨-, settles⟩, rfl, ended⟩
            refine ⟨(settled, more.flatMap AudioBuffer.samples), (ih said).mpr ?_, rfl⟩
            refine ⟨settles, rfl, ?_⟩
            simpa only [List.flatMap_cons, List.length_append, Nat.add_assoc] using ended
        · simp [agreed]

theorem isReached_iff {channels : UInt16} {samples : Nat} :
    t.isReached channels samples ↔
      channels ≠ 0 ∧ ∃ n, t.announced = some n ∧ n ≤ samples / channels.toNat := by
  cases h : t.announced with
  | none => simp [isReached, h]
  | some n => simp [isReached, h]

theorem recording_eq_ok_iff {rate : UInt32} {channels : UInt16} {samples : List Sample}
    {r : Recording} :
    t.recording rate channels samples = .ok r ↔
      channels ≠ 0 ∧ (∀ n, t.announced = some n → n ≤ r.frames) ∧
        r = ⟨samples, channels, rate⟩ := by
  simp only [recording]
  by_cases none : channels = 0
  · simp [none]
  · rw [if_neg none]
    constructor
    · intro h
      split at h
      · cases h
      · rename_i enough
        cases h
        refine ⟨none, ?_, rfl⟩
        intro n told
        simpa [told, Recording.frames] using enough
    · rintro ⟨-, enough, rfl⟩
      rw [if_neg]
      cases told : t.announced with
      | none => simp
      | some n => simpa [Recording.frames] using enough n told

end Track

/-- There is room for announced samples if a buffer can hold them. -/
theorem Track.makeRoom_eq_ok_iff {t : Track} :
    t.makeRoom = .ok () ↔ 4 * t.announcedSamples ≤ Arena.maxBuffer := by
  have small : 4 * t.announcedSamples ≤ Arena.maxBuffer → t.announcedSamples ≤ maxWord := by
    simp only [Arena.maxBuffer, maxWord]
    omega
  simp only [makeRoom]
  by_cases room : 4 * t.announcedSamples ≤ Arena.maxBuffer
  · simp [room, small room, Nat.not_lt.mpr]
  · simp only [room, iff_false]
    split
    · simp
    · simp [Nat.lt_of_not_le room]

/-! ## A whole file -/

theorem SoundFile.decode_eq_ok_iff {f : SoundFile} {track : Track} {decoder : Decoder}
    {buffers : List AudioBuffer} {why : Option (Failure AudioTrouble)} {r : Recording}
    (found : f.tracks.find? (·.coded) = some track) (made : f.decoder track = .ok decoder)
    (said : decoder.Hears track.id [] f.events buffers why) :
    f.decode = .ok r ↔
      4 * track.announcedSamples ≤ Arena.maxBuffer ∧ r.AccountsFor track buffers why := by
  rw [← Track.makeRoom_eq_ok_iff]
  simp only [decode, found, made]
  constructor
  · intro h
    cases rated : track.rate with
    | none => simp [rated] at h
    | some rate =>
      cases roomy : track.makeRoom with
      | error fault => simp [rated, roomy] at h
      | ok =>
        simp only [rated, roomy] at h
        split at h
        · cases h
        · rename_i channels samples gathered
          obtain ⟨settles, rfl, ended⟩ := (Track.gather_eq_ok_iff said).mp gathered
          obtain ⟨counted, enough, rfl⟩ := Track.recording_eq_ok_iff.mp (mapError_eq_ok_iff.mp h)
          obtain ⟨agreed, declared⟩ := settles_iff.mp settles
          refine ⟨rfl, rated, UInt16.pos_iff_ne_zero.mpr counted, agreed, declared,
            interleaves_iff.mpr rfl, AudioBuffer.whole_flatMap settles.1, enough, ?_⟩
          intro t troubled
          obtain ⟨malformed, reached⟩ := ended t troubled
          obtain ⟨-, n, told, -⟩ := Track.isReached_iff.mp reached
          exact ⟨malformed, by simp [told]⟩
  · rintro ⟨roomy, rated, counted, agreed, declared, held, -, enough, ended⟩
    have counted : r.channels ≠ 0 := UInt16.pos_iff_ne_zero.mp counted
    have gathered : track.gather decoder track.declared 0 [] f.events
        = .ok (r.channels, r.samples) := by
      rw [Track.gather_eq_ok_iff said]
      refine ⟨settles_iff.mpr ⟨agreed, declared⟩, interleaves_iff.mp held, ?_⟩
      intro t troubled
      obtain ⟨malformed, told⟩ := ended t troubled
      obtain ⟨n, told⟩ := Option.isSome_iff_exists.mp told
      refine ⟨malformed, Track.isReached_iff.mpr ⟨counted, n, told, ?_⟩⟩
      simpa [Recording.frames] using enough n told
    simp only [rated, roomy, gathered]
    exact mapError_eq_ok_iff.mpr (Track.recording_eq_ok_iff.mpr ⟨counted, enough, rfl⟩)

/-- **Decoding never succeeds short.**  A recording holds all that the file says on its first track
with audio.  Nothing else is asked of a file but that a buffer can hold what it announces. -/
theorem decoding_is_complete (library : Library) (file : Bytes) (extension : Option String)
    (r : Recording) :
    library.decode file extension = .ok r ↔
      ∃ f track decoder buffers why, library file extension = .ok (some f) ∧
        f.tracks.find? (·.coded) = some track ∧ f.decoder track = .ok decoder ∧
        decoder.Hears track.id [] f.events buffers why ∧
        4 * track.announcedSamples ≤ Arena.maxBuffer ∧ r.AccountsFor track buffers why := by
  rw [Library.decode]
  constructor
  · intro h
    split at h
    · cases h
    · cases h
    · rename_i f opened
      cases found : f.tracks.find? (·.coded) with
      | none => simp [SoundFile.decode, found] at h
      | some track =>
        cases made : f.decoder track with
        | error why =>
          cases rated : track.rate with
          | none | some rate => simp [SoundFile.decode, found, rated, made] at h
        | ok decoder =>
          obtain ⟨buffers, why, said⟩ := decoder.hears_exists track.id [] f.events
          exact ⟨f, track, decoder, buffers, why, opened, found, made, said,
            (SoundFile.decode_eq_ok_iff found made said).mp h⟩
  · rintro ⟨f, track, decoder, buffers, why, opened, found, made, said, accounted⟩
    rw [opened]
    exact (SoundFile.decode_eq_ok_iff found made said).mpr accounted

/-- A decoder that has to start afresh after each packet, and that makes one sample of a packet. -/
def fickle : Decoder where
  answer calls p :=
    if calls.getLast?.all (· = .reset) then
      .ok (.single ⟨1, 1, by decide, fun _ _ => ⟨.ofNat p.data.length⟩⟩)
    else .error (.error .restart)

/-- A file with a packet of another track, two ways to start afresh, and an end that makes no
sense. -/
def fickleFile (announced : Nat) : SoundFile where
  tracks := [⟨3, false, none, none, none⟩, ⟨7, true, some 8000, none, some announced⟩]
  decoder _ := .ok fickle
  events := [.ok ⟨3, []⟩, .ok ⟨7, [1, 2]⟩, .error (.error .restart), .ok ⟨7, []⟩, .ok ⟨7, [5]⟩,
    .error (.error .malformed), .ok ⟨7, [1]⟩]

-- The end comes late enough for three frames, but not for four.
example : (fickleFile 3).decode = .ok ⟨[⟨2⟩, ⟨0⟩, ⟨1⟩], 1, 8000⟩ ∧
    (fickleFile 4).decode = .error (.error (.audio .malformed)) :=
  ⟨rfl, rfl⟩

end Windchest
