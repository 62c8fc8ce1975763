/-
# Windchest.Proofs.Audio.WaveFiles -- wave files decode to what they store

What is known of the library is `Library.Reads`, about the one file that is decoded: it
announces the frames that the header tells, and delivers those that are there.  The rest is
done behind it -- values become samples, the planes of the packets become one row, and
frames that are announced but not there are missed.

* `decode_file`: a wave file is decoded to the recording it was made of.
* `decode_cut`: without its last frame it is an error, wherever the file is cut.
* `waves_decode_to_what_they_store`: both, with what the samples are in numbers.
-/
import Windchest.Proofs.Audio.Packets
import Windchest.Proofs.Audio.Scaling

namespace Windchest

set_option autoImplicit false

namespace Wave.Clip

variable (c : Clip)

theorem present_file : c.present c.file.length = c.frames := by
  have all : c.frames.length ≤ (c.file.length - c.start) / c.frameSize := by
    rw [Nat.le_div_iff_mul_le c.frameSize_pos, file_eq, List.length_append, length_header,
      List.length_append, length_data]
    omega
  exact List.take_of_length_le all

/-- A cut before the end of the last frame takes that frame away. -/
theorem length_present_lt {k : Nat} (filled : c.frames ≠ [])
    (cut : k < c.start + c.frames.length * c.frameSize) :
    (c.present k).length < c.frames.length := by
  have some : 0 < c.frames.length := List.length_pos_of_ne_nil filled
  have fewer : (k - c.start) / c.frameSize < c.frames.length := by
    rw [Nat.div_lt_iff_lt_mul c.frameSize_pos]
    have positive : 0 < c.frames.length * c.frameSize := Nat.mul_pos some c.frameSize_pos
    omega
  rw [present, List.length_take]
  omega

end Wave.Clip

namespace Library.Reads

variable {library : Library} {c : Wave.Clip} {extension : Option String}

theorem decode_file (reads : library.Reads c extension) :
    library.decode c.file extension = .ok c.recording := by
  have whole := reads.delivers c.file.length
  rw [List.take_length, c.present_file] at whole
  rcases whole with unopened | ⟨f, opened, delivered⟩
  · exact absurd unopened reads.opens
  · simp only [Library.decode, opened, SoundFile.decode_of_delivers delivered, lt_irrefl, if_false]
    rfl

theorem decode_cut (reads : library.Reads c extension) {k : Nat}
    (missed : (c.present k).length < c.frames.length) :
    ∃ why, library.decode (c.file.take k) extension = .error (.error why) := by
  rcases reads.delivers k with unopened | ⟨f, opened, delivered⟩
  · exact ⟨.unknownFormat, by simp only [Library.decode, unopened]⟩
  · refine ⟨.truncated c.frames.length (c.present k).length, ?_⟩
    simp only [Library.decode, opened, SoundFile.decode_of_delivers delivered, missed, if_true]

end Library.Reads

/-- Numbers of 16 and 24 bits are parts of full scale, and none reaches its upper end. -/
theorem Wave.Encoding.rational_sample {e : Wave.Encoding}
    (whole : e = .signed .sixteen ∨ e = .signed .twentyFour) (v : BitVec e.bits) :
    ∃ q : ℚ, (e.sample v).rational? = some q ∧ q = v.toInt / 2 ^ (e.bits - 1) ∧ -1 ≤ q ∧ q < 1 := by
  have scaled : ∃ depth, e = .signed depth ∧ depth ≠ .thirtyTwo := by
    rcases whole with rfl | rfl
    · exact ⟨.sixteen, rfl, by decide⟩
    · exact ⟨.twentyFour, rfl, by decide⟩
  obtain ⟨depth, rfl, narrow⟩ := scaled
  exact ⟨_, rational_ofSigned narrow v, rfl, within_one depth v⟩

theorem Wave.Encoding.bits_sample {e : Wave.Encoding} (single : e = .single) (v : BitVec e.bits) :
    (e.sample v).bits.toNat = v.toNat := by
  subst single
  rfl

/-- A wave file decodes to the channels, the rate, the frames and the samples it was made of.
Samples of 16 and 24 bits are exact parts of full scale, and those of single precision are what is
stored.  If the file is cut so that a frame is missed, it does not decode. -/
theorem waves_decode_to_what_they_store (library : Library) (c : Wave.Clip)
    (extension : Option String) (reads : library.Reads c extension) :
    library.decode c.file extension = .ok c.recording ∧
    c.recording.channels.toNat = c.channels ∧ c.recording.rate = c.rate ∧
    c.recording.frames = c.frames.length ∧
    (∀ i : Nat, c.recording.samples[i]? = c.values[i]?.map c.encoding.sample) ∧
    (c.encoding = .signed .sixteen ∨ c.encoding = .signed .twentyFour → ∀ v ∈ c.values, ∃ q : ℚ,
      (c.encoding.sample v).rational? = some q ∧ q = v.toInt / 2 ^ (c.encoding.bits - 1) ∧
        -1 ≤ q ∧ q < 1) ∧
    (c.encoding = .single → ∀ v ∈ c.values, (c.encoding.sample v).bits.toNat = v.toNat) ∧
    (c.frames ≠ [] → ∀ k < c.start + c.frames.length * c.frameSize,
      ∃ why, library.decode (c.file.take k) extension = .error (.error why)) := by
  refine ⟨reads.decode_file, c.toNat_channels, rfl, c.frames_recording, ?_, ?_, ?_, ?_⟩
  · intro i
    exact List.getElem?_map ..
  · intro whole v _
    exact Wave.Encoding.rational_sample whole v
  · intro single v _
    exact Wave.Encoding.bits_sample single v
  · intro filled k cut
    exact reads.decode_cut (c.length_present_lt filled cut)

/-- Two frames of two channels in 24 bits: both ends of the scale, silence and the least step. -/
def tickClip : Wave.Clip where
  encoding := .signed .twentyFour
  told := rfl
  channels := 2
  channels_pos := by decide
  channels_le := by decide
  rate := 44100
  extended := true
  frames := [#v[.ofNat _ 0x800000, .ofNat _ 0x7fffff], #v[.ofNat _ 0, .ofNat _ 1]]
  fits := by decide

theorem tickClip_decodes :
    Library.known.Reads tickClip (some "wav") ∧
      Library.known.decode tickClip.file (some "wav") = .ok tickClip.recording ∧
      (∃ v ∈ tickClip.values, ∃ q : ℚ, (tickClip.encoding.sample v).rational? = some q ∧ q = -1) ∧
      tickClip.frames ≠ [] ∧ 79 < tickClip.start + tickClip.frames.length * tickClip.frameSize ∧
      ∃ why, Library.known.decode (tickClip.file.take 79) (some "wav") = .error (.error why) := by
  have reads : Library.known.Reads tickClip (some "wav") := Wave.reads_known tickClip (some "wav")
  have filled : tickClip.frames ≠ [] := by simp [tickClip]
  have cut : 79 < tickClip.start + tickClip.frames.length * tickClip.frameSize := by decide
  obtain ⟨decoded, -, -, -, -, exact, -, missed⟩ :=
    waves_decode_to_what_they_store Library.known tickClip (some "wav") reads
  have least : BitVec.ofNat tickClip.encoding.bits 0x800000 ∈ tickClip.values := by decide
  obtain ⟨q, value, quotient, -⟩ := exact (.inr rfl) _ least
  have number : (BitVec.ofNat tickClip.encoding.bits 0x800000).toInt = -2 ^ 23 := by decide
  have scale : tickClip.encoding.bits - 1 = 23 := rfl
  refine ⟨reads, decoded, ⟨_, least, q, value, ?_⟩, filled, cut, missed filled 79 cut⟩
  rw [quotient, number, scale]
  norm_num

end Windchest
