/-
# Windchest.Proofs.Audio.Packets -- the frames of a wave file come in packets

The data of a file is read in packets of a fixed number of blocks, and what a cut leaves
of the last packet is read as far as it goes.  Whatever the number of packets is, they
hold the whole frames that are there (`packets_eq`), as they were written
(`values_front`).  So the library of the program reads wave files (`reads_known`).
-/
import Windchest.Proofs.Audio.Header

namespace Windchest

set_option autoImplicit false

/-! ## Planes and rows -/

/-- Frames that are taken from a row of values are that row again. -/
theorem Planar.interleaved_ofInterleaved {α : Type} {frames channels : Nat} (few : channels ≤ 32)
    (values : Vector α (frames * channels)) :
    (ofInterleaved frames channels few values).interleaved id = values.toList := by
  have row : values.toList = List.ofFn values.get := by
    apply List.ext_getElem
    · simp
    · intro i _ _
      simp [Vector.get]
  rw [row, List.ofFn_mul]
  simp only [interleaved, ofInterleaved, List.flatMap, List.ofFn_eq_map]
  rfl

namespace Wave

namespace Encoding

variable (e : Encoding)

theorem values_add (m n : Nat) (bytes : Bytes) :
    e.values (m + n) bytes = e.values m bytes ++ e.values n (bytes.drop (m * e.width)) := by
  induction m generalizing bytes with
  | zero => simp [values]
  | succ m ih =>
    rw [Nat.succ_add, values, values, ih, List.cons_append, List.drop_drop, Nat.succ_mul,
      Nat.add_comm e.width]

/-- Values do not depend on what is behind them. -/
theorem values_take {n k : Nat} (bytes : Bytes) (enough : n * e.width ≤ k) :
    e.values n (bytes.take k) = e.values n bytes := by
  induction n generalizing bytes k with
  | zero => rfl
  | succ n ih =>
    rw [Nat.succ_mul] at enough
    rw [values, values, List.take_take, Nat.min_eq_left (by omega), List.drop_take,
      ih (bytes.drop e.width) (by omega)]

theorem ofNat_encode (v : BitVec e.bits) : BitVec.ofNat e.bits (Bytes.toNat (e.encode v)) = v := by
  have small : v.toNat < 256 ^ e.width := by
    have pow : 256 ^ e.width = 2 ^ e.bits := by
      rw [← e.width_eq, Nat.pow_mul]
    rw [pow]
    exact v.isLt
  rw [encode, Bytes.toNat_ofNat small, BitVec.ofNat_toNat, BitVec.setWidth_eq]

/-- Values are read as they were written. -/
theorem values_encode (values : List (BitVec e.bits)) (rest : Bytes) :
    e.values values.length (values.flatMap e.encode ++ rest) = values := by
  induction values with
  | nil => rfl
  | cons v more ih =>
    have length : (e.encode v).length = e.width := Bytes.length_ofNat ..
    rw [List.length_cons, Encoding.values, List.flatMap_cons, List.append_assoc,
      List.take_left' length, List.drop_left' length, ih, ofNat_encode]

theorem values_of_prefix {n : Nat} (values : List (BitVec e.bits)) (rest : Bytes)
    (few : n ≤ values.length) :
    e.values n (values.flatMap e.encode ++ rest) = values.take n := by
  have front := e.values_encode (values.take n) ((values.drop n).flatMap e.encode ++ rest)
  rwa [List.length_take_of_le few, ← List.append_assoc, ← List.flatMap_append,
    List.take_append_drop] at front

end Encoding

namespace Format

variable {f : Format}

theorem interleaved_frames (bytes : Bytes) :
    (f.frames bytes).interleaved id
      = f.encoding.values (min packetBlocks (bytes.length / f.frameSize) * f.channels) bytes := by
  rw [frames, Planar.interleaved_ofInterleaved]
  rfl

theorem frameSize_pos : 0 < f.frameSize := Nat.mul_pos f.channels_pos f.encoding.width_pos

/-- A piece of so many blocks, and the blocks behind it. -/
theorem values_split {size blocks : Nat} (few : size ≤ packetBlocks) (within : size ≤ blocks)
    (bytes : Bytes) :
    f.encoding.values
        (min packetBlocks ((bytes.take (size * f.frameSize)).length / f.frameSize) * f.channels)
        (bytes.take (size * f.frameSize)) ++
      f.encoding.values
        (min (blocks - size) ((bytes.drop (size * f.frameSize)).length / f.frameSize) * f.channels)
        (bytes.drop (size * f.frameSize))
      = f.encoding.values (min blocks (bytes.length / f.frameSize) * f.channels) bytes := by
  have positive := f.frameSize_pos
  have exact : ∀ n : Nat, n * f.channels * f.encoding.width = n * f.frameSize := by
    intro n
    rw [frameSize, Nat.mul_assoc]
  by_cases full : size ≤ bytes.length / f.frameSize
  · have there : size * f.frameSize ≤ bytes.length := (Nat.le_div_iff_mul_le positive).mp full
    have behind : (bytes.length - size * f.frameSize) / f.frameSize
        = bytes.length / f.frameSize - size := by
      rw [Nat.mul_comm, Nat.sub_mul_div]
    have total : min blocks (bytes.length / f.frameSize)
        = size + min (blocks - size) (bytes.length / f.frameSize - size) := by omega
    rw [List.length_take_of_le there, Nat.mul_div_cancel _ positive, Nat.min_eq_right few,
      List.length_drop, behind, total, Nat.add_mul, f.encoding.values_add, exact,
      f.encoding.values_take bytes (exact size).le]
  · have short : bytes.length ≤ size * f.frameSize := by
      have less := (Nat.div_lt_iff_lt_mul positive).mp (Nat.lt_of_not_le full)
      omega
    have none : min (blocks - size) (0 / f.frameSize) = 0 := by simp
    have all : min packetBlocks (bytes.length / f.frameSize)
        = min blocks (bytes.length / f.frameSize) := by omega
    rw [List.take_of_length_le short, List.drop_of_length_le short, List.length_nil, none, all,
      Nat.zero_mul, Encoding.values, List.append_nil]

/-- The packets hold the frames in the bytes, but no more of them than there are blocks. -/
theorem packets_eq (aligned : f.blockSize = f.frameSize) (blocks : Nat) (bytes : Bytes) :
    ∃ pieces : List Bytes, f.packets blocks bytes = pieces.map (fun piece => .ok ⟨0, piece⟩) ∧
      pieces.flatMap (fun piece => (f.frames piece).interleaved id)
        = f.encoding.values (min blocks (bytes.length / f.frameSize) * f.channels) bytes := by
  fun_induction f.packets blocks bytes with
  | case1 blocks bytes ended =>
    refine ⟨[], rfl, ?_⟩
    have none : min blocks (bytes.length / f.frameSize) = 0 := by
      rcases ended with rfl | empty
      · exact Nat.zero_min _
      · rw [List.isEmpty_iff.mp empty]
        simp
    rw [none, Nat.zero_mul]
    rfl
  | case2 blocks bytes more size ih =>
    obtain ⟨pieces, same, held⟩ := ih
    refine ⟨bytes.take (size * f.blockSize) :: pieces, by rw [same]; rfl, ?_⟩
    rw [List.flatMap_cons, held, interleaved_frames, aligned]
    exact values_split (Nat.min_le_left ..) (Nat.min_le_right ..) bytes

end Format

/-- A decoder that makes buffers of packets on their own is never in trouble. -/
theorem hears_pieces (decode : Bytes → AudioBuffer) (calls : List DecoderCall) (pieces : List Bytes) :
    Decoder.Hears ⟨fun _ p => .ok (decode p.data)⟩ 0 calls
      (pieces.map fun piece => .ok ⟨0, piece⟩) (pieces.map decode) none := by
  induction pieces generalizing calls with
  | nil => exact .finished calls
  | cons piece rest ih => exact .decoded rfl (.once rfl nofun) (ih _)

namespace Clip

variable (c : Clip)

theorem frameSize_pos : 0 < c.frameSize := c.toFormat.frameSize_pos

theorem values_take {n : Nat} (few : n ≤ c.frames.length) :
    c.values.take (n * c.channels) = (c.frames.take n).flatMap Vector.toList := by
  have length := Planar.length_flatMap_toList (c.frames.take n)
  rw [List.length_take_of_le few] at length
  rw [values]
  conv_lhs => rw [← List.take_append_drop n c.frames, List.flatMap_append]
  exact List.take_left' length

/-- The whole frames in the first bytes behind the header are those that were written. -/
theorem values_front (k : Nat) (padding : Bytes) :
    c.encoding.values
        (min c.frames.length (((c.data ++ padding).take k).length / c.frameSize) * c.channels)
        ((c.data ++ padding).take k)
      = (c.frames.take (k / c.frameSize)).flatMap Vector.toList := by
  have positive := c.frameSize_pos
  have there : min c.frames.length (((c.data ++ padding).take k).length / c.frameSize)
      = min c.frames.length (k / c.frameSize) := by
    by_cases few : k ≤ (c.data ++ padding).length
    · rw [List.length_take_of_le few]
    · have all : c.frames.length ≤ (c.data ++ padding).length / c.frameSize := by
        rw [Nat.le_div_iff_mul_le positive, List.length_append, length_data]
        exact Nat.le_add_right ..
      have more : (c.data ++ padding).length / c.frameSize ≤ k / c.frameSize :=
        Nat.div_le_div_right (Nat.le_of_not_le few)
      rw [List.take_of_length_le (Nat.le_of_not_le few)]
      omega
  have frames : c.frames.take (k / c.frameSize)
      = c.frames.take (min c.frames.length (k / c.frameSize)) := by
    rw [List.take_eq_take_iff]
    omega
  rw [there, frames]
  generalize within : min c.frames.length (k / c.frameSize) = n
  have few : n ≤ c.frames.length := by omega
  have enough : n * c.channels * c.encoding.width ≤ k := by
    calc n * c.channels * c.encoding.width = n * c.frameSize := Nat.mul_assoc ..
      _ ≤ k / c.frameSize * c.frameSize := Nat.mul_le_mul_right _ (by omega)
      _ ≤ k := Nat.div_mul_le_self ..
  have held : n * c.channels ≤ c.values.length := by
    rw [values, Planar.length_flatMap_toList]
    exact Nat.mul_le_mul_right _ few
  rw [c.encoding.values_take _ enough, data, c.encoding.values_of_prefix _ _ held,
    values_take c few]

/-- The frames in a piece of the data. -/
def framesIn (piece : Bytes) : Planar (BitVec c.encoding.bits) := c.toFormat.frames piece

/-- The frames that are there in the first bytes behind the header are delivered. -/
theorem delivers_front (k : Nat) :
    (SoundFile.ofTrack (c.toFormat.track c.data.length) c.toFormat.decode
      (c.toFormat.events c.data.length
        ((c.data ++ List.replicate (c.data.length % 2) 0).take k))).Delivers c
      (c.frames.take (k / c.frameSize)) := by
  have positive := c.frameSize_pos
  have sized : c.toFormat.blockSize ≠ 0 := Nat.pos_iff_ne_zero.mp positive
  have blocks : c.data.length / c.frameSize = c.frames.length := by
    rw [length_data, Nat.mul_div_cancel _ positive]
  generalize pad : List.replicate (c.data.length % 2) (0 : UInt8) = padding
  obtain ⟨pieces, same, held⟩ := Format.packets_eq (f := c.toFormat) rfl c.frames.length
    ((c.data ++ padding).take k)
  have events : c.toFormat.events c.data.length ((c.data ++ padding).take k)
      = pieces.map fun piece => .ok ⟨0, piece⟩ := by
    rw [Format.events, if_neg sized, ← same]
    exact congrArg (c.toFormat.packets · _) blocks
  have uniform : ∀ b ∈ pieces.map c.framesIn, b.channels = c.channels := by
    intro b mem
    obtain ⟨piece, -, rfl⟩ := List.mem_map.mp mem
    rfl
  refine ⟨c.toFormat.track c.data.length, _, pieces.map c.framesIn, rfl, rfl, rfl, rfl, ?_, ?_, ?_⟩
  · rw [Format.track, if_neg sized]
    exact congrArg some blocks
  · rw [SoundFile.ofTrack, events, List.map_map]
    exact hears_pieces c.toFormat.decode [] pieces
  · rw [Planar.deliver_iff c.channels_pos uniform, List.flatMap_map]
    exact held.trans (c.values_front k padding)

end Clip

/-- Wave files are no interchange files, nor are their fronts. -/
theorem aiff_open? (c : Clip) (k : Nat) : Aiff.open? (c.file.take k) = none := by
  have marked : ∃ behind, c.file = riff ++ behind := by
    refine ⟨Bytes.ofNat 4 c.content.length
      ++ (c.content ++ List.replicate (c.content.length % 2) 0), ?_⟩
    rw [Clip.file, chunk, List.append_assoc, List.append_assoc]
  obtain ⟨behind, marked⟩ := marked
  have failed : Aiff.parseHeader.run (c.file.take k) = none := by
    have mark := Parser.reads_take (n := 4) riff rfl
    rw [Aiff.parseHeader, StateT.run_bind, marked]
    by_cases short : k < 4
    · rw [List.take_append_of_le_length short.le, mark.stops k short]
      rfl
    · rw [List.take_append, List.take_of_length_le (Nat.le_of_not_lt short), mark.goes_on]
      rfl
  rw [Aiff.open?, failed]
  rfl

/-- The library of the program reads wave files. -/
theorem reads_known (c : Clip) (extension : Option String) : Library.known.Reads c extension := by
  constructor
  · have whole := aiff_open? c c.file.length
    rw [List.take_length] at whole
    rw [Library.known, whole, Option.none_or, c.file_eq, c.open?_of_rest]
    nofun
  · intro k
    rw [Library.known, aiff_open?, Option.none_or]
    by_cases cut : k < c.start
    · rw [c.open?_of_cut cut]
      exact .inl rfl
    · have front : c.file.take k = c.header
          ++ (c.data ++ List.replicate (c.data.length % 2) 0).take (k - c.start) := by
        rw [c.file_eq, List.take_append, List.take_of_length_le, c.length_header]
        rw [c.length_header]
        exact Nat.le_of_not_lt cut
      rw [front, c.open?_of_rest]
      exact .inr ⟨_, rfl, c.delivers_front (k - c.start)⟩

end Wave

end Windchest
