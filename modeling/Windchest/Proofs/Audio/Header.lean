/-
# Windchest.Proofs.Audio.Header -- the headers of a wave file

A parser `Leads` from certain bytes to another parser if it goes on as that one behind
them, and fails where they are cut off.  Parsers in a row lead over bytes in a row, so the
parser of a file leads over the header chunk by chunk (`reads_header`).

Hence a file that is cut within its header is not opened (`open?_of_cut`), and otherwise
the frames are looked for in what is behind (`open?_of_rest`).
-/
import Windchest.Proofs.Audio.Clip

namespace Windchest.Wave

set_option autoImplicit false

/-! ## Parsers of a front -/

namespace Parser

variable {α β : Type}

/-- The parser fails where these bytes are cut off. -/
def Stops (p : Parser α) (front : Bytes) : Prop :=
  ∀ k < front.length, p.run (front.take k) = none

/-- The parser needs certain bytes in front, and behind them it goes on as another parser. -/
structure Leads (p : Parser α) (front : Bytes) (q : Parser α) : Prop where
  goes_on : ∀ rest, p.run (front ++ rest) = q.run rest
  stops : Stops p front

/-- The parser needs certain bytes in front, takes just those and makes a value of them. -/
abbrev Reads (p : Parser α) (front : Bytes) (a : α) : Prop := Leads p front (pure a)

variable {p q r : Parser α} {f : α → Parser β} {front back : Bytes} {a : α} {b : β}

theorem leads_refl : Leads p [] p := ⟨fun _ => rfl, nofun⟩

theorem stops_append (first : Leads p front q) (second : Stops q back) :
    Stops p (front ++ back) := by
  intro k short
  rw [List.take_append]
  by_cases within : k < front.length
  · rw [Nat.sub_eq_zero_of_le within.le, List.take_zero, List.append_nil]
    exact first.stops k within
  · rw [List.take_of_length_le (Nat.le_of_not_lt within), first.goes_on]
    rw [List.length_append] at short
    exact second (k - front.length) (by omega)

theorem leads_append (first : Leads p front q) (second : Leads q back r) :
    Leads p (front ++ back) r where
  goes_on rest := by rw [List.append_assoc, first.goes_on, second.goes_on]
  stops := stops_append first second.stops

theorem leads_bind {q : Parser β} (first : Reads p front a) (second : Leads (f a) back q) :
    Leads (p >>= f) (front ++ back) q := by
  apply leads_append (q := f a)
  · constructor
    · intro rest
      rw [StateT.run_bind, first.goes_on rest]
      rfl
    · intro k short
      rw [StateT.run_bind, first.stops k short]
      rfl
  · exact second

/-- Behind the last bytes that are needed, the parser goes on. -/
theorem leads_last (first : Reads p front a) : Leads (p >>= f) front (f a) := by
  have goes : Leads (p >>= f) (front ++ []) (f a) := leads_bind first leads_refl
  rwa [List.append_nil] at goes

/-- A check that holds does nothing. -/
theorem leads_checked {condition : Bool} {next : Unit → Parser β} {q : Parser β}
    (holds : condition = true) (second : Leads (next ()) back q) :
    Leads (require condition >>= next) back q := by
  subst holds
  exact second

theorem reads_lift {o : Option α} (made : o = some a) : Reads (liftM o) [] a := by
  subst made
  exact leads_refl

theorem reads_take {n : Nat} (front : Bytes) (length : front.length = n) :
    Reads (take n) front front := by
  subst length
  constructor
  · intro rest
    simp [take]
  · intro k short
    have few : ¬ front.length ≤ min k front.length := by omega
    simp [take, few]

theorem reads_number {width n : Nat} (small : n < 256 ^ width) :
    Reads (number width) (Bytes.ofNat width n) n := by
  have read : Reads (number width) (Bytes.ofNat width n) (Bytes.ofNat width n).toNat :=
    leads_last (reads_take _ (Bytes.length_ofNat width n))
  rwa [Bytes.toNat_ofNat small] at read

end Parser

open Wave.Parser

/-! ## The format -/

namespace Encoding

theorem tag_cases (e : Encoding) : e.tag = 1 ∨ e.tag = 3 := by
  cases e with
  | unsigned depth | signed depth => exact .inl rfl
  | single | double => exact .inr rfl

theorem bits_le (e : Encoding) : e.bits ≤ 64 := by
  cases e with
  | unsigned depth | signed depth =>
    cases depth with
    | eight | sixteen | twentyFour | thirtyTwo => decide
  | single | double => decide

end Encoding

namespace Clip

variable (c : Clip)

theorem length_detail : c.detail.length = if c.extended then 24 else 0 := by
  rw [detail]
  split
  · simp [guidTail]
  · rfl

theorem length_format : c.format.length = if c.extended then 40 else 16 := by
  simp only [format, List.length_append, Bytes.length_ofNat, length_detail]
  split
  · rfl
  · rfl

/-- The tag and the bits tell the encoding. -/
theorem reads_told (tag : Nat) (same : tag = c.encoding.tag) :
    Reads (if tag = 1 then liftM (integers? c.encoding.bits) else liftM (floats? c.encoding.bits) :
      Parser Encoding) [] c.encoding := by
  have told := c.told
  subst same
  rw [Encoding.IsTold] at told
  split at told
  · rename_i whole
    rw [if_pos whole]
    exact reads_lift told
  · rename_i broken
    rw [if_neg broken]
    exact reads_lift told

theorem reads_encoding :
    Reads (parseEncoding c.tag c.encoding.bits c.format.length) c.detail c.encoding := by
  rw [length_format, parseEncoding]
  by_cases longer : c.extended
  · rw [tag, detail, if_pos longer, if_pos longer, if_pos longer, if_neg (by decide)]
    apply leads_checked (by decide)
    rw [List.append_assoc]
    apply leads_bind (reads_number (by decide))
    apply leads_checked (by decide)
    apply leads_bind (reads_take _ (by simp))
    rw [← List.append_nil (Bytes.ofNat 2 c.encoding.tag ++ guidTail)]
    apply leads_bind (reads_take _ (by simp [guidTail]))
    have behind : List.drop 2 (Bytes.ofNat 2 c.encoding.tag ++ guidTail) = guidTail :=
      List.drop_left' (Bytes.length_ofNat ..)
    have front : List.take 2 (Bytes.ofNat 2 c.encoding.tag ++ guidTail)
        = Bytes.ofNat 2 c.encoding.tag := List.take_left' (Bytes.length_ofNat ..)
    rw [behind, front]
    apply leads_checked (by simp)
    have told := c.told
    rw [Encoding.IsTold] at told
    rcases Encoding.tag_cases c.encoding with tag | tag
    · rw [tag] at told ⊢
      exact reads_lift told
    · rw [tag] at told ⊢
      exact reads_lift told
  · rw [tag, detail, if_neg longer, if_neg longer, if_neg longer,
      if_pos (Encoding.tag_cases c.encoding), if_neg (by decide), if_neg (by decide)]
    apply leads_checked (by decide)
    exact c.reads_told _ rfl

/-- What the `fmt ` chunk tells. -/
def toFormat : Format :=
  ⟨c.encoding, c.channels, c.channels_pos, c.channels_le, c.rate, c.frameSize⟩

theorem frameSize_le : c.frameSize ≤ 208 := by
  have width : c.encoding.width ≤ 8 := Nat.div_le_div_right c.encoding.bits_le
  calc c.frameSize = c.channels * c.encoding.width := rfl
    _ ≤ 26 * 8 := Nat.mul_le_mul c.channels_le width

theorem reads_format : Reads (parseFormat c.format.length) c.format c.toFormat := by
  have few := c.channels_le
  have small := c.frameSize_le
  have bits := c.encoding.bits_le
  have tag : c.tag < 256 ^ 2 := by
    rw [Clip.tag]
    rcases Encoding.tag_cases c.encoding with tag | tag
    · split <;> omega
    · split <;> omega
  have long : 16 ≤ c.format.length := by
    rw [length_format]
    split <;> omega
  have encoding := c.reads_encoding
  generalize c.format.length = length at long encoding ⊢
  rw [parseFormat, format]
  simp only [List.append_assoc]
  apply leads_checked (decide_eq_true long)
  apply leads_bind (reads_number tag)
  apply leads_bind (reads_number (by omega))
  apply leads_bind (reads_number c.rate.toNat_lt)
  apply leads_bind (reads_number (Nat.mod_lt _ (by decide)))
  apply leads_bind (reads_number (by omega))
  apply leads_bind (reads_number (by omega))
  rw [← List.append_nil c.detail]
  apply leads_bind encoding
  rw [dif_pos ⟨c.channels_pos, few⟩, UInt32.ofNat_toNat]
  exact leads_refl

/-! ## The chunks -/

/-- The header of the `data` chunk. -/
def dataHeader : Bytes := dataTag ++ Bytes.ofNat 4 c.data.length

/-- The chunk before the frames, and the header of that with them. -/
def chunksHeader : Bytes :=
  formatTag ++ (Bytes.ofNat 4 c.format.length ++ c.format) ++ c.dataHeader

theorem length_flatMap_encode (e : Encoding) (values : List (BitVec e.bits)) :
    (values.flatMap e.encode).length = values.length * e.width := by
  induction values with
  | nil => simp
  | cons v rest ih =>
    rw [List.flatMap_cons, List.length_append, ih, Encoding.encode, Bytes.length_ofNat,
      List.length_cons, Nat.succ_mul, Nat.add_comm]

theorem length_data : c.data.length = c.frames.length * c.frameSize := by
  rw [data, length_flatMap_encode, values, Planar.length_flatMap_toList, frameSize, Nat.mul_assoc]

theorem length_content :
    c.content.length = 20 + c.format.length + c.data.length + c.data.length % 2 := by
  have even : c.format.length % 2 = 0 := by
    rw [length_format]
    split <;> rfl
  simp only [content, chunk, List.length_append, Bytes.length_ofNat, List.length_replicate, even]
  simp only [wave, formatTag, dataTag, List.length_cons, List.length_nil]
  omega

theorem content_fits : c.content.length < 2 ^ 32 := by
  have fits := c.fits
  have format := c.length_format
  have data := c.length_data
  rw [frameSize] at data
  by_cases longer : c.extended
  · rw [if_pos longer] at fits format
    rw [length_content, format, data]
    omega
  · rw [if_neg longer] at fits format
    rw [length_content, format, data]
    omega

theorem reads_data (fuel : Nat) :
    Reads (parseChunks c.content.length (fuel + 1) (8 + c.format.length) (some c.toFormat))
      c.dataHeader (some c.toFormat, c.data.length) := by
  have even : (8 + c.format.length) % 2 = 0 := by
    rw [length_format]
    split <;> rfl
  have total := c.length_content
  have fits := c.content_fits
  rw [parseChunks, even, dataHeader]
  apply leads_bind (reads_take [] rfl)
  apply leads_checked (decide_eq_true (by omega))
  apply leads_bind (reads_take dataTag rfl)
  rw [← List.append_nil (Bytes.ofNat 4 c.data.length)]
  apply leads_bind (reads_number (by omega))
  apply leads_checked (by simp; omega)
  rw [if_pos rfl]
  exact leads_refl

/-- The `fmt ` chunk is read, and then what is behind it. -/
theorem leads_format (fuel : Nat) :
    Leads (parseChunks c.content.length (fuel + 1) 0 none)
      (formatTag ++ (Bytes.ofNat 4 c.format.length ++ c.format))
      (parseChunks c.content.length fuel (8 + c.format.length) (some c.toFormat)) := by
  have total := c.length_content
  have fits := c.content_fits
  rw [parseChunks]
  apply leads_bind (reads_take [] rfl)
  apply leads_checked (decide_eq_true (by omega))
  apply leads_bind (reads_take formatTag rfl)
  apply leads_bind (reads_number (by omega))
  apply leads_checked (by simp; omega)
  rw [if_neg (by decide), if_pos rfl, Nat.zero_add]
  exact leads_last c.reads_format

theorem reads_chunks (fuel : Nat) :
    Reads (parseChunks c.content.length (fuel + 2) 0 none) c.chunksHeader
      (some c.toFormat, c.data.length) :=
  leads_append (c.leads_format (fuel + 1)) (c.reads_data fuel)

/-- However many chunks may still come, they cannot be cut off. -/
theorem stops_chunks (fuel : Nat) :
    Stops (parseChunks c.content.length fuel 0 none) c.chunksHeader := by
  match fuel with
  | 0 => exact fun k short => rfl
  | 1 => exact stops_append (c.leads_format 0) fun k short => rfl
  | fuel + 2 => exact (c.reads_chunks fuel).stops

/-- Everything before the frames. -/
def header : Bytes := riff ++ (Bytes.ofNat 4 c.content.length ++ (wave ++ c.chunksHeader))

/-- How many chunks may come is told from the bytes that are there. -/
theorem reads_all_chunks :
    Reads (get >>= fun bytes => parseChunks c.content.length (List.length bytes + 1) 0 none)
      c.chunksHeader (some c.toFormat, c.data.length) := by
  constructor
  · intro rest
    have long : 2 ≤ (c.chunksHeader ++ rest).length + 1 := by
      simp only [chunksHeader, formatTag, List.length_append, List.length_cons]
      omega
    obtain ⟨fuel, enough⟩ := Nat.exists_eq_add_of_le' long
    rw [StateT.run_bind, StateT.run_get, pure_bind, enough]
    exact (c.reads_chunks fuel).goes_on rest
  · intro k short
    rw [StateT.run_bind, StateT.run_get, pure_bind]
    exact c.stops_chunks _ k short

theorem reads_header : Reads parseHeader c.header (some c.toFormat, c.data.length) := by
  rw [parseHeader, header]
  apply leads_bind (reads_take riff rfl)
  apply leads_bind (reads_number c.content_fits)
  apply leads_bind (reads_take wave rfl)
  apply leads_checked (by simp)
  exact c.reads_all_chunks

theorem length_header : c.header.length = c.start := by
  simp only [header, chunksHeader, dataHeader, List.length_append, Bytes.length_ofNat,
    length_format, riff, wave, formatTag, dataTag, List.length_cons, List.length_nil, start]
  split <;> rfl

theorem file_eq : c.file = c.header ++ (c.data ++ List.replicate (c.data.length % 2) 0) := by
  have format : c.format.length % 2 = 0 := by
    rw [length_format]
    split <;> rfl
  have even : c.content.length % 2 = 0 := by
    rw [length_content]
    omega
  rw [file, chunk, even, header]
  generalize c.content.length = total
  rw [content]
  simp only [chunk, format, chunksHeader, dataHeader, List.replicate_zero,
    List.append_nil, List.append_assoc]

end Clip

/-! ## Opening a file -/

theorem fromMarker?_of_short {bytes : Bytes} (short : bytes.length < 4) :
    fromMarker? bytes = none := by
  induction bytes with
  | nil => rfl
  | cons b rest ih =>
    rw [fromMarker?, if_neg]
    · exact ih (by simp at short; omega)
    · intro marked
      have length := congrArg List.length marked
      simp [riff] at length short
      omega

theorem fromMarker?_of_marked {bytes : Bytes} (marked : bytes.take 4 = riff) :
    fromMarker? bytes = some bytes := by
  cases bytes with
  | nil => cases marked
  | cons b rest => rw [fromMarker?, if_pos marked]

namespace Clip

variable (c : Clip)

/-- A file that is cut off within the header is not opened. -/
theorem open?_of_cut {k : Nat} (short : k < c.start) : open? (c.file.take k) = none := by
  have front : c.file.take k = c.header.take k := by
    rw [file_eq, List.take_append_of_le_length (by rw [length_header]; omega)]
  rw [front, open?]
  by_cases marked : k < 4
  · rw [fromMarker?_of_short (by rw [List.length_take]; omega)]
    rfl
  · rw [fromMarker?_of_marked]
    · have stopped := c.reads_header.stops k (by rw [length_header]; exact short)
      simp [stopped]
    · rw [List.take_take, Nat.min_eq_left (by omega)]
      rfl

/-- Behind the header, the frames are read from what is there. -/
theorem open?_of_rest (rest : Bytes) :
    open? (c.header ++ rest) = some (.ofTrack (c.toFormat.track c.data.length) c.toFormat.decode
      (c.toFormat.events c.data.length rest)) := by
  rw [open?, fromMarker?_of_marked rfl]
  have read := c.reads_header.goes_on rest
  simp [read]

end Clip

end Windchest.Wave
