/-
# Windchest.Proofs.Codec.Fields -- a record is read back field by field

Fields have neither names nor tags.  Who reads a record asks for their kinds in the order
in which they were written, and nothing but the order and the sizes keeps the fields apart.

A `session` is a row of requests to one reader, each with its answer and with what is unread
behind it; a request that fails is followed by the next one all the same.  The statements:

* `session_fields`: the kinds of the fields that were written are granted, bit for bit, and
  what follows them stays unread;
* `session_cut`: on a front of the encoding the fields are granted up to one, and that one
  is truncated, wherever the cut is -- within a number, a length or a sample;
* `session_recedes`: no request on any bytes makes more of them unread;
* `read_of_short`: a request whose first bytes are not there leaves all bytes unread.
-/
import Windchest.Proofs.Codec.Regular

namespace Windchest

set_option autoImplicit false

/-- The bytes that a field of the kind is begun with: all of it, or the length of a list. -/
def FieldKind.width : FieldKind → Nat
  | .u8 | .bool => 1
  | .u16 => 2
  | .u32 | .number => 4
  | .u64 | .samples => 8

/-- What a reader can be asked for. -/
inductive Query where
  | field (kind : FieldKind)
  | count (size : Nat)
  | samplesLength
  | samples (n : Nat)
  | finish
deriving DecidableEq, Repr

/-- What a reader grants. -/
inductive Answer where
  | field (f : Field)
  | number (n : Nat)
  | samples (values : List Sample)
  | finished
deriving DecidableEq, Repr

/-- How a request ended. -/
structure Outcome where
  answer : Except (Failure CacheError) Answer
  unread : Bytes

namespace Query

/-- Asks a reader. -/
def read : Query → Reader Answer
  | field kind => return .field (← Reader.field kind)
  | count size => return .number (← Reader.count size)
  | samplesLength => return .number (← Reader.samplesLength)
  | samples n => return .samples (← Reader.samples n)
  | finish => do
    Reader.finish
    return .finished

/-- The bytes that are taken before anything is looked at. -/
def width : Query → Nat
  | field kind => kind.width
  | count _ => 4
  | samplesLength => 8
  | samples n => 4 * n
  | finish => 0

/-- How a request ends on these unread bytes. -/
def outcome (r : Query) (unread : Bytes) : Outcome :=
  match r.read unread with
  | .ok reply rest => ⟨.ok reply, rest⟩
  | .error why rest => ⟨.error why, rest⟩

end Query

/-- How requests end that are made one after another, whatever becomes of them. -/
def session : List Query → Bytes → List Outcome
  | [], _ => []
  | r :: rest, unread => r.outcome unread :: session rest (r.outcome unread).unread

/-- The requests for fields of these kinds. -/
def requests (fields : List Field) : List Query := fields.map fun f => .field f.kind

/-- All fields are granted, and each leaves the encoding of those behind it and the suffix. -/
def granted : List Field → Bytes → List Outcome
  | [], _ => []
  | f :: rest, suffix => ⟨.ok (.field f), Field.encodeAll rest ++ suffix⟩ :: granted rest suffix

/-- The fields in front of one are granted, and that one is cut off: fewer bytes are left than the
field is begun with, or than its length demands. -/
def CutShort (fields : List Field) (bytes : Bytes) : Prop :=
  ∃ (front : List Field) (f : Field) (back : List Field) (rest : Bytes)
    (needed available : Nat) (unread : Bytes) (more : List Outcome),
    fields = front ++ f :: back ∧ bytes = Field.encodeAll front ++ rest ∧ available < needed ∧
      session (requests fields) bytes
        = granted front rest ++ ⟨.error (.error (.truncated needed available)), unread⟩ :: more

/-! ## One request -/

namespace Reader

theorem remaining_eq (s : Bytes) : remaining s = .ok s.length s := rfl

theorem take_of_short {n : Nat} {s : Bytes} (short : s.length < n) :
    take n s = .error (.error (.truncated n s.length)) s := by
  have few : ¬ n ≤ s.length := Nat.not_le_of_lt short
  simp [take, bind, EStateM.bind, get, getThe, MonadStateOf.get, EStateM.get, few, throw, throwThe,
    MonadExceptOf.throw, EStateM.throw]

theorem number_of_short {width : Nat} {s : Bytes} (short : s.length < width) :
    number width s = .error (.error (.truncated width s.length)) s :=
  bind_of_error (take_of_short short)

/-- What is made of a number is not made where the number is cut off. -/
theorem number_bind_of_short {α : Type} {width : Nat} {next : Nat → Reader α} {s : Bytes}
    (short : s.length < width) :
    (number width >>= next) s = .error (.error (.truncated width s.length)) s :=
  bind_of_error (number_of_short short)

/-- A list of samples that is cut off behind its length is truncated. -/
theorem samplesLength_of_short {n : Nat} (fits : 4 * n ≤ maxWord) {rest : Bytes}
    (short : rest.length < 4 * n) :
    samplesLength (Bytes.ofNat 8 n ++ rest)
      = .error (.error (.truncated (4 * n) rest.length)) rest := by
  have small : n < 2 ^ 64 := by
    unfold maxWord at fits
    omega
  have same : (UInt64.ofNat n).toNat = n := UInt64.toNat_ofNat_of_lt' small
  have taken := takes_u64 (.ofNat n) rest
  rw [Field.encode, same] at taken
  have needed : min (4 * n) maxWord = 4 * n := Nat.min_eq_left fits
  have few : ¬ 4 * n ≤ rest.length := Nat.not_le_of_lt short
  rw [samplesLength, bind_of_ok taken, same, bind_of_ok (remaining_eq rest)]
  simp only [needed, few, if_false]
  rfl

/-- A field that fits into the address space is read back from its encoding. -/
theorem takes_field (f : Field) (fits : f.encode.length ≤ maxWord) :
    Takes (field f.kind) f.encode f := by
  intro rest
  cases f with
  | u8 value => exact bind_of_ok (takes_u8 value rest)
  | bool value => exact bind_of_ok (takes_bool value rest)
  | u16 value => exact bind_of_ok (takes_u16 value rest)
  | u32 value => exact bind_of_ok (takes_u32 value rest)
  | u64 value => exact bind_of_ok (takes_u64 value rest)
  | number value => exact bind_of_ok (takes_sample value rest)
  | samples values =>
      have length := Sample.length_flatMap values
      simp only [Field.encode, List.length_append, Bytes.length_ofNat, length] at fits
      have small : values.length < 2 ^ 64 := by
        unfold maxWord at fits
        omega
      have room : 4 * values.length ≤ (values.flatMap Sample.encode ++ rest).length := by
        rw [List.length_append, length]
        omega
      have counted := samplesLength_of_room small room
      rw [Field.encode, UInt64.toNat_ofNat_of_lt' small] at counted
      rw [Field.kind, field, Field.encode, List.append_assoc, bind_of_ok counted,
        bind_of_ok (takes_samples values rest)]
      rfl

/-- A field is truncated where its encoding is cut. -/
theorem field_of_cut (f : Field) (fits : f.encode.length ≤ maxWord) {cut : Bytes}
    (front : cut <+: f.encode) (short : cut.length < f.encode.length) :
    ∃ needed available unread, available < needed ∧
      field f.kind cut = .error (.error (.truncated needed available)) unread := by
  cases f with
  | u8 value => exact ⟨_, _, _, short, bind_of_error (number_bind_of_short short)⟩
  | bool value =>
      exact ⟨_, _, _, short, bind_of_error (bind_of_error (number_bind_of_short short))⟩
  | u16 value =>
      rw [Field.encode, Bytes.length_ofNat] at short
      exact ⟨_, _, _, short, bind_of_error (number_bind_of_short short)⟩
  | u32 value =>
      rw [Field.encode, Bytes.length_ofNat] at short
      exact ⟨_, _, _, short, bind_of_error (number_bind_of_short short)⟩
  | u64 value =>
      rw [Field.encode, Bytes.length_ofNat] at short
      exact ⟨_, _, _, short, bind_of_error (number_bind_of_short short)⟩
  | number value =>
      rw [Field.encode, Sample.encode, Bytes.length_ofNat] at short
      exact ⟨_, _, _, short, bind_of_error (bind_of_error (take_of_short short))⟩
  | samples values =>
      have length := Sample.length_flatMap values
      simp only [Field.encode, List.length_append, Bytes.length_ofNat, length] at fits short front
      by_cases begun : cut.length < 8
      · exact ⟨_, _, _, begun, bind_of_error (bind_of_error (number_bind_of_short begun))⟩
      · -- the length is whole, so the cut goes through the samples
        obtain ⟨rest, rfl⟩ : Bytes.ofNat 8 values.length <+: cut := by
          refine List.prefix_of_prefix_length_le (List.prefix_append _ _) front ?_
          rw [Bytes.length_ofNat]
          omega
        rw [List.length_append, Bytes.length_ofNat] at short
        have few : rest.length < 4 * values.length := by omega
        have counted := samplesLength_of_short (show 4 * values.length ≤ maxWord by omega) few
        exact ⟨_, _, _, few, bind_of_error counted⟩

end Reader

namespace Query

theorem regular_read (r : Query) : Reader.Regular r.read := by
  cases r with
  | field kind => exact keeps_bind (Reader.regular_field kind) fun _ => keeps_pure _
  | count size => exact keeps_bind (Reader.regular_count size) fun _ => keeps_pure _
  | samplesLength => exact keeps_bind Reader.regular_samplesLength fun _ => keeps_pure _
  | samples n => exact keeps_bind (Reader.regular_samples n) fun _ => keeps_pure _
  | finish => exact keeps_bind Reader.regular_finish fun _ => keeps_pure _

/-- A request whose first bytes are not there is not begun. -/
theorem read_of_short (r : Query) {s : Bytes} (short : s.length < r.width) :
    r.read s = .error (.error (.truncated r.width s.length)) s := by
  cases r with
  | field kind =>
      refine bind_of_error ?_
      cases kind with
      | u8 => exact bind_of_error (Reader.number_bind_of_short short)
      | bool => exact bind_of_error (bind_of_error (Reader.number_bind_of_short short))
      | u16 => exact bind_of_error (Reader.number_bind_of_short short)
      | u32 => exact bind_of_error (Reader.number_bind_of_short short)
      | u64 => exact bind_of_error (Reader.number_bind_of_short short)
      | number => exact bind_of_error (bind_of_error (Reader.take_of_short short))
      | samples => exact bind_of_error (bind_of_error (Reader.number_bind_of_short short))
  | count size => exact bind_of_error (bind_of_error (Reader.number_bind_of_short short))
  | samplesLength => exact bind_of_error (bind_of_error (Reader.number_bind_of_short short))
  | samples n => exact bind_of_error (bind_of_error (Reader.take_of_short short))
  | finish => exact absurd short (Nat.not_lt_zero _)

theorem outcome_of_ok {r : Query} {s t : Bytes} {reply : Answer} (done : r.read s = .ok reply t) :
    r.outcome s = ⟨.ok reply, t⟩ := by
  rw [outcome, done]

theorem outcome_of_error {r : Query} {s t : Bytes} {why : Failure CacheError}
    (failed : r.read s = .error why t) : r.outcome s = ⟨.error why, t⟩ := by
  rw [outcome, failed]

theorem outcome_recedes (r : Query) (s : Bytes) : (r.outcome s).unread <:+ s := by
  cases is : r.read s with
  | ok reply t =>
      rw [outcome_of_ok is]
      exact r.regular_read.ok is
  | error why t =>
      rw [outcome_of_error is]
      exact (r.regular_read.error is).1

/-- A field is granted from its encoding, and what is behind it stays unread. -/
theorem outcome_field (f : Field) (fits : f.encode.length ≤ maxWord) (rest : Bytes) :
    (field f.kind).outcome (f.encode ++ rest) = ⟨.ok (.field f), rest⟩ :=
  outcome_of_ok (bind_of_ok (Reader.takes_field f fits rest))

/-- Finishing succeeds where nothing is unread. -/
theorem outcome_finish (s : Bytes) :
    finish.outcome s
      = ⟨if s = [] then .ok .finished else .error (.error (.malformed (.trailing s.length))), s⟩ := by
  cases s <;> rfl

end Query

/-! ## Requests in a row -/

theorem session_cons {r : Query} {s : Bytes} {o : Outcome} (first : r.outcome s = o)
    (rest : List Query) : session (r :: rest) s = o :: session rest o.unread := by
  rw [session, first]

/-- The fields that were written are granted, whatever is asked for behind them. -/
theorem session_fields {fields : List Field} (fits : (Field.encodeAll fields).length ≤ maxWord)
    (more : List Query) (suffix : Bytes) :
    session (requests fields ++ more) (Field.encodeAll fields ++ suffix)
      = granted fields suffix ++ session more suffix := by
  induction fields with
  | nil => rfl
  | cons f rest ih =>
      simp only [Field.encodeAll_cons, List.length_append] at fits
      have first := Query.outcome_field f (by omega) (Field.encodeAll rest ++ suffix)
      rw [Field.encodeAll_cons, List.append_assoc]
      exact (session_cons first _).trans (congrArg (List.cons _) (ih (by omega)))

/-- Wherever an encoding is cut, the fields are granted up to one that is truncated. -/
theorem session_cut {fields : List Field} (fits : (Field.encodeAll fields).length ≤ maxWord)
    {cut : Bytes} (front : cut <+: Field.encodeAll fields)
    (short : cut.length < (Field.encodeAll fields).length) : CutShort fields cut := by
  induction fields generalizing cut with
  | nil => exact absurd short (Nat.not_lt_zero _)
  | cons f rest ih =>
      simp only [Field.encodeAll_cons, List.length_append] at fits short front
      by_cases here : cut.length < f.encode.length
      · -- the cut goes through the first field
        have within : cut <+: f.encode :=
          List.prefix_of_prefix_length_le front (List.prefix_append _ _) (by omega)
        obtain ⟨needed, available, unread, few, failed⟩ :=
          Reader.field_of_cut f (by omega) within here
        have first : (Query.field f.kind).outcome cut
            = ⟨.error (.error (.truncated needed available)), unread⟩ :=
          Query.outcome_of_error (bind_of_error failed)
        exact ⟨[], f, rest, cut, needed, available, unread, _, rfl, rfl, few, session_cons first _⟩
      · -- the first field is whole, and the cut goes through the others
        obtain ⟨behind, rfl⟩ : f.encode <+: cut :=
          List.prefix_of_prefix_length_le (List.prefix_append _ _) front (by omega)
        rw [List.length_append] at short
        obtain ⟨others, g, back, left, needed, available, unread, more, rfl, rfl, few, answers⟩ :=
          ih (by omega) ((List.prefix_append_right_inj _).mp front) (by omega)
        have first := Query.outcome_field f (by omega) (Field.encodeAll others ++ left)
        refine ⟨f :: others, g, back, left, needed, available, unread, more, rfl, ?_, few, ?_⟩
        · rw [Field.encodeAll_cons, List.append_assoc]
        · exact (session_cons first _).trans (congrArg (List.cons _) answers)

/-- What is unread is an end of all that was unread before. -/
theorem session_recedes (asked : List Query) (s : Bytes) :
    (s :: (session asked s).map (·.unread)).Pairwise fun before after => after <:+ before := by
  induction asked generalizing s with
  | nil => exact List.pairwise_singleton _ _
  | cons r rest ih =>
      have later := ih (r.outcome s).unread
      refine List.pairwise_cons.mpr ⟨?_, later⟩
      intro t mem
      rcases List.mem_cons.mp mem with rfl | behind
      · exact r.outcome_recedes s
      · exact ((List.pairwise_cons.mp later).1 t behind).trans (r.outcome_recedes s)

/-- **Fields are read back as they were written.**  Whatever follows the encoding of any fields, the
reader grants their kinds in order, bit for bit, and all that is unread behind each field is the
encoding of the later ones and what follows; finishing succeeds if nothing does.  Where an encoding
is cut, the reader grants the fields in front of the cut and says that the next one is truncated.  And
whatever is asked for on whatever bytes, never more of them are unread than before, and a request of
which the first bytes are not there leaves them all. -/
theorem fields_come_back :
    (∀ fields, (Field.encodeAll fields).length ≤ maxWord →
      (∀ suffix, session (requests fields ++ [.finish]) (Field.encodeAll fields ++ suffix)
        = granted fields suffix ++
          [⟨if suffix = [] then .ok .finished
            else .error (.error (.malformed (.trailing suffix.length))), suffix⟩]) ∧
      ∀ cut, cut <+: Field.encodeAll fields → cut ≠ Field.encodeAll fields →
        CutShort fields cut) ∧
    (∀ s, Reader.remaining s = .ok s.length s) ∧
    (∀ asked s, (s.length :: (session asked s).map (·.unread.length)).Pairwise (· ≥ ·)) ∧
    ∀ (r : Query) s, s.length < r.width →
      r.outcome s = ⟨.error (.error (.truncated r.width s.length)), s⟩ := by
  refine ⟨?_, Reader.remaining_eq, ?_, ?_⟩
  · intro fields fits
    constructor
    · intro suffix
      rw [session_fields fits, session, session, Query.outcome_finish]
    · intro cut front proper
      have short : cut.length < (Field.encodeAll fields).length := by
        refine Nat.lt_of_le_of_ne front.length_le ?_
        intro same
        exact proper (front.eq_of_length same)
      exact session_cut fits front short
  · intro asked s
    have lengths := (session_recedes asked s).map List.length
      (S := (· ≥ ·)) fun _ _ behind => behind.length_le
    rw [List.map_cons, List.map_map] at lengths
    exact lengths
  · intro r s short
    exact Query.outcome_of_error (r.read_of_short short)

/-- A truth value and a list of one sample. -/
def flaggedSample : List Field := [.bool true, .samples [⟨1⟩]]

/-- Both come back in front of another byte, which finishing objects to; with two bytes of the sample
missing, the cut shows. -/
theorem flaggedSample_comes_back :
    (Field.encodeAll flaggedSample).length ≤ maxWord ∧
    session (requests flaggedSample ++ [.finish]) (Field.encodeAll flaggedSample ++ [9]) =
      [⟨.ok (.field (.bool true)), [1, 0, 0, 0, 0, 0, 0, 0, 1, 0, 0, 0, 9]⟩,
        ⟨.ok (.field (.samples [⟨1⟩])), [9]⟩,
        ⟨.error (.error (.malformed (.trailing 1))), [9]⟩] ∧
    CutShort flaggedSample [1, 1, 0, 0, 0, 0, 0, 0, 0, 1, 0] := by
  have fits : (Field.encodeAll flaggedSample).length ≤ maxWord := by decide
  obtain ⟨back, cut⟩ := fields_come_back.1 flaggedSample fits
  exact ⟨fits, back [9], cut _ (by decide) (by decide)⟩

end Windchest
