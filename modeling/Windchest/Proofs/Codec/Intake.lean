/-
# Windchest.Proofs.Codec.Intake -- reading sections and asking for their blocks

An intake reads a record as a reader does and asks for a block for each section on the
way.  `Intake.Takes` says what it takes from the front of the record, what it makes of
it, and which contents it asks blocks for; `drafts_eq_ok` says what is known of the
sections of a record that nobody vouches for.
-/
import Windchest.Proofs.Arena.Plans
import Windchest.Proofs.Section.Codec

namespace Windchest

set_option autoImplicit false

/-- A draft whose counts fit into the fields of a record. -/
structure Draft.Small (d : Draft) : Prop where
  loops : d.shape.loops.length < 2 ^ 32
  samples : 4 * d.samples.length ≤ maxWord

namespace Intake

variable {α β : Type}

/-- The intake takes these bytes from the front, makes this value of them, and asks for blocks with
these contents. -/
def Takes (read : IntakeM α) (bytes : Bytes) (a : α) (contents : List (List Sample)) : Prop :=
  ∀ rest demands, ∃ more : List Demand, more.map (·.contents) = contents ∧
    read ⟨bytes ++ rest, demands⟩ = .ok a ⟨rest, demands ++ more⟩

theorem takes_pure (a : α) : Takes (pure a) [] a [] := by
  intro rest demands
  refine ⟨[], rfl, ?_⟩
  rw [List.append_nil]
  rfl

theorem takes_bind {read : IntakeM α} {next : α → IntakeM β} {front back : Bytes} {a : α} {b : β}
    {contents more : List (List Sample)} (first : Takes read front a contents)
    (second : Takes (next a) back b more) :
    Takes (read >>= next) (front ++ back) b (contents ++ more) := by
  intro rest demands
  obtain ⟨here, is, first⟩ := first (back ++ rest) demands
  obtain ⟨there, are, second⟩ := second rest (demands ++ here)
  refine ⟨here ++ there, by rw [List.map_append, is, are], ?_⟩
  rw [List.append_assoc, bind_of_ok first, second, List.append_assoc]

/-- Reading fields asks for no block. -/
theorem lift_of_ok {read : Reader α} {s t : Bytes} {a : α} (done : read s = .ok a t)
    (demands : List Demand) : lift read ⟨s, demands⟩ = .ok a ⟨t, demands⟩ := by
  simp only [lift, done]

theorem takes_draft {d : Draft} (sound : d.Sound) (small : d.Small) :
    Takes draft (Field.encodeAll d.fields) d [d.samples] := by
  intro rest demands
  refine ⟨[⟨d.samples, rest.length + 4 * d.samples.length⟩], rfl, ?_⟩
  rw [draft, bind_of_ok (lift_of_ok (Draft.takes sound small.loops small.samples rest) demands)]
  rfl

theorem takes_drafts {ds : List Draft} (sound : ∀ d ∈ ds, d.Sound) (small : ∀ d ∈ ds, d.Small) :
    Takes (drafts ds.length) (ds.flatMap fun d => Field.encodeAll d.fields) ds
      (ds.map (·.samples)) := by
  induction ds with
  | nil => exact takes_pure []
  | cons d rest ih =>
      rw [List.forall_mem_cons] at sound small
      have first := takes_draft sound.1 small.1
      have others := ih sound.2 small.2
      have both : Takes (drafts (rest.length + 1)) _ (d :: rest) _ :=
        takes_bind first (takes_bind others (takes_pure _))
      rw [List.append_nil, List.append_nil] at both
      exact both

/-- A count is taken if that many elements can follow. -/
theorem count_of_room {n size : Nat} (small : n < 2 ^ 32) {rest : Bytes} (demands : List Demand)
    (room : n * max size 1 ≤ rest.length) :
    lift (Reader.count size) ⟨(Field.u32 (.ofNat n)).encode ++ rest, demands⟩
      = .ok n ⟨rest, demands⟩ :=
  lift_of_ok (Reader.count_of_room small room) demands

theorem lift_eq_ok {read : Reader α} {i j : Intake} {a : α} (done : lift read i = .ok a j) :
    read i.unread = .ok a j.unread ∧ j.demands = i.demands := by
  unfold lift at done
  split at done
  · rename_i is
    cases done
    exact ⟨is, rfl⟩
  · cases done

theorem draft_eq_ok {i j : Intake} {d : Draft} (done : draft i = .ok d j) :
    d.Sound ∧ j.demands.map (·.contents) = i.demands.map (·.contents) ++ [d.samples] := by
  obtain ⟨other, k, read, done⟩ := bind_eq_ok.mp done
  obtain ⟨found, same⟩ := lift_eq_ok read
  obtain ⟨_, _, asked, done⟩ := bind_eq_ok.mp done
  obtain ⟨rfl, rfl⟩ := pure_eq_ok.mp done
  cases asked
  refine ⟨(Draft.read_eq_ok found).1, ?_⟩
  rw [List.map_append, same]
  rfl

/-- The sections of a record are sound, and there is a block for each. -/
theorem drafts_eq_ok {n : Nat} {i j : Intake} {ds : List Draft} (done : drafts n i = .ok ds j) :
    ds.length = n ∧ (∀ d ∈ ds, d.Sound) ∧
      j.demands.map (·.contents) = i.demands.map (·.contents) ++ ds.map (·.samples) := by
  induction n generalizing i ds with
  | zero =>
      obtain ⟨rfl, rfl⟩ := pure_eq_ok.mp done
      simp
  | succ n ih =>
      obtain ⟨first, k, read, done⟩ := bind_eq_ok.mp done
      obtain ⟨rest, l, others, done⟩ := bind_eq_ok.mp done
      obtain ⟨rfl, rfl⟩ := pure_eq_ok.mp done
      obtain ⟨sound, asked⟩ := draft_eq_ok read
      obtain ⟨length, each, more⟩ := ih others
      refine ⟨by rw [List.length_cons, length], ?_, ?_⟩
      · intro d mem
        rcases List.mem_cons.mp mem with rfl | later
        · exact sound
        · exact each d later
      · rw [more, asked, List.append_assoc]
        rfl

/-- The bytes that were read spell the sections, one behind the other. -/
theorem drafts_spelled {n : Nat} {i j : Intake} {ds : List Draft} (done : drafts n i = .ok ds j) :
    ∃ fronts, List.Forall₂ Draft.Spelled ds fronts ∧ i.unread = fronts.flatten ++ j.unread := by
  induction n generalizing i ds with
  | zero =>
      obtain ⟨rfl, rfl⟩ := pure_eq_ok.mp done
      exact ⟨[], .nil, rfl⟩
  | succ n ih =>
      obtain ⟨first, k, read, done⟩ := bind_eq_ok.mp done
      obtain ⟨rest, l, others, done⟩ := bind_eq_ok.mp done
      obtain ⟨rfl, rfl⟩ := pure_eq_ok.mp done
      obtain ⟨_, m, found, read⟩ := bind_eq_ok.mp read
      obtain ⟨_, _, asked, read⟩ := bind_eq_ok.mp read
      obtain ⟨rfl, rfl⟩ := pure_eq_ok.mp read
      cases asked
      obtain ⟨-, front, spelled, here⟩ := Draft.read_eq_ok (lift_eq_ok found).1
      obtain ⟨fronts, each, there⟩ := ih others
      refine ⟨front :: fronts, .cons spelled each, ?_⟩
      rw [here, List.flatten_cons, List.append_assoc, ← there]

/-- A section of a record has as many loops as a count can tell. -/
theorem loops_of_draft {i j : Intake} {d : Draft} (done : draft i = .ok d j) :
    d.shape.loops.length < 2 ^ 32 := by
  obtain ⟨_, _, read, done⟩ := bind_eq_ok.mp done
  obtain ⟨_, _, -, done⟩ := bind_eq_ok.mp done
  obtain ⟨rfl, -⟩ := pure_eq_ok.mp done
  exact Draft.loops_of_read (lift_eq_ok read).1

theorem loops_of_drafts {n : Nat} {i j : Intake} {ds : List Draft} (done : drafts n i = .ok ds j) :
    ∀ d ∈ ds, d.shape.loops.length < 2 ^ 32 := by
  induction n generalizing i ds with
  | zero =>
      obtain ⟨rfl, -⟩ := pure_eq_ok.mp done
      simp
  | succ n ih =>
      obtain ⟨first, _, read, done⟩ := bind_eq_ok.mp done
      obtain ⟨rest, _, others, done⟩ := bind_eq_ok.mp done
      obtain ⟨rfl, rfl⟩ := pure_eq_ok.mp done
      exact List.forall_mem_cons.mpr ⟨loops_of_draft read, ih others⟩

end Intake

/-- Reading a record starts from one object, however far it goes. -/
theorem Plan.started_ofRecord {α : Type} (started : α) (read : IntakeM (List BlockId → α))
    (record : Bytes) : (Plan.ofRecord started read record).started = started := by
  unfold Plan.ofRecord
  split <;> rfl

/-- The sections that drafts become are encoded as the drafts are. -/
theorem encodeSections_zipWith {a : Arena} {ds : List Draft} {ids : List BlockId}
    {more : List (List Sample)} (resolved : a.Resolves ids (ds.map (·.samples) ++ more)) :
    encodeSections a (List.zipWith Draft.commit ds ids)
      = .ok (ds.flatMap fun d => Field.encodeAll d.fields) := by
  induction ds generalizing ids with
  | nil => rfl
  | cons d rest ih =>
      cases ids with
      | nil => cases resolved
      | cons id ids =>
          obtain ⟨here, later⟩ := List.cons.inj resolved
          simp only [List.zipWith_cons_cons, encodeSections, Section.encode, Section.samples?,
            Draft.commit, here, ih later, bind, Except.bind, pure, Except.pure, List.flatMap_cons]

/-- A section takes at least a byte of a record. -/
theorem length_le_flatMap_encode (ds : List Draft) :
    ds.length ≤ (ds.flatMap fun d => Field.encodeAll d.fields).length := by
  induction ds with
  | nil => exact Nat.le_refl 0
  | cons d rest ih =>
      have : 0 < (Field.encodeAll d.fields).length := by
        simp only [Draft.fields, Shape.fields, List.cons_append, Field.encodeAll_cons,
          List.length_append, Field.encode, Bytes.length_ofNat]
        omega
      rw [List.flatMap_cons, List.length_append, List.length_cons]
      omega

end Windchest
