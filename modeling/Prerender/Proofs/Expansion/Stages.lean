import Mathlib.Data.List.Induction
import Prerender.Proofs.Expansion.Owners
import Prerender.Proofs.Expansion.Run

/-!
# Runs in stages

A run down a chain is a run down the first part of it, and then one down the rest from the records
that the first part gives (`expandChain_append_cases`). It has a result if both have
(`expandChain_append_eq_ok_iff`), a level if it has one for each record
(`expandLevel_cons_eq_ok_iff`), and that if the answer can be merged (`expandRecord_eq_ok_iff`).
A level fails at the first record that the segment has no records for
(`expandLevel_eq_error_iff`).
-/

namespace Prerender

variable {σ : Type} {overrun : Nat → Nat}

namespace Expansion

theorem expandRecord_eq_ok_iff {segment : SegmentWith σ} {owners : Owners σ}
    {record : ParamRecord} {calls log : List Call} {children : List ParamRecord} :
    expandRecord segment owners record calls = (.ok children, log)
      ↔ ∃ items, segment.generate record calls = (.ok items, log)
        ∧ segment.merge record items owners = .ok children := by
  unfold expandRecord
  obtain ⟨raised | items, after⟩ := segment.generate record calls
  · simp
  · simp only [Prod.mk.injEq, Except.ok.injEq, Except.mapError_eq_ok_iff]
    constructor
    · rintro ⟨merged, rfl⟩
      exact ⟨items, ⟨rfl, rfl⟩, merged⟩
    · rintro ⟨_, ⟨rfl, rfl⟩, merged⟩
      exact ⟨merged, rfl⟩

theorem expandLevel_cons_eq_ok_iff {segment : SegmentWith σ} {owners : Owners σ}
    {record : ParamRecord} {rest : List ParamRecord} {calls log : List Call}
    {children : List ParamRecord} :
    expandLevel overrun segment owners (record :: rest) calls = (.ok children, log)
      ↔ ∃ here between behind, expandRecord segment owners record calls = (.ok here, between)
        ∧ expandLevel overrun segment owners rest between = (.ok behind, log)
        ∧ children = here ++ behind := by
  rw [expandLevel]
  obtain ⟨raised | here, between⟩ := expandRecord segment owners record calls
  · simp
  · simp only
    cases level : expandLevel overrun segment owners rest between with
    | mk outcome after =>
      cases outcome with
      | error raised =>
        refine iff_of_false (by rintro ⟨⟩) ?_
        rintro ⟨_, _, _, ⟨⟩, other, -⟩
        cases level.symm.trans other
      | ok behind =>
        constructor
        · rintro ⟨⟩
          exact ⟨here, between, behind, rfl, level, rfl⟩
        · rintro ⟨_, _, _, ⟨⟩, other, rfl⟩
          cases level.symm.trans other
          rfl

/-- A level fails at the first record that the segment has no records for, with that or with what is
let out behind it. -/
theorem expandLevel_eq_error_iff {segment : SegmentWith σ} {owners : Owners σ}
    {records : List ParamRecord} {calls log : List Call} {ended : Raised} :
    expandLevel overrun segment owners records calls = (.error ended, log)
      ↔ ∃ earlier record later children before raised after crashes,
        records = earlier ++ record :: later
        ∧ expandLevel overrun segment owners earlier calls = (.ok children, before)
        ∧ expandRecord segment owners record before = (.error raised, after)
        ∧ expandFurther segment owners (later.take (overrun later.length)) after = (crashes, log)
        ∧ ended = groupEnd raised crashes := by
  induction records generalizing calls with
  | nil =>
    refine iff_of_false (by rintro ⟨⟩) ?_
    rintro ⟨earlier, _, _, _, _, _, _, _, split, -⟩
    cases earlier <;> cases split
  | cons record rest ih =>
    constructor
    · intro failed
      rw [expandLevel] at failed
      cases here : expandRecord segment owners record calls with
      | mk outcome between =>
        rw [here] at failed
        cases outcome with
        | error raised =>
          cases failed
          exact ⟨[], record, rest, [], calls, raised, between, _, rfl, rfl, here, rfl, rfl⟩
        | ok children =>
          cases level : expandLevel overrun segment owners rest between with
          | mk outcome after =>
            simp only [level] at failed
            cases outcome with
            | ok others => cases failed
            | error other =>
              cases failed
              obtain ⟨earlier, second, later, others, before, raised, after, crashes, rfl, first,
                there⟩ := ih.mp level
              refine ⟨record :: earlier, second, later, children ++ others, before, raised, after,
                crashes, rfl, ?_, there⟩
              exact expandLevel_cons_eq_ok_iff.mpr ⟨children, between, others, here, first, rfl⟩
    · rintro ⟨earlier, second, later, children, before, raised, after, crashes, split, first, there,
        further, rfl⟩
      rw [expandLevel]
      cases earlier with
      | nil =>
        cases split
        cases first
        rw [there]
        simp only [further]
      | cons _ earlier =>
        cases split
        obtain ⟨here, between, others, ok, behind, -⟩ := expandLevel_cons_eq_ok_iff.mp first
        simp only [ok, ih.mpr ⟨earlier, second, later, others, before, raised, after, crashes, rfl,
          behind, there, further, rfl⟩]

/-- With a generator, a segment is a level of its own. -/
theorem expandChain_cons_of_generator {segment : SegmentWith σ} {generator : Generator}
    (generates : segment.generator = some generator) (owners : Owners σ)
    (rest : List (SegmentWith σ)) (records : List ParamRecord) (calls : List Call) :
    expandChain overrun owners (segment :: rest) records calls
      = match expandLevel overrun segment owners records calls with
        | (.error raised, log) => (.error raised, log)
        | (.ok children, log) => expandChain overrun owners rest children log := by
  cases level : expandLevel overrun segment owners records calls with
  | mk outcome log => cases outcome <;> simp only [expandChain, generates, level]

/-- Without a generator, a segment passes the records on. -/
theorem expandChain_cons_of_no_generator {segment : SegmentWith σ}
    (silent : segment.generator = none) (owners : Owners σ) (rest : List (SegmentWith σ))
    (records : List ParamRecord) (calls : List Call) :
    expandChain overrun owners (segment :: rest) records calls
      = expandChain overrun owners rest records calls := by
  simp only [expandChain, silent]

/-- A segment with a generator alone is a level. -/
theorem expandChain_singleton {segment : SegmentWith σ} {generator : Generator}
    (generates : segment.generator = some generator) (owners : Owners σ)
    (records : List ParamRecord) (calls : List Call) :
    expandChain overrun owners [segment] records calls
      = expandLevel overrun segment owners records calls := by
  rw [expandChain_cons_of_generator generates]
  obtain ⟨raised | children, log⟩ := expandLevel overrun segment owners records calls <;> rfl

/-- Segments without generators pass the records on. -/
theorem expandChain_of_no_generators {chain : List (SegmentWith σ)}
    (silent : ∀ segment ∈ chain, segment.generator = none) (owners : Owners σ)
    (records : List ParamRecord) (calls : List Call) :
    expandChain overrun owners chain records calls = (.ok records, calls) := by
  induction chain with
  | nil => rfl
  | cons segment rest ih =>
    rw [List.forall_mem_cons] at silent
    rw [expandChain_cons_of_no_generator silent.1, ih silent.2]

/-- A run fails within the first part of a chain, or it goes on with the records at its end. -/
theorem expandChain_append_cases (overrun : Nat → Nat) (owners : Owners σ)
    (above : List (SegmentWith σ)) (records : List ParamRecord) (calls : List Call) :
    (∃ raised log, expandChain overrun owners above records calls = (.error raised, log)
        ∧ ∀ below,
            expandChain overrun owners (above ++ below) records calls = (.error raised, log))
      ∨ ∃ reached log, expandChain overrun owners above records calls = (.ok reached, log)
        ∧ ∀ below, expandChain overrun owners (above ++ below) records calls
            = expandChain overrun owners below reached log := by
  induction above generalizing records calls with
  | nil => exact Or.inr ⟨records, calls, rfl, fun _ => rfl⟩
  | cons segment rest ih =>
    cases generator : segment.generator with
    | none =>
      simp only [List.cons_append, expandChain_cons_of_no_generator generator]
      exact ih records calls
    | some _ =>
      simp only [List.cons_append, expandChain_cons_of_generator generator]
      obtain ⟨raised | children, between⟩ := expandLevel overrun segment owners records calls
      · exact Or.inl ⟨raised, between, rfl, fun _ => rfl⟩
      · exact ih children between

theorem expandChain_append_eq_ok_iff {owners : Owners σ} {above below : List (SegmentWith σ)}
    {records final : List ParamRecord} {calls log : List Call} :
    expandChain overrun owners (above ++ below) records calls = (.ok final, log)
      ↔ ∃ reached between, expandChain overrun owners above records calls = (.ok reached, between)
        ∧ expandChain overrun owners below reached between = (.ok final, log) := by
  rcases expandChain_append_cases overrun owners above records calls with
    ⟨raised, between, first, whole⟩ | ⟨reached, between, first, whole⟩
  · simp [first, whole]
  · rw [whole, first]
    constructor
    · intro ran
      exact ⟨reached, between, rfl, ran⟩
    · rintro ⟨_, _, ⟨⟩, ran⟩
      exact ran

/-- A run that has records at the end has some at the end of every first part of its chain. What
holds of the records at the start, and stays so at each segment, holds of all of them. -/
theorem exists_reached {owners : Owners σ} {chain : List (SegmentWith σ)}
    {start final : List ParamRecord} {calls log : List Call}
    (ran : expandChain overrun owners chain start calls = (.ok final, log))
    {P : List (SegmentWith σ) → List ParamRecord → Prop} (root : P [] start)
    (step : ∀ above segment below, chain = above ++ segment :: below →
      ∀ reached between children after,
        expandChain overrun owners above start calls = (.ok reached, between) →
        expandChain overrun owners [segment] reached between = (.ok children, after) →
        P above reached → P (above ++ [segment]) children)
    (above below : List (SegmentWith σ)) (split : chain = above ++ below) :
    ∃ reached between, expandChain overrun owners above start calls = (.ok reached, between)
      ∧ expandChain overrun owners below reached between = (.ok final, log) ∧ P above reached := by
  induction above using List.reverseRecOn generalizing below with
  | nil =>
    obtain rfl : chain = below := split
    exact ⟨start, calls, rfl, ran, root⟩
  | append_singleton above segment ih =>
    have splitHere : chain = above ++ segment :: below := by
      rw [split, List.append_assoc, List.singleton_append]
    obtain ⟨reached, between, first, rest, holds⟩ := ih (segment :: below) splitHere
    rw [← List.singleton_append, expandChain_append_eq_ok_iff] at rest
    obtain ⟨children, after, here, behind⟩ := rest
    exact ⟨children, after, expandChain_append_eq_ok_iff.mpr ⟨reached, between, first, here⟩,
      behind, step above segment below splitHere reached between children after first here holds⟩

/-- A run of an expansion behind some calls has a record at the end of the first part of its
chain. -/
def Reaches (overrun : Nat → Nat) (chain above : List (SegmentWith σ)) (calls : List Call)
    (record : ParamRecord) : Prop :=
  ∃ records log, expandChain overrun (ownersOf chain) above [[]] calls = (.ok records, log)
    ∧ record ∈ records

end Expansion

end Prerender
