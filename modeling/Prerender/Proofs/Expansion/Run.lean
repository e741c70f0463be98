import Prerender.Expansion
import Prerender.Proofs.Except

/-!
# Properties kept by a run

A run down a chain calls generators for records and replaces the records by what the merges give.
A property of records that every merge keeps is therefore one of every record that a generator is
called for and of every record at the end (`expandChain_within`), whatever the generators answer.

What a call adds to the log does not depend on the answer (`generate_snd`).
-/

namespace Prerender

variable {σ : Type}

namespace SegmentWith

/-- The call that a segment makes for a record; none if there is nothing to call. -/
def callFor (segment : SegmentWith σ) (record : ParamRecord) : List Call :=
  match segment.generator with
  | some (.callable function) => [⟨function.name, .params record⟩]
  | _ => []

theorem generate_snd (segment : SegmentWith σ) (record : ParamRecord) (calls : List Call) :
    (segment.generate record calls).2 = calls ++ segment.callFor record := by
  unfold generate callFor
  cases segment.generator with
  | none => exact (List.append_nil calls).symm
  | some generator =>
    cases generator with
    | notCallable type => exact (List.append_nil calls).symm
    | callable function => rfl

theorem arguments_of_mem_callFor {segment : SegmentWith σ} {record : ParamRecord} {call : Call}
    (member : call ∈ segment.callFor record) : call.arguments = .params record := by
  unfold callFor at member
  split at member
  · rw [List.mem_singleton.mp member]
  · cases member

/-- Merging keeps a property of records. -/
def MergeKeeps (segment : SegmentWith σ) (owners : Owners σ) (P : ParamRecord → Prop) : Prop :=
  ∀ record items merged, P record → segment.merge record items owners = .ok merged →
    ∀ child ∈ merged, P child

end SegmentWith

namespace Expansion

theorem expandRecord_snd (segment : SegmentWith σ) (owners : Owners σ) (record : ParamRecord)
    (calls : List Call) :
    (expandRecord segment owners record calls).2 = calls ++ segment.callFor record := by
  rw [← segment.generate_snd, expandRecord]
  obtain ⟨raised | items, log⟩ := segment.generate record calls <;> rfl

/-- A log goes on behind some calls, and only with calls for records that have a property. -/
def Continues (P : ParamRecord → Prop) (calls log : List Call) : Prop :=
  ∃ made, log = calls ++ made ∧
    ∀ call ∈ made, ∃ record, call.arguments = .params record ∧ P record

namespace Continues

variable {P : ParamRecord → Prop} {calls middle log : List Call}

theorem refl (calls : List Call) : Continues P calls calls :=
  ⟨[], (List.append_nil calls).symm, fun _ member => absurd member List.not_mem_nil⟩

theorem trans (first : Continues P calls middle) (second : Continues P middle log) :
    Continues P calls log := by
  obtain ⟨made, rfl, holds⟩ := first
  obtain ⟨later, rfl, holdsLater⟩ := second
  refine ⟨made ++ later, List.append_assoc calls made later, ?_⟩
  intro call member
  rcases List.mem_append.mp member with here | behind
  · exact holds call here
  · exact holdsLater call behind

theorem callFor (segment : SegmentWith σ) {record : ParamRecord} (holds : P record)
    (calls : List Call) : Continues P calls (calls ++ segment.callFor record) :=
  ⟨_, rfl, fun _ member => ⟨record, SegmentWith.arguments_of_mem_callFor member, holds⟩⟩

end Continues

/-- A run behind some calls stays within a property of records: it calls generators for such
records only, and the records that it gives have the property. -/
structure Within (P : ParamRecord → Prop) (calls : List Call)
    (run : Except Raised (List ParamRecord) × List Call) : Prop where
  log : Continues P calls run.2
  records : ∀ records, run.1 = .ok records → ∀ record ∈ records, P record

section Kept

variable {P : ParamRecord → Prop} {owners : Owners σ} {calls log : List Call}

theorem Within.failed (continues : Continues P calls log) (raised : Raised) :
    Within P calls (.error raised, log) := by
  refine ⟨continues, ?_⟩
  intro _ ok
  cases ok

theorem Within.done (continues : Continues P calls log) {records : List ParamRecord}
    (holds : ∀ record ∈ records, P record) : Within P calls (.ok records, log) := by
  refine ⟨continues, ?_⟩
  intro _ ok
  cases ok
  exact holds

theorem expandRecord_within {segment : SegmentWith σ} (kept : segment.MergeKeeps owners P)
    {record : ParamRecord} (holds : P record) (calls : List Call) :
    Within P calls (expandRecord segment owners record calls) := by
  have log := Continues.callFor segment holds calls
  rw [← SegmentWith.generate_snd] at log
  unfold expandRecord
  generalize segment.generate record calls = answer at log ⊢
  obtain ⟨raised | items, after⟩ := answer
  · exact .failed log raised
  · refine ⟨log, fun merged ok => kept record items merged holds ?_⟩
    exact Except.mapError_eq_ok_iff.mp ok

/-- The calls for a record stand in front of those for the records behind it. -/
theorem expandFurther_cons_snd (segment : SegmentWith σ) (owners : Owners σ) (record : ParamRecord)
    (rest : List ParamRecord) (calls : List Call) :
    (expandFurther segment owners (record :: rest) calls).2
      = (expandFurther segment owners rest (expandRecord segment owners record calls).2).2 := by
  rw [expandFurther]
  generalize expandRecord segment owners record calls = first
  obtain ⟨outcome, between⟩ := first
  simp only
  split <;> rfl

theorem expandFurther_snd (segment : SegmentWith σ) (owners : Owners σ)
    (records : List ParamRecord) (calls : List Call) :
    (expandFurther segment owners records calls).2 = calls ++ records.flatMap segment.callFor := by
  induction records generalizing calls with
  | nil => exact (List.append_nil calls).symm
  | cons record rest ih =>
    rw [expandFurther_cons_snd, ih, expandRecord_snd, List.flatMap_cons, List.append_assoc]

theorem expandFurther_continues {segment : SegmentWith σ} (kept : segment.MergeKeeps owners P)
    {records : List ParamRecord} (holds : ∀ record ∈ records, P record) (calls : List Call) :
    Continues P calls (expandFurther segment owners records calls).2 := by
  induction records generalizing calls with
  | nil => exact .refl calls
  | cons record rest ih =>
    rw [List.forall_mem_cons] at holds
    rw [expandFurther_cons_snd]
    exact (expandRecord_within kept holds.1 calls).log.trans (ih holds.2 _)

theorem expandLevel_within (overrun : Nat → Nat) {segment : SegmentWith σ}
    (kept : segment.MergeKeeps owners P) {records : List ParamRecord}
    (holds : ∀ record ∈ records, P record) (calls : List Call) :
    Within P calls (expandLevel overrun segment owners records calls) := by
  induction records generalizing calls with
  | nil => exact .done (.refl calls) holds
  | cons record rest ih =>
    rw [List.forall_mem_cons] at holds
    have here := expandRecord_within kept holds.1 calls
    rw [expandLevel]
    generalize expandRecord segment owners record calls = first at here ⊢
    obtain ⟨raised | children, between⟩ := first
    · have further : ∀ other ∈ rest.take (overrun rest.length), P other :=
        fun other member => holds.2 other (List.mem_of_mem_take member)
      exact .failed (here.log.trans (expandFurther_continues kept further between)) _
    · have behind := ih holds.2 between
      simp only
      generalize expandLevel overrun segment owners rest between = second at behind ⊢
      obtain ⟨raised | others, after⟩ := second
      · exact .failed (here.log.trans behind.log) raised
      · refine .done (here.log.trans behind.log) ?_
        rw [List.forall_mem_append]
        exact ⟨here.records children rfl, behind.records others rfl⟩

/-- A run down a chain stays within every property of records that the merges keep. -/
theorem expandChain_within (overrun : Nat → Nat) {chain : List (SegmentWith σ)}
    (kept : ∀ segment ∈ chain, segment.MergeKeeps owners P) {records : List ParamRecord}
    (holds : ∀ record ∈ records, P record) (calls : List Call) :
    Within P calls (expandChain overrun owners chain records calls) := by
  induction chain generalizing records calls with
  | nil => exact .done (.refl calls) holds
  | cons segment rest ih =>
    rw [List.forall_mem_cons] at kept
    rw [expandChain]
    cases segment.generator with
    | none => exact ih kept.2 holds calls
    | some generator =>
      have here := expandLevel_within overrun kept.1 holds calls
      simp only
      generalize expandLevel overrun segment owners records calls = level at here ⊢
      obtain ⟨raised | children, between⟩ := level
      · exact .failed here.log raised
      · have behind := ih kept.2 (here.records children rfl) between
        exact ⟨here.log.trans behind.log, behind.records⟩

end Kept

end Expansion

end Prerender
