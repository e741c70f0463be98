import Prerender.Proofs.Expansion.Run

/-!
# Calls that generators can see

A generator answers by the parameters and by the calls made before. If the generators of a chain
answer by some of these calls only (`AnswersBy`), then runs behind logs that agree on them have the
same outcome, and make the same calls among them (`expandChain_agreesOn`).
-/

namespace Prerender

variable {σ : Type}

namespace Expansion

/-- The generator of a segment answers by the parameters and by those of the calls before that it
can see. -/
def AnswersBy (visible : Call → Bool) (segment : SegmentWith σ) : Prop :=
  ∀ function, segment.generator = some (.callable function) →
    ∀ record calls, function.run calls (.params record)
      = function.run (calls.filter visible) (.params record)

/-- Two runs have the same outcome and the same visible calls. -/
structure AgreesOn (visible : Call → Bool) {α : Type} (run other : α × List Call) : Prop where
  outcome : run.1 = other.1
  calls : run.2.filter visible = other.2.filter visible

variable {visible : Call → Bool}

/-- Runs that agree come to the same outcome, behind logs that agree. -/
theorem AgreesOn.exists_eq {α : Type} {run other : α × List Call}
    (agrees : AgreesOn visible run other) :
    ∃ outcome log otherLog, run = (outcome, log) ∧ other = (outcome, otherLog)
      ∧ log.filter visible = otherLog.filter visible :=
  ⟨run.1, run.2, other.2, rfl, Prod.ext agrees.outcome.symm rfl, agrees.calls⟩

variable {calls other : List Call}

theorem generate_agreesOn {segment : SegmentWith σ} (answers : AnswersBy visible segment)
    (record : ParamRecord) (same : calls.filter visible = other.filter visible) :
    AgreesOn visible (segment.generate record calls) (segment.generate record other) := by
  constructor
  · unfold SegmentWith.generate
    split
    · rfl
    · rfl
    · next function called =>
      have answer := answers function called record
      have alike : function.run calls (.params record) = function.run other (.params record) :=
        (answer calls).trans (same ▸ (answer other).symm)
      simp only [UserFunction.invoke, alike]
  · rw [SegmentWith.generate_snd, SegmentWith.generate_snd, List.filter_append, List.filter_append,
      same]

theorem expandRecord_agreesOn {segment : SegmentWith σ} (answers : AnswersBy visible segment)
    (owners : Owners σ) (record : ParamRecord)
    (same : calls.filter visible = other.filter visible) :
    AgreesOn visible (expandRecord segment owners record calls)
      (expandRecord segment owners record other) := by
  obtain ⟨outcome, log, otherLog, first, second, sameLog⟩ :=
    (generate_agreesOn answers record same).exists_eq
  rw [expandRecord, expandRecord, first, second]
  cases outcome <;> exact ⟨rfl, sameLog⟩

theorem expandFurther_agreesOn {segment : SegmentWith σ} (answers : AnswersBy visible segment)
    (owners : Owners σ) (records : List ParamRecord)
    (same : calls.filter visible = other.filter visible) :
    AgreesOn visible (expandFurther segment owners records calls)
      (expandFurther segment owners records other) := by
  induction records generalizing calls other with
  | nil => exact ⟨rfl, same⟩
  | cons record rest ih =>
    obtain ⟨outcome, log, otherLog, first, second, sameLog⟩ :=
      (expandRecord_agreesOn answers owners record same).exists_eq
    obtain ⟨crashes, after, otherAfter, further, otherFurther, sameAfter⟩ := (ih sameLog).exists_eq
    rw [expandFurther, expandFurther, first, second]
    simp only [further, otherFurther]
    split <;> exact ⟨rfl, sameAfter⟩

theorem expandLevel_agreesOn {segment : SegmentWith σ} (answers : AnswersBy visible segment)
    (overrun : Nat → Nat) (owners : Owners σ) (records : List ParamRecord)
    (same : calls.filter visible = other.filter visible) :
    AgreesOn visible (expandLevel overrun segment owners records calls)
      (expandLevel overrun segment owners records other) := by
  induction records generalizing calls other with
  | nil => exact ⟨rfl, same⟩
  | cons record rest ih =>
    obtain ⟨outcome, log, otherLog, first, second, sameLog⟩ :=
      (expandRecord_agreesOn answers owners record same).exists_eq
    rw [expandLevel, expandLevel, first, second]
    cases outcome with
    | error raised =>
      obtain ⟨crashes, after, otherAfter, further, otherFurther, sameAfter⟩ :=
        (expandFurther_agreesOn answers owners (rest.take (overrun rest.length)) sameLog).exists_eq
      simp only [further, otherFurther]
      exact ⟨rfl, sameAfter⟩
    | ok children =>
      obtain ⟨outcome, after, otherAfter, first, second, sameAfter⟩ := (ih sameLog).exists_eq
      simp only [first, second]
      cases outcome <;> exact ⟨rfl, sameAfter⟩

/-- Behind logs that agree on what the generators can see, a chain is run alike. -/
theorem expandChain_agreesOn {chain : List (SegmentWith σ)}
    (answers : ∀ segment ∈ chain, AnswersBy visible segment) (overrun : Nat → Nat)
    (owners : Owners σ) (records : List ParamRecord)
    (same : calls.filter visible = other.filter visible) :
    AgreesOn visible (expandChain overrun owners chain records calls)
      (expandChain overrun owners chain records other) := by
  induction chain generalizing records calls other with
  | nil => exact ⟨rfl, same⟩
  | cons segment rest ih =>
    rw [List.forall_mem_cons] at answers
    rw [expandChain, expandChain]
    cases segment.generator with
    | none => exact ih answers.2 records same
    | some generator =>
      obtain ⟨outcome, log, otherLog, first, second, sameLog⟩ :=
        (expandLevel_agreesOn answers.1 overrun owners records same).exists_eq
      simp only [first, second]
      cases outcome with
      | error raised => exact ⟨rfl, sameLog⟩
      | ok children => exact ih answers.2 children sameLog

end Expansion

end Prerender
