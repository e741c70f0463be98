import Mathlib.Data.List.Forall2

/-!
# Steps that may fail

When a sequence of steps succeeds, and with what: steps one behind the other
(`bind_eq_ok_iff`), the same step for every item of a list (`mapM_eq_ok_iff`), and a step that
changes a state with every item (`foldlM_preserves`). What fails, fails at one of its steps
(`bind_eq_error_iff`, `exists_of_foldlM_eq_error`), so the failures of a sequence of steps are like
those of the steps (`FailsWith`). Two steps may end alike whatever their failures are (`Alike`).
-/

namespace Prerender

variable {ε α β γ : Type}

theorem Except.bind_eq_ok_iff {step : Except ε α} {next : α → Except ε β} {result : β} :
    step >>= next = .ok result ↔ ∃ value, step = .ok value ∧ next value = .ok result := by
  cases step with
  | error failure =>
    constructor
    · intro ok
      cases ok
    · rintro ⟨_, ok, _⟩
      cases ok
  | ok value =>
    constructor
    · intro ok
      exact ⟨value, rfl, ok⟩
    · rintro ⟨_, same, ok⟩
      cases same
      exact ok

/-- Two steps fail if the first one does, or if that succeeds and the second one fails. -/
theorem Except.bind_eq_error_iff {step : Except ε α} {next : α → Except ε β} {failure : ε} :
    step >>= next = .error failure
      ↔ step = .error failure ∨ ∃ value, step = .ok value ∧ next value = .error failure := by
  cases step with
  | error first =>
    constructor
    · intro failed
      cases failed
      exact Or.inl rfl
    · rintro (failed | ⟨_, ⟨⟩, _⟩)
      cases failed
      rfl
  | ok value =>
    constructor
    · intro failed
      exact Or.inr ⟨value, rfl, failed⟩
    · rintro (⟨⟨⟩⟩ | ⟨_, same, failed⟩)
      cases same
      exact failed

theorem Except.map_eq_ok_iff {step : Except ε α} {f : α → β} {result : β} :
    step.map f = .ok result ↔ ∃ value, step = .ok value ∧ f value = result := by
  cases step with
  | error failure =>
    constructor
    · intro ok
      cases ok
    · rintro ⟨_, ok, _⟩
      cases ok
  | ok value =>
    constructor
    · intro ok
      exact ⟨value, rfl, Except.ok.inj ok⟩
    · rintro ⟨_, same, rfl⟩
      cases same
      rfl

theorem Except.map_eq_error_iff {step : Except ε α} {f : α → β} {failure : ε} :
    step.map f = .error failure ↔ step = .error failure := by
  cases step with
  | error first => exact ⟨fun failed => by cases failed; rfl, fun failed => by cases failed; rfl⟩
  | ok value => exact iff_of_false (by rintro ⟨⟩) (by rintro ⟨⟩)

/-- Steps with the same image fail alike, or they both succeed. -/
theorem Except.map_eq_map_cases {f : α → β} {step other : Except ε α}
    (same : step.map f = other.map f) :
    (∃ failure, step = .error failure ∧ other = .error failure)
      ∨ ∃ value otherValue, step = .ok value ∧ other = .ok otherValue ∧ f value = f otherValue := by
  cases step with
  | error failure => exact Or.inl ⟨failure, rfl, Except.map_eq_error_iff.mp same.symm⟩
  | ok value =>
    obtain ⟨otherValue, ok, image⟩ := Except.map_eq_ok_iff.mp same.symm
    exact Or.inr ⟨value, otherValue, rfl, ok, image.symm⟩

theorem Except.mapError_eq_ok_iff {δ : Type} {step : Except ε α} {f : ε → δ} {result : α} :
    step.mapError f = .ok result ↔ step = .ok result := by
  cases step with
  | error first => exact iff_of_false (by rintro ⟨⟩) (by rintro ⟨⟩)
  | ok value => exact ⟨fun ok => by cases ok; rfl, fun ok => by cases ok; rfl⟩

/-- The same step for every item succeeds if it does for each of them. -/
theorem Except.mapM_eq_ok_iff {step : α → Except ε β} {items : List α} {results : List β} :
    items.mapM step = .ok results
      ↔ List.Forall₂ (fun item result => step item = .ok result) items results := by
  induction items generalizing results with
  | nil =>
    rw [List.mapM_nil, List.forall₂_nil_left_iff]
    exact ⟨fun ok => (Except.ok.inj ok).symm, fun same => same ▸ rfl⟩
  | cons item rest ih =>
    rw [List.mapM_cons, Except.bind_eq_ok_iff, List.forall₂_cons_left_iff]
    constructor
    · rintro ⟨first, here, ok⟩
      obtain ⟨others, behind, same⟩ := Except.bind_eq_ok_iff.mp ok
      cases same
      exact ⟨first, others, here, ih.mp behind, rfl⟩
    · rintro ⟨first, others, here, behind, rfl⟩
      exact ⟨first, here, Except.bind_eq_ok_iff.mpr ⟨others, ih.mpr behind, rfl⟩⟩

/-- The same step for every item fails with the failure of the first item that it fails for. -/
theorem Except.mapM_eq_error_iff {step : α → Except ε β} {items : List α} {failure : ε} :
    items.mapM step = .error failure
      ↔ ∃ before item after, items = before ++ item :: after
        ∧ (∀ earlier ∈ before, ∃ result, step earlier = .ok result)
        ∧ step item = .error failure := by
  induction items with
  | nil =>
    refine iff_of_false (by rintro ⟨⟩) ?_
    rintro ⟨before, item, after, split, -⟩
    cases before <;> cases split
  | cons item rest ih =>
    rw [List.mapM_cons, Except.bind_eq_error_iff]
    constructor
    · rintro (here | ⟨first, here, failed⟩)
      · exact ⟨[], item, rest, rfl, fun _ member => absurd member List.not_mem_nil, here⟩
      · rcases Except.bind_eq_error_iff.mp failed with behind | ⟨_, _, ⟨⟩⟩
        obtain ⟨before, other, after, rfl, fine, there⟩ := ih.mp behind
        exact ⟨item :: before, other, after, rfl,
          List.forall_mem_cons.mpr ⟨⟨first, here⟩, fine⟩, there⟩
    · rintro ⟨before, other, after, split, fine, there⟩
      cases before with
      | nil =>
        cases split
        exact Or.inl there
      | cons _ before =>
        cases split
        obtain ⟨⟨first, here⟩, fine⟩ := List.forall_mem_cons.mp fine
        have behind := ih.mpr ⟨before, other, after, rfl, fine, there⟩
        exact Or.inr ⟨first, here, Except.bind_eq_error_iff.mpr (Or.inl behind)⟩

/-- A failure is that of one of the steps. -/
theorem Except.exists_mem_of_mapM_eq_error {step : α → Except ε β} {items : List α} {failure : ε}
    (failed : items.mapM step = .error failure) : ∃ item ∈ items, step item = .error failure := by
  obtain ⟨before, item, after, rfl, -, here⟩ := Except.mapM_eq_error_iff.mp failed
  exact ⟨item, by simp, here⟩

/-- Relations that agree on the items relate them to the same results. -/
theorem forall₂_congr_of_mem {R S : α → β → Prop} {items : List α} {results : List β}
    (same : ∀ item ∈ items, ∀ result, R item result ↔ S item result) :
    List.Forall₂ R items results ↔ List.Forall₂ S items results := by
  induction items generalizing results with
  | nil => rw [List.forall₂_nil_left_iff, List.forall₂_nil_left_iff]
  | cons item rest ih =>
    rw [List.forall_mem_cons] at same
    simp only [List.forall₂_cons_left_iff, same.1, ih same.2]

/-- Each result comes from one of the items. -/
theorem exists_mem_of_forall₂ {R : α → β → Prop} {items : List α} {results : List β}
    (each : List.Forall₂ R items results) {result : β} (member : result ∈ results) :
    ∃ item ∈ items, R item result := by
  induction each with
  | nil => cases member
  | cons here _ ih =>
    rcases List.mem_cons.mp member with rfl | later
    · exact ⟨_, List.mem_cons_self, here⟩
    · obtain ⟨item, inItems, there⟩ := ih later
      exact ⟨item, List.mem_cons_of_mem _ inItems, there⟩

/-- Related items have related results. -/
theorem exists_forall₂_of_forall₂ {δ : Type} {R : α → β → Prop} {G : α → γ → Prop}
    {H : β → δ → Prop} {S : γ → δ → Prop} {items : List α} {others : List β} {results : List γ}
    (related : List.Forall₂ R items others) (each : List.Forall₂ G items results)
    (step : ∀ item other result, R item other → G item result →
      ∃ otherResult, H other otherResult ∧ S result otherResult) :
    ∃ otherResults, List.Forall₂ H others otherResults ∧ List.Forall₂ S results otherResults := by
  induction related generalizing results with
  | nil =>
    cases each
    exact ⟨[], .nil, .nil⟩
  | cons here _ ih =>
    cases each with
    | cons gives behind =>
      obtain ⟨first, givesOther, same⟩ := step _ _ _ here gives
      obtain ⟨rest, later, sameLater⟩ := ih behind
      exact ⟨first :: rest, .cons givesOther later, .cons same sameLater⟩

/-- What each step keeps, all of them keep. -/
theorem Except.foldlM_preserves {P : β → Prop} {step : β → α → Except ε β} {items : List α}
    {start last : β} (kept : ∀ state item next, P state → step state item = .ok next → P next)
    (holds : P start) (ok : items.foldlM step start = .ok last) : P last := by
  induction items generalizing start with
  | nil => exact Except.ok.inj ok ▸ holds
  | cons item rest ih =>
    rw [List.foldlM_cons] at ok
    obtain ⟨next, here, behind⟩ := Except.bind_eq_ok_iff.mp ok
    exact ih (kept start item next holds here) behind

/-- Steps that change a state fail at one of the items, behind others that succeed. -/
theorem Except.exists_of_foldlM_eq_error {step : β → α → Except ε β} {items : List α} {start : β}
    {failure : ε} (failed : items.foldlM step start = .error failure) :
    ∃ before item after state, items = before ++ item :: after
      ∧ before.foldlM step start = .ok state ∧ step state item = .error failure := by
  induction items generalizing start with
  | nil => cases failed
  | cons item rest ih =>
    rw [List.foldlM_cons] at failed
    rcases Except.bind_eq_error_iff.mp failed with here | ⟨next, here, failed⟩
    · exact ⟨[], item, rest, start, rfl, rfl, here⟩
    · obtain ⟨before, other, after, state, split, behind, there⟩ := ih failed
      refine ⟨item :: before, other, after, state, ?_, ?_, there⟩
      · rw [split, List.cons_append]
      · rw [List.foldlM_cons]
        exact Except.bind_eq_ok_iff.mpr ⟨next, here, behind⟩

/-- If a step fails, the failure has a property. -/
def Except.FailsWith (P : ε → Prop) (step : Except ε α) : Prop :=
  ∀ failure, step = .error failure → P failure

namespace Except.FailsWith

variable {P : ε → Prop}

theorem ok (value : α) : FailsWith P (.ok value) := by
  rintro _ ⟨⟩

theorem error {failure : ε} (holds : P failure) :
    FailsWith P (.error failure : Except ε α) := by
  rintro _ ⟨⟩
  exact holds

theorem mono {Q : ε → Prop} {step : Except ε α} (fails : FailsWith P step)
    (weaken : ∀ failure, P failure → Q failure) : FailsWith Q step :=
  fun failure failed => weaken failure (fails failure failed)

theorem bind_of_ok {step : Except ε α} {next : α → Except ε β} (first : FailsWith P step)
    (later : ∀ value, step = .ok value → FailsWith P (next value)) :
    FailsWith P (step >>= next) := by
  intro failure failed
  rcases Except.bind_eq_error_iff.mp failed with here | ⟨value, ok, there⟩
  · exact first failure here
  · exact later value ok failure there

theorem bind {step : Except ε α} {next : α → Except ε β} (first : FailsWith P step)
    (later : ∀ value, FailsWith P (next value)) : FailsWith P (step >>= next) :=
  first.bind_of_ok fun value _ => later value

theorem map {step : Except ε α} (first : FailsWith P step) (f : α → β) :
    FailsWith P (step.map f) :=
  fun failure failed => first failure (Except.map_eq_error_iff.mp failed)

theorem mapM {step : α → Except ε β} (each : ∀ item, FailsWith P (step item)) (items : List α) :
    FailsWith P (items.mapM step) := by
  intro failure failed
  obtain ⟨item, -, here⟩ := Except.exists_mem_of_mapM_eq_error failed
  exact each item failure here

theorem foldlM {step : β → α → Except ε β} (each : ∀ state item, FailsWith P (step state item))
    (items : List α) (start : β) : FailsWith P (items.foldlM step start) := by
  intro failure failed
  obtain ⟨_, item, _, state, -, -, here⟩ := Except.exists_of_foldlM_eq_error failed
  exact each state item failure here

end Except.FailsWith

/-! ### Steps that end alike -/

/-- Two steps both fail, or both succeed with results that are related. -/
inductive Except.Alike {δ : Type} (R : α → β → Prop) : Except ε α → Except δ β → Prop where
  | failed (failure : ε) (other : δ) : Alike R (.error failure) (.error other)
  | succeeded {result : α} {other : β} (related : R result other) : Alike R (.ok result) (.ok other)

namespace Except.Alike

variable {δ : Type} {R : α → β → Prop}

theorem refl {R : α → α → Prop} {step : Except ε α}
    (each : ∀ result, step = .ok result → R result result) : Alike R step step := by
  cases step with
  | error failure => exact .failed failure failure
  | ok result => exact .succeeded (each result rfl)

/-- Steps end alike if each of them succeeds where the other one does. -/
theorem of_ok {step : Except ε α} {other : Except δ β}
    (forth : ∀ result, step = .ok result → ∃ otherResult, other = .ok otherResult
      ∧ R result otherResult)
    (back : ∀ otherResult, other = .ok otherResult → ∃ result, step = .ok result) :
    Alike R step other := by
  cases step with
  | ok result =>
    obtain ⟨otherResult, rfl, related⟩ := forth result rfl
    exact .succeeded related
  | error failure =>
    cases other with
    | error otherFailure => exact .failed failure otherFailure
    | ok otherResult =>
      obtain ⟨_, ⟨⟩⟩ := back otherResult rfl

/-- What becomes of the failures of two steps does not matter. -/
theorem mapError {κ μ : Type} {step : Except ε α} {other : Except δ β} (alike : Alike R step other)
    (f : ε → κ) (g : δ → μ) : Alike R (step.mapError f) (other.mapError g) := by
  cases alike with
  | failed failure otherFailure => exact .failed (f failure) (g otherFailure)
  | succeeded related => exact .succeeded related

/-- Runs with a log that end alike both fail, or both have results that are related. -/
theorem run_cases {ι κ : Type} {run : Except ε α × ι} {other : Except δ β × κ}
    (alike : Alike R run.1 other.1) :
    (∃ failure log otherFailure otherLog,
        run = (.error failure, log) ∧ other = (.error otherFailure, otherLog))
      ∨ ∃ result log otherResult otherLog, run = (.ok result, log)
        ∧ other = (.ok otherResult, otherLog) ∧ R result otherResult := by
  obtain ⟨outcome, log⟩ := run
  obtain ⟨otherOutcome, otherLog⟩ := other
  cases alike with
  | failed failure otherFailure => exact Or.inl ⟨failure, log, otherFailure, otherLog, rfl, rfl⟩
  | succeeded related => exact Or.inr ⟨_, log, _, otherLog, rfl, rfl, related⟩

end Except.Alike

end Prerender
