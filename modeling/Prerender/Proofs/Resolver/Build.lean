import Prerender.Resolver.Manifest

/-!
# Builds, one route after the other

A build resolves its routes in turn (`Loader.visits`, `Loader.outcomes`) and files each outcome in
the manifest (`Manifest.file`). It gets to the end exactly if no visit lets an exception out
(`manifestFrom_isOk_iff`).
-/

namespace Prerender

/-! ### Outcomes -/

/-- What comes of resolving a route, if no exception gets out. -/
abbrev Outcome := Except Failure ResolvedRoute

/-- An outcome as what was raised or returned. -/
def Outcome.raised (outcome : Outcome) : Except Raised ResolvedRoute :=
  outcome.mapError .failure

/-- Either an exception gets out or there is an outcome. -/
theorem Outcome.cases (result : Except Raised ResolvedRoute) :
    (∃ outcome : Outcome, result = outcome.raised) ∨ ∃ crash, result = .error (.crash crash) := by
  rcases result with (report | crash) | resolved
  · exact Or.inl ⟨.error report, rfl⟩
  · exact Or.inr ⟨crash, rfl⟩
  · exact Or.inl ⟨.ok resolved, rfl⟩

theorem Outcome.raised_ne_crash (outcome : Outcome) (crash : Crash) :
    outcome.raised ≠ .error (.crash crash) := by
  cases outcome <;> rintro ⟨⟩

/-- The reported error among results. -/
def reported? {α : Type} : Except Raised α → Option Failure
  | .error (.failure report) => some report
  | .error (.crash _) => none
  | .ok _ => none

theorem reported?_eq_some_iff {α : Type} {result : Except Raised α} {report : Failure} :
    reported? result = some report ↔ result = .error (.failure report) := by
  rcases result with (failure | crash) | value <;> simp [reported?]

theorem toOption_eq_some_iff {ε α : Type} {result : Except ε α} {value : α} :
    result.toOption = some value ↔ result = .ok value := by
  cases result <;> simp [Except.toOption]

/-- A manifest with the outcome of a route under its id. -/
def Manifest.file (manifest : Manifest) (routeId : String) : Outcome → Manifest
  | .ok resolved => { manifest with routes := manifest.routes.assign routeId resolved }
  | .error report => { manifest with errors := manifest.errors.assign routeId report }

namespace Loader

variable {σ : Type}

/-! ### Visits -/

/-- The routes that a build resolves, each with the session that it is resolved behind. -/
def visits (loader : Loader σ) (tasks : TaskLibrary) (config : ResolverConfig) :
    List String → Session σ → List (String × Session σ)
  | [], _ => []
  | routeId :: rest, session =>
    (routeId, session)
      :: loader.visits tasks config rest (loader.resolve tasks routeId config session).2

theorem map_fst_visits (loader : Loader σ) (tasks : TaskLibrary) (config : ResolverConfig)
    (routeIds : List String) (session : Session σ) :
    (loader.visits tasks config routeIds session).map (·.1) = routeIds := by
  induction routeIds generalizing session with
  | nil => rfl
  | cons routeId rest ih => rw [visits, List.map_cons, ih]

/-- What comes of resolving routes in turn, each with its id. -/
def outcomes (loader : Loader σ) (tasks : TaskLibrary) (config : ResolverConfig)
    (routeIds : List String) (session : Session σ) : List (String × Except Raised ResolvedRoute) :=
  (loader.visits tasks config routeIds session).map fun visit =>
    (visit.1, (loader.resolve tasks visit.1 config visit.2).1)

theorem outcomes_nil (loader : Loader σ) (tasks : TaskLibrary) (config : ResolverConfig)
    (session : Session σ) : loader.outcomes tasks config [] session = [] := rfl

theorem outcomes_cons (loader : Loader σ) (tasks : TaskLibrary) (config : ResolverConfig)
    (routeId : String) (rest : List String) (session : Session σ) :
    loader.outcomes tasks config (routeId :: rest) session
      = (routeId, (loader.resolve tasks routeId config session).1)
        :: loader.outcomes tasks config rest (loader.resolve tasks routeId config session).2 := rfl

theorem map_fst_outcomes (loader : Loader σ) (tasks : TaskLibrary) (config : ResolverConfig)
    (routeIds : List String) (session : Session σ) :
    (loader.outcomes tasks config routeIds session).map (·.1) = routeIds := by
  rw [outcomes, List.map_map]
  exact loader.map_fst_visits tasks config routeIds session

theorem outcomes_eq_map {loader : Loader σ} {tasks : TaskLibrary} {config : ResolverConfig}
    {result : String → Except Raised ResolvedRoute} {routeIds : List String} {session : Session σ}
    (settled : ∀ visit ∈ loader.visits tasks config routeIds session,
      (loader.resolve tasks visit.1 config visit.2).1 = result visit.1) :
    loader.outcomes tasks config routeIds session
      = routeIds.map fun routeId => (routeId, result routeId) :=
  calc
    loader.outcomes tasks config routeIds session
      = (loader.visits tasks config routeIds session).map fun visit => (visit.1, result visit.1) :=
        List.map_congr_left fun visit isVisit => by rw [settled visit isVisit]
    _ = ((loader.visits tasks config routeIds session).map (·.1)).map
          fun routeId => (routeId, result routeId) := by rw [List.map_map]; rfl
    _ = routeIds.map fun routeId => (routeId, result routeId) := by rw [map_fst_visits]

theorem manifestFrom_cons_of_outcome {loader : Loader σ} {tasks : TaskLibrary}
    {config : ResolverConfig}
    {manifest : Manifest} {routeId : String} {rest : List String} {session : Session σ}
    {outcome : Outcome}
    (resolved : (loader.resolve tasks routeId config session).1 = outcome.raised) :
    loader.manifestFrom tasks config manifest (routeId :: rest) session
      = loader.manifestFrom tasks config (manifest.file routeId outcome) rest
          (loader.resolve tasks routeId config session).2 := by
  rw [manifestFrom]
  generalize loader.resolve tasks routeId config session = run at resolved ⊢
  obtain ⟨result, after⟩ := run
  cases resolved
  cases outcome <;> rfl

theorem manifestFrom_cons_of_crash {loader : Loader σ} {tasks : TaskLibrary}
    {config : ResolverConfig}
    {manifest : Manifest} {routeId : String} {rest : List String} {session : Session σ}
    {crash : Crash}
    (crashed : (loader.resolve tasks routeId config session).1 = .error (.crash crash)) :
    (loader.manifestFrom tasks config manifest (routeId :: rest) session).1 = .error crash := by
  rw [manifestFrom]
  generalize loader.resolve tasks routeId config session = run at crashed ⊢
  obtain ⟨result, after⟩ := run
  cases crashed
  rfl

/-- A build gets to the end exactly if none of its visits lets an exception out. -/
theorem manifestFrom_isOk_iff {loader : Loader σ} {tasks : TaskLibrary} {config : ResolverConfig}
    {manifest : Manifest} {routeIds : List String} {session : Session σ} :
    (∃ last, (loader.manifestFrom tasks config manifest routeIds session).1 = .ok last)
      ↔ ∀ visit ∈ loader.visits tasks config routeIds session, ∀ crash,
          (loader.resolve tasks visit.1 config visit.2).1 ≠ .error (.crash crash) := by
  induction routeIds generalizing manifest session with
  | nil => exact iff_of_true ⟨manifest, rfl⟩ fun _ member => absurd member List.not_mem_nil
  | cons routeId rest ih =>
    rw [visits, List.forall_mem_cons]
    rcases Outcome.cases (loader.resolve tasks routeId config session).1 with
      ⟨outcome, resolved⟩ | ⟨crash, crashed⟩
    · rw [manifestFrom_cons_of_outcome resolved, ih, resolved]
      exact (and_iff_right outcome.raised_ne_crash).symm
    · rw [manifestFrom_cons_of_crash crashed]
      exact iff_of_false (by rintro ⟨_, ⟨⟩⟩) fun none => none.1 crash crashed

/-! ### What a loader keeps -/

/-- Resolving a route leaves the loader as loading it does. -/
theorem resolve_snd_loader (loader : Loader σ) (tasks : TaskLibrary) (routeId : String)
    (config : ResolverConfig) (session : Session σ) :
    (loader.resolve tasks routeId config session).2.loader
      = (loader.load routeId session.loader).2 := by
  rw [resolve]
  generalize loader.load routeId session.loader = answer
  obtain ⟨raised | route, state⟩ := answer
  · rfl
  · rfl

/-- A property of the loader's state that loading keeps holds at every visit. -/
theorem forall_mem_visits {loader : Loader σ} {tasks : TaskLibrary} {config : ResolverConfig}
    {P : σ → Prop}
    (kept : ∀ routeId state, P state → P (loader.load routeId state).2) {routeIds : List String}
    {session : Session σ} (holds : P session.loader) :
    ∀ visit ∈ loader.visits tasks config routeIds session, P visit.2.loader := by
  induction routeIds generalizing session with
  | nil => exact fun _ member => absurd member List.not_mem_nil
  | cons routeId rest ih =>
    rw [visits, List.forall_mem_cons]
    refine ⟨holds, ih ?_⟩
    rw [resolve_snd_loader]
    exact kept routeId session.loader holds

end Loader

end Prerender
