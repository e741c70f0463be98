import Mathlib.Data.List.Nodup
import Prerender.Files.Modules

/-!
# What the steps of a loader keep

`Loading.Keeps` says of a step that it keeps an invariant of what the loader remembers, also where
it raises, and that what it returns has a property. Steps in sequence keep what each of them keeps
(`Keeps.bind`, `Keeps.mapM`, `Keeps.foldlM`). Loading a module changes nothing of what was
discovered (`Keeps.module`).

`ModuleCache.Ending` lists the ways in which loading a module ends.
-/

namespace Prerender

namespace ModuleCache

/-! ### Modules -/

theorem mem_of_exports? {cache : ModuleCache} {file : TreePath} {exports : Value}
    (remembered : cache.exports? file = some exports) : (file, exports) ∈ cache.modules := by
  obtain ⟨⟨other, value⟩, found, rfl⟩ := Option.map_eq_some_iff.mp remembered
  obtain rfl : other = file := by simpa using List.find?_some found
  exact List.mem_of_find?_eq_some found

theorem exports?_eq_none_iff {cache : ModuleCache} {file : TreePath} :
    cache.exports? file = none ↔ file ∉ cache.modules.map (·.1) := by
  rw [exports?, Option.map_eq_none_iff, List.find?_eq_none, List.mem_map]
  constructor
  · rintro none ⟨kept, member, same⟩
    exact none kept member (decide_eq_true same)
  · intro unkept kept member same
    exact unkept ⟨kept, member, of_decide_eq_true same⟩

/-- No file being kept twice, what is kept of a file is what is found of it. -/
theorem exports?_of_mem {cache : ModuleCache} (distinct : (cache.modules.map (·.1)).Nodup)
    {file : TreePath} {exports : Value} (member : (file, exports) ∈ cache.modules) :
    cache.exports? file = some exports := by
  cases found : cache.exports? file with
  | none => exact absurd (List.mem_map_of_mem member) (exports?_eq_none_iff.mp found)
  | some other =>
    have same := List.inj_on_of_nodup_map distinct (mem_of_exports? found) member rfl
    cases same
    rfl

/-- What is raised where executing a file raised: a failure, if the text of the exception can be
had. -/
def importRaised (root : String) (file : TreePath) (raised : Raised) : Raised :=
  raised.reportedAs fun note =>
    .structural (.importFailed (file.shown root) note.type note.text) (some note)

/-- How loading a module ends, and the modules that it leaves. -/
inductive Ending (root : String) (here : Place) (file : TreePath) (cache : ModuleCache) :
    Except Raised (Option LoadedModule) × ModuleCache → Prop where
  /-- There is no file. -/
  | absent (noFile : ∀ source, here.find file ≠ .present (.file source)) :
    Ending root here file cache (.ok none, cache)
  /-- The file was executed before, with success. -/
  | kept {source : ModuleSource} {exports : Value}
      (stands : here.find file = .present (.file source))
      (remembered : cache.exports? file = some exports) :
    Ending root here file cache (.ok (some ⟨some (file.shown root), exports⟩), cache)
  | executed {source : ModuleSource} (stands : here.find file = .present (.file source))
      (new : cache.exports? file = none) (fine : source.raised = none) :
    Ending root here file cache
      (.ok (some ⟨some (file.shown root), .moduleObject source.exports⟩),
        ⟨cache.modules ++ [(file, .moduleObject source.exports)], cache.executed ++ [file]⟩)
  | raised {source : ModuleSource} {raised : Raised}
      (stands : here.find file = .present (.file source))
      (new : cache.exports? file = none) (raises : source.raised = some raised) :
    Ending root here file cache
      (.error (importRaised root file raised), ⟨cache.modules, cache.executed ++ [file]⟩)

theorem load_ending (root : String) (here : Place) (file : TreePath) (cache : ModuleCache) :
    Ending root here file cache (load root here file cache) := by
  unfold load
  split
  · next source stands =>
    simp only
    split
    · next exports remembered => exact .kept stands remembered
    · next new =>
      split
      · next raised raises => exact .raised stands new raises
      · next fine => exact .executed stands new fine
  · next noFile => exact .absent noFile

end ModuleCache

/-! ### Steps -/

namespace Loading

variable {α β γ : Type}

/-- A step keeps an invariant, and what it returns has a property. -/
def Keeps (I : LoaderState α → Prop) (Q : β → Prop) (step : Loading α β) : Prop :=
  ∀ state, I state →
    I (step.outcome state).2 ∧ ∀ value, (step.outcome state).1 = .ok value → Q value

variable {I : LoaderState α → Prop} {Q : β → Prop} {R : γ → Prop}

theorem Keeps.pure {value : β} (holds : Q value) : Keeps I Q (Pure.pure value) := by
  intro state invariant
  refine ⟨invariant, ?_⟩
  intro _ returned
  cases returned
  exact holds

theorem Keeps.throw (raised : Raised) : Keeps I Q (MonadExcept.throw raised : Loading α β) := by
  intro state invariant
  exact ⟨invariant, by rintro _ ⟨⟩⟩

theorem Keeps.imp {step : Loading α β} {Q' : β → Prop} (kept : Keeps I Q step)
    (weaker : ∀ value, Q value → Q' value) : Keeps I Q' step := by
  intro state invariant
  obtain ⟨still, returned⟩ := kept state invariant
  exact ⟨still, fun value ok => weaker value (returned value ok)⟩

theorem outcome_bind (step : Loading α β) (next : β → Loading α γ) (state : LoaderState α) :
    (step >>= next).outcome state
      = match step.outcome state with
        | (.ok value, between) => (next value).outcome between
        | (.error raised, between) => (.error raised, between) := by
  unfold outcome
  rw [ExceptT.run_bind, StateT.run_bind]
  generalize step.run.run state = first
  obtain ⟨raised | value, between⟩ := first
  · rfl
  · rfl

theorem Keeps.bind {step : Loading α β} {next : β → Loading α γ} (first : Keeps I Q step)
    (later : ∀ value, Q value → Keeps I R (next value)) : Keeps I R (step >>= next) := by
  intro state invariant
  obtain ⟨kept, returned⟩ := first state invariant
  rw [outcome_bind]
  generalize step.outcome state = run at kept returned ⊢
  obtain ⟨raised | value, between⟩ := run
  · exact ⟨kept, by rintro _ ⟨⟩⟩
  · exact later value (returned value rfl) between kept

/-- The same step for every item. -/
theorem Keeps.mapM {step : γ → Loading α β} (each : ∀ item, Keeps I Q (step item))
    (items : List γ) : Keeps I (fun _ => True) (items.mapM step) := by
  induction items with
  | nil =>
    rw [List.mapM_nil]
    exact .pure trivial
  | cons item rest ih =>
    rw [List.mapM_cons]
    exact (each item).bind fun _ _ => ih.bind fun _ _ => .pure trivial

/-- A step that changes a value with every item: a property of the value and of the items that are
still to come. -/
theorem Keeps.foldlM {step : β → γ → Loading α β} {P : β → List γ → Prop}
    (each : ∀ value item rest, P value (item :: rest) →
      Keeps I (fun next => P next rest) (step value item))
    {items : List γ} {start : β} (holds : P start items) :
    Keeps I (fun last => P last []) (items.foldlM step start) := by
  induction items generalizing start with
  | nil => exact .pure holds
  | cons item rest ih =>
    rw [List.foldlM_cons]
    exact (each start item rest holds).bind fun next behind => ih behind

@[simp] theorem outcome_get (state : LoaderState α) :
    (get : Loading α (LoaderState α)).outcome state = (.ok state, state) := rfl

@[simp] theorem outcome_set (next state : LoaderState α) :
    (set next : Loading α Unit).outcome state = (.ok (), next) := rfl

/-- Loading a module changes the modules that are remembered and nothing else. -/
theorem outcome_module (root : String) (here : Place) (file : TreePath) (state : LoaderState α) :
    (module root here file).outcome state
      = ((state.modules.load root here file).1,
          { state with modules := (state.modules.load root here file).2 }) := by
  rw [module, outcome_bind, outcome_get]
  simp only
  generalize state.modules.load root here file = run
  obtain ⟨raised | loaded, modules⟩ := run <;> rfl

/-- Discovery happens once: what it found is remembered. -/
theorem outcome_discovered (discover : Except Raised (Bindings α)) (state : LoaderState α) :
    (discovered discover).outcome state
      = match state.found, discover with
        | some found, _ => (.ok found, state)
        | none, .ok found => (.ok found, { state with found := some found })
        | none, .error raised => (.error raised, state) := by
  rw [discovered, outcome_bind, outcome_get]
  simp only
  cases state.found with
  | some found => rfl
  | none => cases discover <;> rfl

section Found

variable {J : Bindings α → Prop}

/-- What was discovered, if anything was, has a property. -/
def Found (J : Bindings α → Prop) (state : LoaderState α) : Prop :=
  ∀ found, state.found = some found → J found

theorem Keeps.module (root : String) (here : Place) (file : TreePath) :
    Keeps (Found J) (fun _ => True) (Loading.module root here file) := by
  intro state invariant
  rw [outcome_module]
  exact ⟨invariant, fun _ _ => trivial⟩

theorem Keeps.discovered {discover : Except Raised (Bindings α)}
    (holds : ∀ found, discover = .ok found → J found) :
    Keeps (Found J) J (Loading.discovered discover) := by
  intro state invariant
  rw [outcome_discovered]
  cases remembered : state.found with
  | some found =>
    refine ⟨invariant, ?_⟩
    rintro _ ⟨⟩
    exact invariant found remembered
  | none =>
    cases discover with
    | error raised => exact ⟨invariant, by rintro _ ⟨⟩⟩
    | ok found =>
      have new : J found := holds found rfl
      refine ⟨?_, ?_⟩
      · rintro _ ⟨⟩
        exact new
      · rintro _ ⟨⟩
        exact new

end Found

end Loading

end Prerender
