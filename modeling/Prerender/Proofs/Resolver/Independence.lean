import Prerender.Proofs.Expansion.Admission
import Prerender.Proofs.Expansion.Enumeration
import Prerender.Proofs.Expansion.Visibility
import Prerender.Proofs.PagePaths.Ending
import Prerender.Proofs.Resolver.Resolution

/-!
# Resolving without a memory

If neither a loader nor the functions of the routes that it hands over answer by what was asked
before (`Loader.Memoryless`), then what a route is resolved to does not depend on what was resolved
before it (`Loader.resolve_fst`).
-/

namespace Prerender

/-- Two runs with the same outcome differ only in what they leave behind. -/
theorem exists_of_fst_eq {α β : Type} {first second : α × β} (same : first.1 = second.1) :
    ∃ outcome left right, first = (outcome, left) ∧ second = (outcome, right) :=
  ⟨first.1, first.2, second.2, rfl, Prod.ext same.symm rfl⟩

/-! ### Chains -/

namespace Expansion

variable {σ ρ : Type}

/-- A generator without a memory sees no calls. -/
theorem Memoryless.answersBy {segment : SegmentWith σ} (memoryless : Memoryless segment) :
    AnswersBy (fun _ => false) segment := by
  intro function called record calls
  rw [memoryless function called record calls, List.filter_false]

theorem expandChain_fst {overrun : Nat → Nat} {chain : List (SegmentWith σ)}
    (memoryless : ∀ segment ∈ chain, Memoryless segment) (owners : Owners σ)
    (records : List ParamRecord) (calls other : List Call) :
    (expandChain overrun owners chain records calls).1
      = (expandChain overrun owners chain records other).1 := by
  have same : calls.filter (fun _ => false) = other.filter fun _ => false := by
    rw [List.filter_false, List.filter_false]
  exact (expandChain_agreesOn (fun segment inChain => (memoryless segment inChain).answersBy)
    overrun owners records same).outcome

theorem expand_fst (tasks : TaskLibrary) {chain : List (SegmentWith σ)}
    (memoryless : ∀ segment ∈ chain, Memoryless segment) (policy : ExpansionPolicy ρ)
    (pathname : Option String) (fallbackShells : Bool) (concurrency : Value)
    (calls other : List Call) :
    (expand tasks chain policy pathname fallbackShells concurrency calls).1
      = (expand tasks chain policy pathname fallbackShells concurrency other).1 := by
  have alike : Alike chain chain := rfl
  rcases alike.expand_eq policy pathname fallbackShells concurrency with
    ⟨ended, early⟩ | ⟨-, late⟩
  · rw [(early calls).1, (early other).1]
  · rw [(late calls).1, (late other).1]
    exact concluded_fst _ _ _ _ (expandChain_fst memoryless _ _ calls other)

end Expansion

/-! ### Routes -/

/-- The path function of a page answers by the locales alone, whatever was called before. -/
def ListedPage.Memoryless (page : ListedPage) : Prop :=
  ∀ function, Exports.pathsFunction? page.module.exports = some function →
    ∀ locales calls, function.run calls (ListedPage.arguments locales)
      = function.run [] (ListedPage.arguments locales)

theorem ListedPage.staticPaths_fst {page : ListedPage} (memoryless : page.Memoryless)
    (locales : Locales) (calls other : List Call) :
    (page.staticPaths locales calls).1 = (page.staticPaths locales other).1 := by
  unfold ListedPage.staticPaths
  split
  · rfl
  · rfl
  · split
    · rfl
    · rfl
    · next function readable exported =>
      have answer := fun log => memoryless function exported locales log
      rw [ListedPage.arguments] at answer
      simp only [UserFunction.invoke, answer calls, answer other]

/-- No function that resolving a route calls answers by what was called before. -/
structure Route.Memoryless (route : Route) : Prop where
  generators : ∀ chain, route.chain = .ok chain →
    ∀ segment ∈ chain, Expansion.Memoryless segment
  listing : ∀ page, route = .listed page → page.Memoryless

theorem Route.Memoryless.resolve_fst {route : Route} (memoryless : route.Memoryless)
    (tasks : TaskLibrary) (config : ResolverConfig) (calls other : List Call) :
    (route.resolve tasks config calls).1 = (route.resolve tasks config other).1 := by
  rcases route.resolve_cases with
    ⟨chain, kind, routeId, hasChain⟩ | ⟨page, params, rfl, declared⟩ | ⟨raised, refused⟩
  · have same : (Route.expansion tasks config kind route.pathname chain calls).1
        = (Route.expansion tasks config kind route.pathname chain other).1 :=
      Expansion.expand_fst tasks (memoryless.generators chain hasChain.collected) _ _ _ _
        calls other
    rw [hasChain.resolve_eq, hasChain.resolve_eq, same]
  · rw [Route.resolve_listed, Route.resolve_listed, declared]
    exact congrArg (Except.map _)
      (ListedPage.staticPaths_fst (memoryless.listing page rfl) config.locales calls other)
  · rw [refused, refused]

/-! ### Loaders -/

namespace Loader

variable {σ : Type}

/-- A loader answers by the id alone, and so do the functions of the routes that it hands over by
their arguments. An error that is raised again once it was attributed to a route is another answer
than before. -/
structure Memoryless (loader : Loader σ) : Prop where
  loads : ∀ routeId state other, (loader.load routeId state).1 = (loader.load routeId other).1
  routes : ∀ routeId state route, (loader.load routeId state).1 = .ok route → route.Memoryless

/-- Two loads with the same outcome, of a route that is resolved alike behind either. -/
theorem resolve_fst_of_load_fst {loader : Loader σ} {tasks : TaskLibrary} {routeId : String}
    {config : ResolverConfig} {session other : Session σ}
    (loads : (loader.load routeId session.loader).1 = (loader.load routeId other.loader).1)
    (alike : ∀ route, (loader.load routeId session.loader).1 = .ok route →
      (route.resolve tasks config session.calls).1 = (route.resolve tasks config other.calls).1) :
    (loader.resolve tasks routeId config session).1
      = (loader.resolve tasks routeId config other).1 := by
  obtain ⟨loaded, _, _, first, second⟩ := exists_of_fst_eq loads
  cases loaded with
  | error raised => rw [resolve_of_load_error first, resolve_of_load_error second]
  | ok route =>
    rw [resolve_of_load_ok first, resolve_of_load_ok second]
    exact congrArg (Except.mapError _) (alike route (congrArg Prod.fst first))

/-- What a route is resolved to does not depend on what was resolved before. -/
theorem resolve_fst {loader : Loader σ} (memoryless : loader.Memoryless)
    (tasks : TaskLibrary) (routeId : String) (config : ResolverConfig) (session other : Session σ) :
    (loader.resolve tasks routeId config session).1
      = (loader.resolve tasks routeId config other).1 :=
  resolve_fst_of_load_fst (memoryless.loads routeId session.loader other.loader)
    fun route loaded =>
      (memoryless.routes routeId session.loader route loaded).resolve_fst tasks config
        session.calls other.calls

end Loader

end Prerender
