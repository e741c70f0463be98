import Prerender.Proofs.PagePaths.Ending
import Prerender.Proofs.Expansion.Paths
import Prerender.Proofs.Route.Chain
import Prerender.Resolver.Manifest

/-!
# What resolving a route comes down to

A route that has a chain is resolved by one expansion of that chain (`Route.expansion`), under the
policy of the chain; a listed page by its listing; any other route is refused. `Route.resolve_cases`
says that these are all ways. A loader's route is resolved in the same way, with whatever is
reported attributed to it (`Loader.resolve_of_load_ok`).
-/

namespace Prerender

/-! ### Routes with a chain -/

/-- How far partial prerendering goes for a kind of route: it is for pages only. -/
def ResolverConfig.pprFor (config : ResolverConfig) (kind : RouteKind) : PprMode :=
  if kind = .page then config.ppr.mode else .off

/-- The policy of a route of some kind with a chain. -/
def ResolverConfig.policyFor (config : ResolverConfig) (kind : RouteKind) (chain : List Segment) :
    Policy :=
  Policy.ofChain (config.pprFor kind) chain

/-- Whether a route of some kind with a chain has fallback shells. -/
def ResolverConfig.servesShells (config : ResolverConfig) (kind : RouteKind)
    (chain : List Segment) : Bool :=
  kind = .page && (config.policyFor kind chain).pprEligible && config.pprFallbacks.isTruthy

namespace Route

/-- The expansion that a route of some kind with a chain and a pathname is resolved by. -/
def expansion (tasks : TaskLibrary) (config : ResolverConfig) (kind : RouteKind) (pathname : String)
    (chain : List Segment) (calls : List Call) :
    Except Raised (StaticPaths Revalidate) × List Call :=
  expand tasks chain (config.policyFor kind chain).forExpansion (some pathname)
    (config.servesShells kind chain) (.number (.int config.concurrency)) calls

/-- A route of some kind has a chain and goes by some id. -/
inductive HasChain (chain : List Segment) : Route → RouteKind → String → Prop where
  | handler {target : Handler} (collected : (Route.handler target).chain = .ok chain) :
    HasChain chain (.handler target) .handler target.routeId
  | page {target : Page} (collected : (Route.page target).chain = .ok chain) :
    HasChain chain (.page target) .page target.routeId

theorem HasChain.collected {chain : List Segment} {route : Route} {kind : RouteKind}
    {routeId : String} (hasChain : HasChain chain route kind routeId) :
    route.chain = .ok chain := by
  cases hasChain with
  | handler collected => exact collected
  | page collected => exact collected

/-- A route has one chain and one kind. -/
theorem HasChain.unique {chain other : List Segment} {route : Route} {kind otherKind : RouteKind}
    {routeId otherId : String} (hasChain : HasChain chain route kind routeId)
    (hasOther : HasChain other route otherKind otherId) : chain = other ∧ kind = otherKind := by
  refine ⟨Except.ok.inj (hasChain.collected.symm.trans hasOther.collected), ?_⟩
  cases hasChain with
  | handler _ =>
    cases hasOther
    rfl
  | page _ =>
    cases hasOther
    rfl

theorem HasChain.resolve_eq {chain : List Segment} {route : Route} {kind : RouteKind}
    {routeId : String} (hasChain : HasChain chain route kind routeId) (tasks : TaskLibrary)
    (config : ResolverConfig) (calls : List Call) :
    route.resolve tasks config calls
      = ((expansion tasks config kind route.pathname chain calls).1.map fun staticPaths =>
            { routeId, kind, policy := config.policyFor kind chain, staticPaths },
          (expansion tasks config kind route.pathname chain calls).2) := by
  cases hasChain with
  | handler collected =>
    rw [resolve, collected]
    rfl
  | page collected =>
    rw [resolve, collected]
    rfl

/-! ### Listed pages -/

/-- What a listed page is resolved to, given what it lists. -/
def ofListing (page : ListedPage) (params : List SegmentParam)
    (staticPaths : StaticPaths Revalidate) : ResolvedRoute :=
  { routeId := page.routeId, kind := .listed
    policy := Policy.ofListing (!params.isEmpty) staticPaths.fallback, staticPaths }

theorem resolve_listed (page : ListedPage) (tasks : TaskLibrary) (config : ResolverConfig)
    (calls : List Call) :
    (Route.listed page).resolve tasks config calls
      = match page.params with
        | .error failure => (.error (.failure failure), calls)
        | .ok params =>
          ((page.staticPaths config.locales calls).1.map (ofListing page params),
            (page.staticPaths config.locales calls).2) := by
  rw [resolve, resolveListed]
  cases declared : page.params with
  | error failure =>
    rw [ListedPage.staticPaths, declared]
    rfl
  | ok params =>
    obtain ⟨raised | staticPaths, log⟩ := page.staticPaths config.locales calls
    · rfl
    · rfl

/-! ### All routes -/

/-- A route has a chain and is resolved by expanding it, or lists its paths, or has neither and is
refused before any call. -/
theorem resolve_cases (route : Route) :
    (∃ chain kind routeId, HasChain chain route kind routeId)
      ∨ (∃ page params, route = .listed page ∧ page.params = .ok params)
      ∨ ∃ raised, ∀ tasks config calls,
          route.resolve tasks config calls = (.error raised, calls) := by
  cases route with
  | handler target =>
    cases collected : (Route.handler target).chain with
    | ok chain => exact Or.inl ⟨chain, _, _, .handler collected⟩
    | error raised =>
      refine Or.inr (Or.inr ⟨raised, fun tasks config calls => ?_⟩)
      rw [resolve, collected]
      rfl
  | page target =>
    cases collected : (Route.page target).chain with
    | ok chain => exact Or.inl ⟨chain, _, _, .page collected⟩
    | error raised =>
      refine Or.inr (Or.inr ⟨raised, fun tasks config calls => ?_⟩)
      rw [resolve, collected]
      rfl
  | listed page =>
    cases declared : page.params with
    | ok params => exact Or.inr (Or.inl ⟨page, params, rfl, declared⟩)
    | error failure =>
      refine Or.inr (Or.inr ⟨.failure failure, fun tasks config calls => ?_⟩)
      rw [resolve_listed, declared]
  | unknown pathname object => exact Or.inr (Or.inr ⟨_, fun _ _ _ => rfl⟩)

end Route

/-! ### Loading -/

namespace Loader

variable {σ : Type} {loader : Loader σ} {routeId : String} {session : Session σ}

theorem resolve_of_load_error {raised : Raised} {state : σ}
    (refused : loader.load routeId session.loader = (.error raised, state))
    (tasks : TaskLibrary) (config : ResolverConfig) :
    loader.resolve tasks routeId config session
      = (.error (attributed routeId (raisedAs routeId raised)), ⟨state, session.calls⟩) := by
  rw [resolve, refused]

theorem resolve_of_load_ok {route : Route} {state : σ}
    (loaded : loader.load routeId session.loader = (.ok route, state)) (tasks : TaskLibrary)
    (config : ResolverConfig) :
    loader.resolve tasks routeId config session
      = ((route.resolve tasks config session.calls).1.mapError (attributed routeId),
          ⟨state, (route.resolve tasks config session.calls).2⟩) := by
  rw [resolve, loaded]

end Loader

end Prerender
