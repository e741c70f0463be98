import Prerender.Proofs.Resolver.Resolution

/-!
# Agreement of policy and static paths

The policy of a route and its static paths are computed apart: for a route with a chain by folding
and by expanding the chain, for a listed page by reading the policy off what it lists.
`resolve_agrees` says that the two halves of a resolved route agree all the same (`Agrees`), with
each other, with the parameters of the route, and with the settings.
-/

namespace Prerender

/-! ### Policies of a chain -/

namespace Policy

/-- Only a route without dynamic segments is rendered statically of its own accord. -/
theorem static_of_modeOf {chain : List Segment} (static : modeOf chain = .static) :
    ∀ segment ∈ chain, segment.isDynamic = false := by
  unfold modeOf at static
  simp only at static
  split at static
  · cases static
  · split at static
    · cases static
    · split at static
      · cases static
      next none =>
        intro segment inChain
        by_contra dynamic
        apply none
        rw [List.any_eq_true]
        exact ⟨segment, inChain, by simp [Bool.not_eq_false _ ▸ dynamic]⟩

end Policy

/-- Where every dynamic segment has a parameter, there are no parameters exactly if no segment is
dynamic. -/
theorem Expansion.paramsOf_eq_nil_iff {σ : Type} {chain : List (SegmentWith σ)}
    (named : ∀ segment ∈ chain, segment.isDynamic = true → segment.paramName?.isSome = true) :
    paramsOf chain = [] ↔ ∀ segment ∈ chain, segment.isDynamic = false := by
  rw [paramsOf, List.filterMap_eq_nil_iff]
  constructor
  · intro none segment inChain
    by_contra dynamic
    have isSome := named segment inChain (Bool.not_eq_false _ ▸ dynamic)
    rw [SegmentWith.paramName?, none segment inChain] at isSome
    cases isSome
  · intro static segment inChain
    by_contra some
    obtain ⟨param, carried⟩ := Option.ne_none_iff_exists'.mp some
    have dynamic := SegmentWith.isDynamic_of_paramName?
      (SegmentWith.paramName?_of_param? carried)
    rw [static segment inChain] at dynamic
    cases dynamic

/-! ### Agreement -/

namespace Route

/-- The kind of a route, if it has one. -/
def kind? : Route → Option RouteKind
  | .handler _ => some .handler
  | .page _ => some .page
  | .listed _ => some .listed
  | .unknown .. => none

/-- The dynamic parameters of a route: those of the pathname of a listed page, and those of the
chain of any other one. -/
def params (route : Route) : Except Raised (List SegmentParam) :=
  match route with
  | .listed target => target.params.mapError .failure
  | .handler _ | .page _ | .unknown .. => route.chain.map Expansion.paramsOf

theorem HasChain.kind?_eq {chain : List Segment} {route : Route} {kind : RouteKind}
    {routeId : String} (hasChain : HasChain chain route kind routeId) :
    route.kind? = some kind := by
  cases hasChain with
  | handler _ => rfl
  | page _ => rfl

theorem HasChain.params_eq {chain : List Segment} {route : Route} {kind : RouteKind}
    {routeId : String} (hasChain : HasChain chain route kind routeId) :
    route.params = .ok (Expansion.paramsOf chain) := by
  cases hasChain with
  | handler collected =>
    rw [params, collected]
    rfl
  | page collected =>
    rw [params, collected]
    rfl

theorem params_listed {page : ListedPage} {params : List SegmentParam}
    (declared : page.params = .ok params) : (Route.listed page).params = .ok params := by
  rw [Route.params, declared]
  rfl

end Route

/-- The policy of a resolved route and its static paths agree, where the route has the given
parameters and was resolved under the given settings. -/
structure ResolvedRoute.Agrees (resolved : ResolvedRoute) (config : ResolverConfig)
    (params : List SegmentParam) : Prop where
  /-- Other parameters are not found exactly if there are none or if the policy forbids them. -/
  notFound : resolved.staticPaths.fallback = .notFound
    ↔ params = [] ∨ resolved.policy.dynamicParams = false
  /-- Of pages and handlers, exactly pages that are prerendered in part have shells, if the settings
  turn them on and there are other parameters to serve. -/
  shell : resolved.kind ≠ .listed →
    (resolved.staticPaths.fallback = .shell
      ↔ resolved.kind = .page ∧ resolved.policy.pprEligible = true
        ∧ config.pprFallbacks.isTruthy = true ∧ params ≠ []
        ∧ resolved.policy.dynamicParams = true)
  eligible : resolved.kind ≠ .page → resolved.policy.pprEligible = false
  static : resolved.policy.mode = .static →
    params = [] ∧ resolved.staticPaths.paths = [] ∧ resolved.staticPaths.fallback = .notFound
  onRequest : resolved.policy.mode = .forceDynamic → resolved.staticPaths.paths = []
  revalidate : resolved.staticPaths.revalidate = resolved.policy.revalidate
  beside : resolved.staticPaths.paths.length = resolved.staticPaths.pathnames.length

namespace Route

/-- Folding a chain and expanding it lead to one view of the route. -/
theorem HasChain.agrees {chain : List Segment} {route : Route} {kind : RouteKind} {routeId : String}
    (hasChain : HasChain chain route kind routeId) {tasks : TaskLibrary}
    {config : ResolverConfig} {calls log : List Call} {staticPaths : StaticPaths Revalidate}
    (expanded : expansion tasks config kind route.pathname chain calls = (.ok staticPaths, log)) :
    ResolvedRoute.Agrees
      { routeId, kind, policy := config.policyFor kind chain, staticPaths } config
      (Expansion.paramsOf chain) := by
  have unparameterized :=
    Expansion.paramsOf_eq_nil_iff (Route.named_of_chain hasChain.collected)
  have eligible : kind ≠ .page → (config.policyFor kind chain).pprEligible = false := by
    intro other
    rw [ResolverConfig.policyFor, ResolverConfig.pprFor, if_neg other]
    rfl
  obtain ⟨revalidate, result⟩ := Expansion.result_cases expanded
  rcases result with ⟨static, notFound, noPaths, noPathnames⟩
    | ⟨dynamic, fallback, noRequest, beside⟩
  · have none := unparameterized.mpr static
    constructor
    case notFound => exact iff_of_true notFound (Or.inl none)
    case shell =>
      intro _
      refine iff_of_false ?_ fun shells => shells.2.2.2.1 none
      rw [notFound]
      decide
    case eligible => exact eligible
    case static => exact fun _ => ⟨none, noPaths, notFound⟩
    case onRequest => exact fun _ => noPaths
    case revalidate => exact revalidate
    case beside =>
      rw [noPaths, noPathnames]
      rfl
  · have some : Expansion.paramsOf chain ≠ [] := by
      rw [Ne, unparameterized]
      obtain ⟨segment, inChain, isDynamic⟩ := dynamic
      intro static
      rw [static segment inChain] at isDynamic
      cases isDynamic
    constructor
    case notFound =>
      simp only [fallback, Expansion.fallbackOf_eq_notFound_iff, some, false_or]
      rfl
    case shell =>
      intro _
      simp only [fallback, Expansion.fallbackOf_eq_shell_iff, ResolverConfig.servesShells,
        Bool.and_eq_true, decide_eq_true_eq]
      constructor
      · rintro ⟨served, ⟨isPage, eligible⟩, shells⟩
        exact ⟨isPage, eligible, shells, some, served⟩
      · rintro ⟨isPage, eligible, shells, -, served⟩
        exact ⟨served, ⟨isPage, eligible⟩, shells⟩
    case eligible => exact eligible
    case static =>
      intro static
      exact absurd (unparameterized.mpr (Policy.static_of_modeOf static)) some
    case onRequest => exact noRequest
    case revalidate => exact revalidate
    case beside => exact beside

/-- A listed page has the policy that is read off what it lists. -/
theorem agrees_of_listing {page : ListedPage} {params : List SegmentParam}
    (declared : page.params = .ok params) {config : ResolverConfig} {calls log : List Call}
    {staticPaths : StaticPaths Revalidate}
    (listed : page.staticPaths config.locales calls = (.ok staticPaths, log)) :
    (ofListing page params staticPaths).Agrees config params := by
  have ends := page.staticPaths_ends config.locales calls
  rw [listed] at ends
  have unlisted : params = [] → staticPaths = { revalidate := .never } := by
    rintro rfl
    cases ends with
    | static _ => rfl
    | onRequest other dynamic _ _ =>
      exact absurd (Except.ok.inj (other.symm.trans declared)) dynamic
    | listed answers _ _ =>
      exact absurd (Except.ok.inj (answers.declared.symm.trans declared)) answers.dynamic
  have onRequest : (ofListing page params staticPaths).policy.mode ≠ .forceDynamic := by
    simp only [ofListing, Policy.ofListing]
    split <;> decide
  constructor
  case notFound =>
    by_cases none : params = []
    · exact iff_of_true (by rw [unlisted none]; rfl) (Or.inl none)
    · simp [ofListing, Policy.ofListing, none]
  case shell => exact fun other => absurd rfl other
  case eligible => exact fun _ => rfl
  case static =>
    intro static
    have none : params = [] := by
      by_contra some
      simp [ofListing, Policy.ofListing, some] at static
    rw [unlisted none]
    exact ⟨none, rfl, rfl⟩
  case onRequest => exact fun demanded => absurd demanded onRequest
  case revalidate => cases ends <;> rfl
  case beside =>
    cases ends with
    | static _ => rfl
    | onRequest _ _ _ _ => rfl
    | listed _ _ _ => simp only [ofListing, List.length_map]

end Route

/-- Whatever a route is resolved to has the kind of the route, and its policy and static paths agree
with each other and with the parameters of the route. -/
theorem Route.resolve_agrees {route : Route} {tasks : TaskLibrary} {config : ResolverConfig}
    {calls log : List Call} {resolved : ResolvedRoute}
    (ran : route.resolve tasks config calls = (.ok resolved, log)) :
    route.kind? = some resolved.kind
      ∧ ∃ params, route.params = .ok params ∧ resolved.Agrees config params := by
  rcases route.resolve_cases with
    ⟨chain, kind, routeId, hasChain⟩ | ⟨page, params, rfl, declared⟩ | ⟨raised, refused⟩
  · rw [hasChain.resolve_eq] at ran
    obtain ⟨staticPaths, expanded, rfl⟩ := Except.map_eq_ok_iff.mp (congrArg Prod.fst ran)
    exact ⟨hasChain.kind?_eq, _, hasChain.params_eq, hasChain.agrees (Prod.ext expanded rfl)⟩
  · rw [resolve_listed, declared] at ran
    obtain ⟨staticPaths, listed, rfl⟩ := Except.map_eq_ok_iff.mp (congrArg Prod.fst ran)
    exact ⟨rfl, params, params_listed declared, agrees_of_listing declared (Prod.ext listed rfl)⟩
  · rw [refused] at ran
    cases ran

theorem Route.resolve_agrees_shell :
    let layout : LoadedModule :=
      { path := some "app/[slug]/layout.py"
        exports := .moduleObject
          [(generatorName, .function "slugs" fun _ _ => .ok (.list
              [.mapping [(.text "slug", .text "a b")]])),
            ("experimental_ppr", .bool true)] }
    let leaf : TreeNode := ⟨pageSegment, none, none, []⟩
    let slug : TreeNode := ⟨"[slug]", some layout, none, [(primaryBranch, leaf)]⟩
    let route := Route.page ⟨"/[slug]", "/[slug]", ⟨"", none, none, [(primaryBranch, slug)]⟩⟩
    let config : ResolverConfig := { ResolverConfig.default with ppr := .incremental }
    ∃ resolved log, route.resolve .standard config [] = (.ok resolved, log)
      ∧ resolved.staticPaths.fallback = .shell ∧ resolved.staticPaths.pathnames = ["/a%20b"]
      ∧ route.kind? = some resolved.kind
      ∧ ∃ params, route.params = .ok params ∧ resolved.Agrees config params := by
  intro layout leaf slug route config
  have ran : route.resolve .standard config []
      = (.ok
          { routeId := "/[slug]", kind := .page
            policy := { mode := .dynamic, pprEligible := true }
            staticPaths :=
              { paths := [[("slug", .text "a b")]], fallback := .shell, revalidate := .never
                pathnames := ["/a%20b"] } },
          [⟨"slugs", .params []⟩]) := by
    decide +kernel
  exact ⟨_, _, ran, rfl, rfl, Route.resolve_agrees ran⟩

end Prerender
