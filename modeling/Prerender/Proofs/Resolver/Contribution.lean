import Prerender.Proofs.Expansion.Padding
import Prerender.Proofs.Resolver.Resolution

/-!
# Segments that do not contribute

The chain of a route leaves out the segments that do not matter to static generation. Since these
pad it only (`Padded`), a route is resolved as it would be by all of its segments
(`Route.resolve_eq_resolveInFull`).

`structural_segments_unseen` says the same of every chain, and that structural segments may be put
in anywhere.
-/

namespace Prerender

/-! ### Routes -/

namespace Route

/-- All segments that the steps of a route give, also those that do not matter to static
generation. -/
def segments : Route → Except Raised (List Segment)
  | .handler route => do
    let steps ← route.steps.mapError .failure
    steps.mapM (RouteStep.segment route.routeId)
  | .page route => route.root.primarySteps.mapM (RouteStep.segment route.routeId)
  | .listed _ => .error (.failure (.structural (.noSegmentChain "PagesRoute")))
  | .unknown _ object => .error (.failure (.structural (.noSegmentChain object.typeName)))

/-- Resolves a route by all of its segments. -/
def resolveInFull (route : Route) (tasks : TaskLibrary) (config : ResolverConfig)
    (calls : List Call) : Except Raised ResolvedRoute × List Call :=
  match route with
  | .handler target =>
    resolveChain tasks .handler target.routeId target.pathname route.segments config calls
  | .page target =>
    resolveChain tasks .page target.routeId target.pathname route.segments config calls
  | .listed _ => route.resolve tasks config calls
  | .unknown .. => route.resolve tasks config calls

/-- The chain of a route is what is left of all of its segments. -/
theorem chain_eq_map_segments (route : Route) :
    route.chain = route.segments.map (·.filter (·.contributes)) := by
  have collected (routeId : String) (steps : List RouteStep) :
      RouteStep.chain routeId steps
        = (steps.mapM (RouteStep.segment routeId)).map (·.filter (·.contributes)) := by
    rw [RouteStep.chain]
    cases steps.mapM (RouteStep.segment routeId) <;> rfl
  cases route with
  | handler target =>
    rw [chain, segments]
    cases target.steps with
    | error failure => rfl
    | ok steps => exact collected target.routeId steps
  | page target => exact collected target.routeId target.root.primarySteps
  | listed page => rfl
  | unknown pathname object => rfl

theorem resolveChain_filter_contributes (tasks : TaskLibrary) (kind : RouteKind)
    (routeId pathname : String)
    (segments : Except Raised (List Segment)) (config : ResolverConfig) (calls : List Call) :
    resolveChain tasks kind routeId pathname (segments.map (·.filter (·.contributes))) config calls
      = resolveChain tasks kind routeId pathname segments config calls := by
  cases segments with
  | error failure => rfl
  | ok segments =>
    have padding := padded_filter_contributes segments
    rw [Except.map, resolveChain, resolveChain]
    simp only [padding.policy_eq, padding.expand_eq]

/-- Leaving out what does not matter to static generation changes no route. -/
theorem resolve_eq_resolveInFull (route : Route) (tasks : TaskLibrary) (config : ResolverConfig)
    (calls : List Call) :
    route.resolve tasks config calls = route.resolveInFull tasks config calls := by
  cases route with
  | handler target =>
    rw [resolve, chain_eq_map_segments, resolveChain_filter_contributes]
    rfl
  | page target =>
    rw [resolve, chain_eq_map_segments, resolveChain_filter_contributes]
    rfl
  | listed page => rfl
  | unknown pathname object => rfl

end Route

/-- Structural segments are invisible. A chain has the policy, whether its settings were checked or
not, and the expansion, with its error or result and with its calls, that it has once they are left
out; a route is resolved as by all of its segments; structural segments may be put in anywhere. -/
theorem structural_segments_unseen :
    (∀ (ppr : PprMode) (chain : List Segment),
        Policy.ofChain ppr (chain.filter (·.contributes)) = Policy.ofChain ppr chain)
      ∧ (∀ (ppr : PprMode) (chain : List UncheckedSegment),
          UncheckedPolicy.ofChain ppr (chain.filter (·.contributes))
            = UncheckedPolicy.ofChain ppr chain)
      ∧ (∀ (σ ρ : Type) (tasks : TaskLibrary) (chain : List (SegmentWith σ))
          (policy : ExpansionPolicy ρ) (pathname : Option String) (fallbackShells : Bool)
          (concurrency : Value) (calls : List Call),
          expand tasks (chain.filter (·.contributes)) policy pathname fallbackShells concurrency
              calls
            = expand tasks chain policy pathname fallbackShells concurrency calls)
      ∧ (∀ (route : Route) (tasks : TaskLibrary) (config : ResolverConfig) (calls : List Call),
          route.resolve tasks config calls = route.resolveInFull tasks config calls)
      ∧ (∀ (ppr : PprMode) (chain padded : List Segment), Padded chain padded →
          Policy.ofChain ppr padded = Policy.ofChain ppr chain)
      ∧ (∀ (ppr : PprMode) (chain padded : List UncheckedSegment), Padded chain padded →
          UncheckedPolicy.ofChain ppr padded = UncheckedPolicy.ofChain ppr chain)
      ∧ ∀ (σ ρ : Type) (tasks : TaskLibrary) (chain padded : List (SegmentWith σ)),
          Padded chain padded →
          ∀ (policy : ExpansionPolicy ρ) (pathname : Option String) (fallbackShells : Bool)
            (concurrency : Value) (calls : List Call),
            expand tasks padded policy pathname fallbackShells concurrency calls
              = expand tasks chain policy pathname fallbackShells concurrency calls := by
  refine ⟨?_, ?_, ?_, Route.resolve_eq_resolveInFull, ?_, ?_, ?_⟩
  · intro ppr chain
    exact ((padded_filter_contributes chain).policy_eq ppr).symm
  · intro ppr chain
    exact ((padded_filter_contributes chain).uncheckedPolicy_eq ppr).symm
  · intro σ ρ tasks chain policy pathname fallbackShells concurrency calls
    exact ((padded_filter_contributes chain).expand_eq tasks policy pathname fallbackShells
      concurrency calls).symm
  · intro ppr chain padded padding
    exact padding.policy_eq ppr
  · intro ppr chain padded padding
    exact padding.uncheckedPolicy_eq ppr
  · intro σ ρ tasks chain padded padding policy pathname fallbackShells concurrency calls
    exact padding.expand_eq tasks policy pathname fallbackShells concurrency calls

theorem structural_segments_unseen_groups :
    let slugs : UserFunction :=
      ⟨"slugs", fun _ _ => .ok (.list [.mapping [(.text "slug", .text "a")]])⟩
    let structural (name : String) : Segment := { name }
    let checked : List Segment :=
      [ { name := "[slug]", role := .dynamic (some ⟨"slug", .single⟩),
          generator := some (.callable slugs) },
        { name := "page", config := some { dynamicParams := some false } } ]
    let padded : List Segment :=
      [structural "", structural "blog"] ++ checked.take 1 ++ [structural "(posts)"]
        ++ checked.drop 1
    let unchecked (segment : Segment) : UncheckedSegment := segment.uncheck
    Padded checked padded
      ∧ Policy.ofChain .on padded
        = { mode := .dynamic, pprEligible := true, dynamicParams := false }
      ∧ UncheckedPolicy.ofChain .on (padded.map unchecked)
        = UncheckedPolicy.ofChain .on (checked.map unchecked)
      ∧ expand .standard padded (Policy.ofChain .on padded).forExpansion (some "/blog/[slug]") true
          (.number (.int 8)) []
        = (.ok
            { paths := [[("slug", .text "a")]], fallback := .notFound, revalidate := .never,
              pathnames := ["/blog/a"] },
          [⟨"slugs", .params []⟩]) := by
  intro slugs structural checked padded unchecked
  obtain ⟨-, -, -, -, policyEq, uncheckedEq, expandEq⟩ := structural_segments_unseen
  have padding : Padded checked padded :=
    .insert ⟨rfl, rfl, rfl⟩ (.insert ⟨rfl, rfl, rfl⟩
      (.keep _ (.insert ⟨rfl, rfl, rfl⟩ (.keep _ .nil))))
  have uncheckedPadding : Padded (checked.map unchecked) (padded.map unchecked) :=
    .insert ⟨rfl, rfl, rfl⟩ (.insert ⟨rfl, rfl, rfl⟩
      (.keep _ (.insert ⟨rfl, rfl, rfl⟩ (.keep _ .nil))))
  refine ⟨padding, ?_, uncheckedEq .on _ _ uncheckedPadding, ?_⟩
  · rw [policyEq .on _ _ padding]
    decide +kernel
  · rw [expandEq _ _ _ _ _ padding, policyEq .on _ _ padding]
    decide +kernel

end Prerender
