import Prerender.Proofs.Resolver.Resolution
import Prerender.Proofs.Value.Equality

/-!
# Settings that are equal

Two settings of the resolver are equal if their fields are (`ResolverConfig.Equal`), where a truth
value equals the number that it counts as. A route is resolved alike under equal settings, except
for one pair of them: the flag for partial prerendering may be the truth value false in one and the
number zero in the other, and only the truth value turns it off (`PprSetting.mode_eq_iff`). Then the
two results differ exactly for the pages that can be resolved and do not opt out
(`Route.resolve_eq_iff_of_equal`).
-/

namespace Prerender

open Expansion

/-! ### The flag -/

namespace PprSetting

/-- Of two flags one is the truth value false and the other one a number. -/
def Discerned (flag other : PprSetting) : Prop :=
  (flag = .flag false ∧ ∃ number, other = .number number)
    ∨ (∃ number, flag = .number number) ∧ other = .flag false

/-- Flags that are equal mean the same unless one is the truth value false and the other one a
number. -/
theorem mode_eq_iff {flag other : PprSetting} (same : Value.Same flag.toValue other.toValue) :
    flag.mode = other.mode ↔ ¬flag.Discerned other := by
  constructor
  · rintro means (⟨rfl, number, rfl⟩ | ⟨⟨number, rfl⟩, rfl⟩) <;> cases means
  · intro alike
    rcases flag with value | _ | number <;> rcases other with otherValue | _ | otherNumber
    · rw [same.bool_eq]
    · cases same.text_right
    · cases value with
      | false => exact absurd (Or.inl ⟨rfl, otherNumber, rfl⟩) alike
      | true => rfl
    · cases same.text_left
    · rfl
    · cases same.text_left
    · cases otherValue with
      | false => exact absurd (Or.inr ⟨⟨number, rfl⟩, rfl⟩) alike
      | true => rfl
    · cases same.text_right
    · rfl

end PprSetting

/-! ### Settings -/

/-- Two settings of the resolver are equal field by field. -/
structure ResolverConfig.Equal (config other : ResolverConfig) : Prop where
  ppr : Value.Same config.ppr.toValue other.ppr.toValue
  pprFallbacks : Value.Same config.pprFallbacks other.pprFallbacks
  concurrency : config.concurrency = other.concurrency
  locales : config.locales = other.locales

variable {config other : ResolverConfig}

/-- Under equal settings that give a route one policy it has shells under both or under none. -/
theorem ResolverConfig.Equal.servesShells_eq (equal : config.Equal other) {kind : RouteKind}
    {chain : List Segment} (policies : config.policyFor kind chain = other.policyFor kind chain) :
    config.servesShells kind chain = other.servesShells kind chain := by
  rw [servesShells, servesShells, policies, equal.pprFallbacks.isTruthy_eq]

/-- Equal settings of one mode give a route one policy. -/
theorem ResolverConfig.policyFor_eq_of_mode (means : config.ppr.mode = other.ppr.mode)
    (kind : RouteKind) (chain : List Segment) :
    config.policyFor kind chain = other.policyFor kind chain := by
  rw [policyFor, policyFor, pprFor, pprFor, means]

/-- The expansion of a chain does not see of a policy whether pages are prerendered in part. -/
theorem ResolverConfig.forExpansion_policyFor (config other : ResolverConfig) (kind : RouteKind)
    (chain : List Segment) :
    (config.policyFor kind chain).forExpansion = (other.policyFor kind chain).forExpansion :=
  rfl

/-! ### Expansions with and without shells -/

/-- Whether shells can be served shows in the fallback of an expansion alone. -/
theorem expand_shells_cases {σ ρ : Type} (tasks : TaskLibrary) (chain : List (SegmentWith σ))
    (policy : ExpansionPolicy ρ) (pathname : Option String) (concurrency : Value)
    (calls : List Call) (shells others : Bool) :
    expand tasks chain policy pathname shells concurrency calls
        = expand tasks chain policy pathname others concurrency calls
      ∨ ∃ result other log,
          expand tasks chain policy pathname shells concurrency calls = (.ok result, log)
            ∧ expand tasks chain policy pathname others concurrency calls = (.ok other, log) := by
  -- The flag is read where a result is put together, so the endings without one are the same.
  unfold expand
  simp only
  split
  · exact Or.inl rfl
  · split
    · exact Or.inl rfl
    · split
      · exact Or.inr ⟨_, _, _, rfl, rfl⟩
      · split
        · exact Or.inl rfl
        · split
          · exact Or.inl rfl
          · split
            · exact Or.inl rfl
            · exact Or.inr ⟨_, _, _, rfl, rfl⟩

/-! ### Routes -/

namespace Route

variable {chain : List Segment} {route : Route} {kind : RouteKind} {routeId : String}

/-- A route with a chain is resolved alike under equal settings that give it one policy. -/
theorem HasChain.resolve_eq_of_policy (hasChain : HasChain chain route kind routeId)
    (equal : config.Equal other)
    (policies : config.policyFor kind chain = other.policyFor kind chain) (tasks : TaskLibrary)
    (calls : List Call) : route.resolve tasks config calls = route.resolve tasks other calls := by
  have expansions : expansion tasks config kind route.pathname chain calls
      = expansion tasks other kind route.pathname chain calls := by
    rw [expansion, expansion, equal.servesShells_eq policies, policies, equal.concurrency]
  rw [hasChain.resolve_eq, hasChain.resolve_eq, expansions, policies]

/-- Settings that give a route different policies either fail it alike or show the difference in
what they resolve it to. -/
theorem HasChain.resolve_eq_iff_of_policy_ne (hasChain : HasChain chain route kind routeId)
    (concurrency : config.concurrency = other.concurrency)
    (policies : config.policyFor kind chain ≠ other.policyFor kind chain) (tasks : TaskLibrary)
    (calls : List Call) :
    route.resolve tasks config calls = route.resolve tasks other calls
      ↔ ∀ resolved, (route.resolve tasks config calls).1 ≠ .ok resolved := by
  have differ : ∀ {result otherResult : ResolvedRoute} {log otherLog : List Call},
      result.policy = config.policyFor kind chain →
      otherResult.policy = other.policyFor kind chain →
        ((Except.ok result, log) : Except Raised ResolvedRoute × List Call)
          ≠ (.ok otherResult, otherLog) := by
    intro result otherResult log otherLog ofConfig ofOther same
    obtain rfl : result = otherResult := Except.ok.inj (congrArg Prod.fst same)
    exact policies (ofConfig.symm.trans ofOther)
  rw [hasChain.resolve_eq, hasChain.resolve_eq, expansion, expansion,
    ResolverConfig.forExpansion_policyFor config other, concurrency]
  obtain alike | ⟨result, otherResult, log, here, there⟩ := expand_shells_cases tasks chain
    (other.policyFor kind chain).forExpansion (some route.pathname)
    (.number (.int other.concurrency)) calls (config.servesShells kind chain)
    (other.servesShells kind chain)
  · rw [alike]
    cases (expand tasks chain (other.policyFor kind chain).forExpansion (some route.pathname)
        (other.servesShells kind chain) (.number (.int other.concurrency)) calls).1 with
    | error raised => exact iff_of_true rfl fun _ resolves => nomatch resolves
    | ok staticPaths => exact iff_of_false (differ rfl rfl) fun never => never _ rfl
  · rw [here, there]
    exact iff_of_false (differ rfl rfl) fun never => never _ rfl

/-- Where flags that are equal differ in what they mean, the policies that they give a page differ
unless the page opts out of partial prerendering. -/
theorem policyFor_page_eq_iff (means : config.ppr.Discerned other.ppr) (chain : List Segment) :
    config.policyFor .page chain = other.policyFor .page chain
      ↔ false ∈ Policy.declaredIn (·.experimentalPpr) chain := by
  have eligible : ∀ {off on : ResolverConfig}, off.ppr.mode = .off → on.ppr.mode = .on →
      (off.policyFor .page chain = on.policyFor .page chain
        ↔ false ∈ Policy.declaredIn (·.experimentalPpr) chain) := by
    intro off on isOff isOn
    simp [ResolverConfig.policyFor, ResolverConfig.pprFor, isOff, isOn, Policy.ofChain,
      Policy.pprEligibleOf]
  obtain ⟨isOff, number, isOn⟩ | ⟨⟨number, isOn⟩, isOff⟩ := means
  · exact eligible (congrArg PprSetting.mode isOff) (congrArg PprSetting.mode isOn)
  · rw [eq_comm]
    exact eligible (congrArg PprSetting.mode isOff) (congrArg PprSetting.mode isOn)

/-- Equal settings that give a route with a chain different policies have flags that differ in what
they mean, and the route is a page. -/
theorem HasChain.discerned_of_policy_ne (hasChain : HasChain chain route kind routeId)
    (equal : config.Equal other)
    (policies : config.policyFor kind chain ≠ other.policyFor kind chain) :
    config.ppr.Discerned other.ppr ∧ ∃ page, route = .page page ∧ kind = .page := by
  cases hasChain with
  | handler _ => exact absurd rfl policies
  | page _ =>
    refine ⟨?_, _, rfl, rfl⟩
    by_contra alike
    exact policies (ResolverConfig.policyFor_eq_of_mode
      ((PprSetting.mode_eq_iff equal.ppr).mpr alike) _ _)

theorem resolve_listed_eq_of_locales (locales : config.locales = other.locales) (page : ListedPage)
    (tasks : TaskLibrary) (calls : List Call) :
    (Route.listed page).resolve tasks config calls
      = (Route.listed page).resolve tasks other calls := by
  rw [resolve_listed, resolve_listed, locales]

/-- Equal settings resolve a route alike, whatever was called before, unless they write "off" for
partial prerendering as false and as zero: then the zero turns it on, and the results differ for the
pages that are resolved and do not opt out. -/
theorem resolve_eq_iff_of_equal (equal : config.Equal other) (route : Route) (tasks : TaskLibrary)
    (calls : List Call) :
    route.resolve tasks config calls = route.resolve tasks other calls
      ↔ ¬(config.ppr.Discerned other.ppr
          ∧ ∃ page chain resolved, route = .page page ∧ route.chain = .ok chain
            ∧ false ∉ Policy.declaredIn (·.experimentalPpr) chain
            ∧ (route.resolve tasks config calls).1 = .ok resolved) := by
  obtain ⟨chain, kind, routeId, hasChain⟩ | ⟨listed, params, rfl, -⟩ | ⟨raised, refused⟩ :=
    resolve_cases route
  · by_cases policies : config.policyFor kind chain = other.policyFor kind chain
    · refine iff_of_true (hasChain.resolve_eq_of_policy equal policies tasks calls) ?_
      rintro ⟨means, page, otherChain, resolved, rfl, collected, staysIn, -⟩
      obtain ⟨rfl, rfl⟩ := hasChain.unique (.page collected)
      exact staysIn ((policyFor_page_eq_iff means chain).mp policies)
    · obtain ⟨means, page, rfl, rfl⟩ := hasChain.discerned_of_policy_ne equal policies
      have staysIn := mt (policyFor_page_eq_iff means chain).mpr policies
      rw [hasChain.resolve_eq_iff_of_policy_ne equal.concurrency policies]
      constructor
      · rintro never ⟨-, -, -, resolved, -, -, -, resolves⟩
        exact never resolved resolves
      · intro alike resolved resolves
        exact alike ⟨means, page, chain, resolved, rfl, hasChain.collected, staysIn, resolves⟩
  · refine iff_of_true (resolve_listed_eq_of_locales equal.locales listed tasks calls) ?_
    rintro ⟨-, page, -, -, isPage, -⟩
    cases isPage
  · refine iff_of_true ((refused tasks config calls).trans (refused tasks other calls).symm) ?_
    rintro ⟨-, page, chain, resolved, -, -, -, resolves⟩
    rw [refused] at resolves
    cases resolves

/-- One and true are the same setting, also for a page that does not opt in. -/
theorem resolve_eq_iff_of_equal_one :
    let flagged : ResolverConfig := { ResolverConfig.default with ppr := .flag true }
    let one : ResolverConfig := { ResolverConfig.default with ppr := .number (.int 1) }
    let page : Page :=
      ⟨"/", "/", ⟨"", none, none, [(primaryBranch, ⟨pageSegment, none, none, []⟩)]⟩⟩
    flagged.Equal one
      ∧ (Route.page page).resolve .standard flagged [] = (Route.page page).resolve .standard one []
      ∧ ((Route.page page).resolve .standard one []).1.map (·.policy.pprEligible) = .ok true := by
  intro flagged one page
  have equal : flagged.Equal one := ⟨.numeric rfl rfl rfl, .refl _, rfl, rfl⟩
  refine ⟨equal, (resolve_eq_iff_of_equal equal (.page page) .standard []).mpr ?_,
    by decide +kernel⟩
  rintro ⟨⟨isFalse, -⟩ | ⟨⟨number, isNumber⟩, -⟩, -⟩
  · cases isFalse
  · cases isNumber

/-- Zero is accepted as a setting and equals the standard one, which is false, but a page is
prerendered in part under zero only. -/
theorem resolve_discerns_zero :
    let page : Page :=
      ⟨"/", "/", ⟨"", none, none, [(primaryBranch, ⟨pageSegment, none, none, []⟩)]⟩⟩
    ∃ standard zero, ResolverConfig.ofOptions {} = .ok standard
      ∧ ResolverConfig.ofOptions { ppr := .number (.int 0) } = .ok zero
      ∧ standard.Equal zero
      ∧ ((Route.page page).resolve .standard standard []).1.map (·.policy.pprEligible) = .ok false
      ∧ ((Route.page page).resolve .standard zero []).1.map (·.policy.pprEligible) = .ok true :=
  ⟨.default, { ResolverConfig.default with ppr := .number (.int 0) }, rfl, rfl,
    ⟨.numeric rfl rfl rfl, .refl _, rfl, rfl⟩, by decide +kernel, by decide +kernel⟩

end Route

end Prerender
