import Prerender.Expansion
import Prerender.Policy.Unchecked

/-!
# Structural segments

A structural segment has neither settings nor a generator and stands for itself. Every fold over a
chain passes it by: the policy reads settings, roles and generators, the check of a chain reads its
dynamic segments, and a run calls generators. So it does not show in the policy or in the expansion
of a chain, the calls included, where structural segments are put in (`Padded`). A chain is always
padded by those of its segments that do not contribute (`padded_filter_contributes`).
-/

namespace Prerender

variable {σ ρ α : Type}

/-- A segment without settings and generator that stands for itself. -/
structure SegmentWith.IsStructural (segment : SegmentWith σ) : Prop where
  config : segment.config = none
  generator : segment.generator = none
  role : segment.role = .static

/-- The structural segments are those that do not matter to static generation. -/
theorem SegmentWith.isStructural_iff {segment : SegmentWith σ} :
    segment.IsStructural ↔ segment.contributes = false := by
  have static : segment.role = .static ↔ segment.isDynamic = false := by
    rw [isDynamic]
    cases segment.role <;> simp
  rw [contributes, Bool.or_eq_false_iff, Bool.or_eq_false_iff, Option.isSome_eq_false_iff,
    Option.isSome_eq_false_iff, Option.isNone_iff_eq_none, Option.isNone_iff_eq_none, ← static]
  constructor
  · rintro ⟨config, generator, role⟩
    exact ⟨⟨config, generator⟩, role⟩
  · rintro ⟨⟨config, generator⟩, role⟩
    exact ⟨config, generator, role⟩

theorem SegmentWith.IsStructural.isDynamic {segment : SegmentWith σ}
    (structural : segment.IsStructural) : segment.isDynamic = false := by
  rw [SegmentWith.isDynamic, structural.role]

/-- The second chain is the first one with structural segments put in, wherever it may be. -/
inductive Padded : List (SegmentWith σ) → List (SegmentWith σ) → Prop where
  | nil : Padded [] []
  | keep (segment : SegmentWith σ) {chain padded : List (SegmentWith σ)} :
      Padded chain padded → Padded (segment :: chain) (segment :: padded)
  | insert {segment : SegmentWith σ} {chain padded : List (SegmentWith σ)} :
      segment.IsStructural → Padded chain padded → Padded chain (segment :: padded)

/-- A chain is padded by the segments that do not contribute. -/
theorem padded_filter_contributes (chain : List (SegmentWith σ)) :
    Padded (chain.filter (·.contributes)) chain := by
  induction chain with
  | nil => exact .nil
  | cons segment rest ih =>
    cases contributes : segment.contributes with
    | true =>
      rw [List.filter_cons_of_pos contributes]
      exact .keep segment ih
    | false =>
      rw [List.filter_cons_of_neg (Bool.not_eq_true _ ▸ contributes)]
      exact .insert (SegmentWith.isStructural_iff.mpr contributes) ih

namespace Padded

variable {chain padded : List (SegmentWith σ)}

/-! ### What reads a chain -/

theorem filterMap_eq (padding : Padded chain padded) (read : SegmentWith σ → Option α)
    (nothing : ∀ segment : SegmentWith σ, segment.IsStructural → read segment = none) :
    padded.filterMap read = chain.filterMap read := by
  induction padding with
  | nil => rfl
  | keep segment _ ih => rw [List.filterMap_cons, List.filterMap_cons, ih]
  | insert structural _ ih => rw [List.filterMap_cons_none (nothing _ structural), ih]

theorem any_eq (padding : Padded chain padded) (test : SegmentWith σ → Bool)
    (never : ∀ segment : SegmentWith σ, segment.IsStructural → test segment = false) :
    padded.any test = chain.any test := by
  induction padding with
  | nil => rfl
  | keep segment _ ih => rw [List.any_cons, List.any_cons, ih]
  | insert structural _ ih => rw [List.any_cons, never _ structural, Bool.false_or, ih]

theorem filter_isDynamic_eq (padding : Padded chain padded) :
    padded.filter (·.isDynamic) = chain.filter (·.isDynamic) := by
  induction padding with
  | nil => rfl
  | keep segment _ ih => rw [List.filter_cons, List.filter_cons, ih]
  | insert structural _ ih =>
    rw [List.filter_cons_of_neg (Bool.not_eq_true _ ▸ structural.isDynamic), ih]

theorem expandChain_eq (padding : Padded chain padded) (overrun : Nat → Nat) (owners : Owners σ)
    (records : List ParamRecord) (calls : List Call) :
    Expansion.expandChain overrun owners padded records calls
      = Expansion.expandChain overrun owners chain records calls := by
  induction padding generalizing records calls with
  | nil => rfl
  | keep segment _ ih =>
    rw [Expansion.expandChain, Expansion.expandChain]
    simp only [ih]
  | insert structural _ ih =>
    rw [Expansion.expandChain, structural.generator]
    exact ih records calls

/-! ### Policies and expansions -/

/-- Only a dynamic segment or one with a generator asks for rendering on request. -/
theorem any_dynamic_eq (padding : Padded chain padded) :
    (padded.any fun segment => segment.isDynamic || segment.generator.isSome)
      = chain.any fun segment => segment.isDynamic || segment.generator.isSome := by
  apply padding.any_eq
  intro segment structural
  rw [structural.isDynamic, structural.generator]
  rfl

theorem policy_eq {chain padded : List Segment} (padding : Padded chain padded) (ppr : PprMode) :
    Policy.ofChain ppr padded = Policy.ofChain ppr chain := by
  have declared {α : Type} (setting : SegmentConfig → Option α) :
      Policy.declaredIn setting padded = Policy.declaredIn setting chain := by
    apply padding.filterMap_eq
    intro segment structural
    rw [structural.config, Option.bind_none]
  simp only [Policy.ofChain, Policy.modeOf, Policy.revalidateOf, Policy.pprEligibleOf,
    Policy.dynamicParamsOf, declared, padding.any_dynamic_eq]

theorem uncheckedPolicy_eq {chain padded : List UncheckedSegment} (padding : Padded chain padded)
    (ppr : PprMode) : UncheckedPolicy.ofChain ppr padded = UncheckedPolicy.ofChain ppr chain := by
  have declared (setting : String) :
      UncheckedPolicy.declaredIn setting padded = UncheckedPolicy.declaredIn setting chain := by
    apply padding.filterMap_eq
    intro segment structural
    rw [structural.config, Option.bind_none]
  simp only [UncheckedPolicy.ofChain, UncheckedPolicy.modeOf, UncheckedPolicy.revalidateOf,
    UncheckedPolicy.pprEligibleOf, UncheckedPolicy.dynamicParamsOf, UncheckedPolicy.nearestLeaf,
    declared, padding.any_dynamic_eq]

/-- An expansion gives the same result or error and makes the same calls. -/
theorem expand_eq (padding : Padded chain padded) (tasks : TaskLibrary)
    (policy : ExpansionPolicy ρ) (pathname : Option String) (fallbackShells : Bool)
    (concurrency : Value) (calls : List Call) :
    expand tasks padded policy pathname fallbackShells concurrency calls
      = expand tasks chain policy pathname fallbackShells concurrency calls := by
  unfold expand
  simp only [padding.filter_isDynamic_eq, padding.expandChain_eq]

end Padded

end Prerender
