import Prerender.Policy
import Prerender.Segment.Unchecked
import Prerender.Value.Order

/-!
# The policy of segments with unchecked settings

`UncheckedPolicy.ofChain` folds settings of any shape into a policy, by the rules of
`Policy.ofChain`. A way of rendering is known by its name, a truth value by what it equals, "never"
and "only enumerated parameters" by the truth value false itself, and of two values for
revalidation the lesser one in the order of values stays. It fails where values have no order, and
where a way of rendering is something that no set can hold.

On settings that were checked it gives what `Policy.ofChain` gives (`ofChain_uncheck`).
-/

namespace Prerender

/-- A policy with settings of any shape. -/
structure UncheckedPolicy where
  mode : RenderMode
  revalidate : Value
  pprEligible : Bool
  dynamicParams : Bool
  fetchCache : Value
  preferredRegion : Value
  maxDuration : Value

/-- A policy, its settings forgotten to be right. -/
def Policy.uncheck (policy : Policy) : UncheckedPolicy where
  mode := policy.mode
  revalidate := policy.revalidate.toValue
  pprEligible := policy.pprEligible
  dynamicParams := policy.dynamicParams
  fetchCache := (policy.fetchCache.map FetchCache.toValue).getD .none
  preferredRegion := (policy.preferredRegion.map Region.toValue).getD .none
  maxDuration := (policy.maxDuration.map Value.number).getD .none

namespace UncheckedPolicy

/-- What the expansion of a chain has to know of a policy. -/
def forExpansion (policy : UncheckedPolicy) : ExpansionPolicy Value :=
  ⟨policy.mode, policy.revalidate, policy.dynamicParams⟩

/-- What the segments of a chain declare of a setting, from the root to the leaf. -/
def declaredIn (setting : String) (chain : List UncheckedSegment) : List Value :=
  chain.filterMap fun segment => segment.config.bind (·.lookup? setting)

/-- Whether some of the declared values equals a given one. -/
def someEquals (declared : List Value) (value : Value) : Bool :=
  declared.any (·.equals value)

/-- Whether a value is the truth value false itself. -/
def isFalse : Value → Bool
  | .bool false => true
  | _ => false

/-- One more declaration on revalidation. -/
def revalidateStep (current : Option Value) (value : Value) : Except Raised (Option Value) :=
  if isFalse value then .ok (some value)
  else match current with
    | none => .ok (some value)
    | some present =>
      if isFalse present then .ok (some value) else (present.least value).map some

/-- When the pages of a route have to be made anew. -/
def revalidateOf (chain : List UncheckedSegment) : Except Raised Value := do
  let current ← (declaredIn "revalidate" chain).foldlM revalidateStep none
  return current.getD (.bool false)

/-- How a route is rendered. -/
def modeOf (chain : List UncheckedSegment) : Except Crash RenderMode :=
  let declared := declaredIn "dynamic" chain
  match Value.unhashableAmong? declared with
  | some type => .error (.unhashable type)
  | none =>
    if someEquals declared Rendering.forceDynamic.toValue then .ok .forceDynamic
    else if someEquals declared Rendering.forceStatic.toValue
        || someEquals declared Rendering.error.toValue then .ok .forceStatic
    else if chain.any fun segment => segment.isDynamic || segment.generator.isSome then
      .ok .dynamic
    else .ok .static

/-- Whether a route may be prerendered in part. -/
def pprEligibleOf (mode : PprMode) (chain : List UncheckedSegment) : Bool :=
  let optIns := declaredIn "experimental_ppr" chain
  match mode with
  | .off => false
  | .incremental => !someEquals optIns (.bool false) && someEquals optIns (.bool true)
  | .on => !someEquals optIns (.bool false)

/-- Whether parameters that were not enumerated are served. -/
def dynamicParamsOf (chain : List UncheckedSegment) : Bool :=
  !(declaredIn "dynamic_params" chain).any isFalse

/-- The declaration nearest to the leaf, or nothing. -/
def nearestLeaf (setting : String) (chain : List UncheckedSegment) : Value :=
  (declaredIn setting chain).getLast?.getD .none

/-- The policy that the segments of a chain amount to. -/
def ofChain (ppr : PprMode) (chain : List UncheckedSegment) : Except Raised UncheckedPolicy := do
  let mode ← (modeOf chain).mapError .crash
  let revalidate ← revalidateOf chain
  return {
    mode
    revalidate
    pprEligible := pprEligibleOf ppr chain
    dynamicParams := dynamicParamsOf chain
    fetchCache := nearestLeaf "fetch_cache" chain
    preferredRegion := nearestLeaf "preferred_region" chain
    maxDuration := nearestLeaf "max_duration" chain }

theorem declaredIn_uncheck {α : Type} (setting : SegmentConfig → Option α) (toValue : α → Value)
    (name : String)
    (member : ∀ config : SegmentConfig, (name, (setting config).map toValue) ∈ config.settings)
    (chain : List Segment) :
    declaredIn name (chain.map Segment.uncheck)
      = (Policy.declaredIn setting chain).map toValue := by
  induction chain with
  | nil => rfl
  | cons segment rest ih =>
    unfold declaredIn Policy.declaredIn at ih ⊢
    rw [List.map_cons]
    cases found : segment.config with
    | none => simpa [Segment.uncheck, found] using ih
    | some config =>
      have here := config.lookup?_declared (member config)
      cases given : setting config with
      | none => simpa [Segment.uncheck, found, here, given] using ih
      | some value => simpa [Segment.uncheck, found, here, given] using ih

theorem least_number (a b : Number) :
    (Value.number a).least (.number b) = .ok (.number (a.least b)) := by
  have order : (Value.number b).before (.number a) = .ok (b.less a) := by
    simp [Value.before, Value.numeric?]
  unfold Value.least Number.least
  rw [order, apply_ite Value.number]
  rfl

theorem revalidateStep_toValue (current : Option Revalidate) (value : Revalidate) :
    revalidateStep (current.map Revalidate.toValue) value.toValue
      = .ok ((Policy.revalidateStep current value).map Revalidate.toValue) := by
  match current, value with
  | _, .never => simp [revalidateStep, Policy.revalidateStep, Revalidate.toValue, isFalse]
  | none, .after seconds =>
    simp [revalidateStep, Policy.revalidateStep, Revalidate.toValue, isFalse]
  | some .never, .after seconds =>
    simp [revalidateStep, Policy.revalidateStep, Revalidate.toValue, isFalse]
  | some (.after present), .after seconds =>
    simp only [revalidateStep, Policy.revalidateStep, Revalidate.toValue, isFalse,
      Option.map_some, least_number]
    rfl

theorem foldlM_revalidateStep (declared : List Revalidate) (current : Option Revalidate) :
    (declared.map Revalidate.toValue).foldlM revalidateStep (current.map Revalidate.toValue)
      = .ok ((declared.foldl Policy.revalidateStep current).map Revalidate.toValue) := by
  induction declared generalizing current with
  | nil => rfl
  | cons value rest ih =>
    rw [List.map_cons, List.foldlM_cons, revalidateStep_toValue]
    exact ih _

theorem revalidateOf_uncheck (chain : List Segment) :
    revalidateOf (chain.map Segment.uncheck) = .ok (Policy.revalidateOf chain).toValue := by
  have fold := foldlM_revalidateStep (Policy.declaredIn (·.revalidate) chain) none
  unfold revalidateOf Policy.revalidateOf
  rw [declaredIn_uncheck (·.revalidate) Revalidate.toValue _ (by simp [SegmentConfig.settings])]
  rw [Option.map_none] at fold
  rw [fold]
  cases (Policy.declaredIn (·.revalidate) chain).foldl Policy.revalidateStep none <;> rfl

theorem unhashableAmong?_rendering (declared : List Rendering) :
    Value.unhashableAmong? (declared.map Rendering.toValue) = none := by
  induction declared with
  | nil => rfl
  | cons mode rest ih =>
    simpa [Value.unhashableAmong?, Rendering.toValue, Value.unhashable?] using ih

theorem someEquals_rendering (declared : List Rendering) (mode : Rendering) :
    someEquals (declared.map Rendering.toValue) mode.toValue = declared.contains mode := by
  have same : ∀ other : Rendering, other.toValue.equals mode.toValue = (mode == other) := by
    intro other
    cases other <;> cases mode <;> decide
  induction declared with
  | nil => rfl
  | cons other rest ih =>
    unfold someEquals at ih ⊢
    rw [List.map_cons, List.any_cons, same, ih, List.contains_cons]

theorem someEquals_bool (declared : List Bool) (value : Bool) :
    someEquals (declared.map Value.bool) (.bool value) = declared.contains value := by
  have same : ∀ other : Bool,
      (Value.bool other).equals (.bool value) = (value == other) := by
    intro other
    cases other <;> cases value <;> decide
  induction declared with
  | nil => rfl
  | cons other rest ih =>
    unfold someEquals at ih ⊢
    rw [List.map_cons, List.any_cons, same, ih, List.contains_cons]

theorem any_isFalse_bool (declared : List Bool) :
    (declared.map Value.bool).any isFalse = declared.contains false := by
  induction declared with
  | nil => rfl
  | cons value rest ih => cases value <;> simp [isFalse, ih]

theorem modeOf_uncheck (chain : List Segment) :
    modeOf (chain.map Segment.uncheck) = .ok (Policy.modeOf chain) := by
  have dynamic : (chain.map Segment.uncheck).any
        (fun segment => segment.isDynamic || segment.generator.isSome)
      = chain.any fun segment => segment.isDynamic || segment.generator.isSome := by
    rw [List.any_map]
    rfl
  unfold modeOf Policy.modeOf
  rw [declaredIn_uncheck (·.dynamic) Rendering.toValue _ (by simp [SegmentConfig.settings])]
  simp only [unhashableAmong?_rendering, someEquals_rendering, dynamic, apply_ite Except.ok]

theorem nearestLeaf_uncheck {α : Type} (setting : SegmentConfig → Option α) (toValue : α → Value)
    (name : String)
    (member : ∀ config : SegmentConfig, (name, (setting config).map toValue) ∈ config.settings)
    (chain : List Segment) :
    nearestLeaf name (chain.map Segment.uncheck)
      = ((Policy.declaredIn setting chain).getLast?.map toValue).getD .none := by
  unfold nearestLeaf
  rw [declaredIn_uncheck setting toValue name member, List.getLast?_map]

/-- On settings that were checked, nothing depends on their being checked. -/
theorem ofChain_uncheck (ppr : PprMode) (chain : List Segment) :
    ofChain ppr (chain.map Segment.uncheck) = .ok (Policy.ofChain ppr chain).uncheck := by
  have eligible : pprEligibleOf ppr (chain.map Segment.uncheck)
      = Policy.pprEligibleOf ppr chain := by
    unfold pprEligibleOf Policy.pprEligibleOf
    rw [declaredIn_uncheck (·.experimentalPpr) Value.bool _ (by simp [SegmentConfig.settings])]
    cases ppr <;> simp only [someEquals_bool]
  have served : dynamicParamsOf (chain.map Segment.uncheck) = Policy.dynamicParamsOf chain := by
    unfold dynamicParamsOf Policy.dynamicParamsOf
    rw [declaredIn_uncheck (·.dynamicParams) Value.bool _ (by simp [SegmentConfig.settings]),
      any_isFalse_bool]
  unfold ofChain
  rw [modeOf_uncheck, revalidateOf_uncheck, eligible, served,
    nearestLeaf_uncheck (·.fetchCache) FetchCache.toValue _ (by simp [SegmentConfig.settings]),
    nearestLeaf_uncheck (·.preferredRegion) Region.toValue _ (by simp [SegmentConfig.settings]),
    nearestLeaf_uncheck (·.maxDuration) Value.number _ (by simp [SegmentConfig.settings])]
  rfl

end UncheckedPolicy

end Prerender
