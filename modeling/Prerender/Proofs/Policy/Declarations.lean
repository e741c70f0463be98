import Mathlib.Data.List.DropRight
import Mathlib.Data.List.Induction
import Prerender.Policy
import Prerender.Proofs.Number
import Prerender.Proofs.Segment.Settings

/-!
# What the declarations of a chain amount to

The settings of a chain are folded from the root to the leaf. When pages have to be made anew is
then said by the numbers of seconds that are declared below the last "never": by the first of the
least ones among them, and if there are none it is "never" (`AmountsTo`). Of region, caching and
duration the declaration nearest to the leaf is taken (`NearestLeaf`).

Both are shown for one more segment at the leaf, and so for whole chains (`ofChain_amounts`).
-/

namespace Prerender

/-- The number of seconds that a setting for revalidation names. -/
def Revalidate.seconds? : Revalidate → Option Number
  | .never => none
  | .after seconds => some seconds

/-- The number of seconds that a configuration declares for revalidation is zero or more. -/
def SegmentConfig.Timed (config : SegmentConfig) : Prop :=
  ∀ seconds, config.revalidate = some (.after seconds) → seconds.isNonnegative = true

namespace SegmentConfig

/-- Whatever a module exports, the seconds that are read from it are zero or more. -/
theorem timed_of_parse? {exports : Bindings Value} {config : SegmentConfig}
    (parsed : parse? exports = some config) : config.Timed := by
  intro seconds declares
  refine (parse?_eq_some_iff.mp parsed).2.isNonnegative "revalidate" ?_
  rw [settings, declares]
  exact List.mem_cons_self

end SegmentConfig

namespace Policy

/-! ### Revalidation -/

/-- The segments below the last one that declares "never"; all of them if none does. -/
def belowNever (chain : List Segment) : List Segment :=
  chain.rtakeWhile fun segment => segment.config.bind (·.revalidate) ≠ some .never

/-- The numbers of seconds that a chain declares for revalidation, from the root to the leaf. -/
def secondsIn (chain : List Segment) : List Number :=
  declaredIn (fun config => config.revalidate.bind Revalidate.seconds?) chain

theorem belowNever_concat (chain : List Segment) (segment : Segment) :
    belowNever (chain ++ [segment])
      = if segment.config.bind (·.revalidate) = some .never then []
        else belowNever chain ++ [segment] := by
  rw [belowNever, List.rtakeWhile_concat]
  by_cases never : segment.config.bind (·.revalidate) = some .never
  · rw [if_pos never, if_neg (by simp [never])]
  · rw [if_neg never, if_pos (by simp [never])]
    rfl

/-- What the numbers declared below the last "never" amount to: the first of the least ones. -/
inductive AmountsTo : List Number → Revalidate → Prop where
  | never : AmountsTo [] .never
  | after {numbers : List Number} {least : Number} (first : least.IsFirstLeast numbers) :
    AmountsTo numbers (.after least)

theorem AmountsTo.isFirstLeast {numbers : List Number} {least : Number}
    (amounts : AmountsTo numbers (.after least)) : least.IsFirstLeast numbers := by
  cases amounts with
  | after first => exact first

theorem AmountsTo.unique {numbers : List Number} {a b : Revalidate} (amountsA : AmountsTo numbers a)
    (amountsB : AmountsTo numbers b) : a = b := by
  cases amountsA with
  | never =>
    cases amountsB with
    | never => rfl
    | after first => exact absurd rfl first.ne_nil
  | after firstA =>
    cases amountsB with
    | never => exact absurd rfl firstA.ne_nil
    | after firstB => rw [firstA.unique firstB]

theorem declaredIn_concat {α : Type} (setting : SegmentConfig → Option α) (chain : List Segment)
    (segment : Segment) :
    declaredIn setting (chain ++ [segment])
      = declaredIn setting chain ++ (segment.config.bind setting).toList := by
  rw [declaredIn, List.filterMap_append, declaredIn]
  cases declared : segment.config.bind setting <;> simp [declared]

theorem secondsIn_concat (chain : List Segment) (segment : Segment) :
    secondsIn (chain ++ [segment])
      = secondsIn chain
        ++ ((segment.config.bind (·.revalidate)).bind Revalidate.seconds?).toList := by
  rw [secondsIn, declaredIn_concat, Option.bind_assoc]
  rfl

/-- One more segment leaves the value as it is, resets it, or adds a number to those that it is the
least of. -/
theorem revalidateOf_concat (chain : List Segment) (segment : Segment) :
    revalidateOf (chain ++ [segment])
      = match segment.config.bind (·.revalidate), revalidateOf chain with
        | none, current => current
        | some .never, _ => .never
        | some (.after seconds), .never => .after seconds
        | some (.after seconds), .after current => .after (current.least seconds) := by
  unfold revalidateOf
  rw [declaredIn_concat, List.foldl_append]
  generalize (declaredIn (·.revalidate) chain).foldl revalidateStep none = current
  cases segment.config.bind (·.revalidate) with
  | none => rfl
  | some value =>
    cases value with
    | never => rfl
    | after seconds =>
      cases current with
      | none => rfl
      | some value => cases value <;> rfl

theorem mem_of_mem_belowNever {chain : List Segment} {segment : Segment}
    (member : segment ∈ belowNever chain) : segment ∈ chain :=
  (List.rtakeWhile_suffix _ _).subset member

theorem isNonnegative_of_mem_secondsIn {chain : List Segment}
    (timed : ∀ segment ∈ chain, ∀ config, segment.config = some config → config.Timed)
    {seconds : Number} (declared : seconds ∈ secondsIn (belowNever chain)) :
    seconds.isNonnegative = true := by
  obtain ⟨segment, member, given⟩ := List.mem_filterMap.mp declared
  obtain ⟨config, configured, given⟩ := Option.bind_eq_some_iff.mp given
  obtain ⟨value, revalidates, isSeconds⟩ := Option.bind_eq_some_iff.mp given
  cases value with
  | never => cases isSeconds
  | after number =>
    cases isSeconds
    exact timed segment (mem_of_mem_belowNever member) config configured seconds revalidates

/-- Pages have to be made anew after the least number of seconds that is declared below the last
"never". -/
theorem revalidateOf_amountsTo {chain : List Segment}
    (timed : ∀ segment ∈ chain, ∀ config, segment.config = some config → config.Timed) :
    AmountsTo (secondsIn (belowNever chain)) (revalidateOf chain) := by
  induction chain using List.reverseRecOn with
  | nil => exact .never
  | append_singleton chain segment ih =>
    have timedAbove : ∀ above ∈ chain, ∀ config, above.config = some config → config.Timed :=
      fun above inChain => timed above (List.mem_append_left _ inChain)
    have above := ih timedAbove
    have ordered : ∀ number ∈ secondsIn (belowNever chain), number.IsOrdered :=
      fun _ declared => Number.isOrdered_of_isNonnegative
        (isNonnegative_of_mem_secondsIn timedAbove declared)
    rw [revalidateOf_concat, belowNever_concat]
    cases declared : segment.config.bind (·.revalidate) with
    | none =>
      rw [if_neg (by simp), secondsIn_concat, declared]
      simpa using above
    | some value =>
      cases value with
      | never =>
        rw [if_pos rfl]
        exact .never
      | after seconds =>
        rw [if_neg (by simp), secondsIn_concat, declared]
        generalize secondsIn (belowNever chain) = numbers at above ordered ⊢
        generalize revalidateOf chain = current at above ⊢
        cases above with
        | never => exact .after (Number.isFirstLeast_singleton seconds)
        | after first => exact .after (first.concat ordered seconds)

/-! ### Declarations nearest to the leaf -/

/-- The value that the segment nearest to the leaf declares for a setting, of those that declare
it. -/
inductive NearestLeaf {α : Type} (setting : SegmentConfig → Option α) :
    List Segment → Option α → Prop where
  | undeclared {chain : List Segment}
      (silent : ∀ segment ∈ chain, segment.config.bind setting = none) :
    NearestLeaf setting chain none
  | declared {above below : List Segment} {segment : Segment} {value : α}
      (declares : segment.config.bind setting = some value)
      (silent : ∀ lower ∈ below, lower.config.bind setting = none) :
    NearestLeaf setting (above ++ segment :: below) (some value)

theorem nearestLeaf_getLast? {α : Type} (setting : SegmentConfig → Option α)
    (chain : List Segment) :
    NearestLeaf setting chain (declaredIn setting chain).getLast? := by
  induction chain using List.reverseRecOn with
  | nil => exact .undeclared fun _ member => absurd member List.not_mem_nil
  | append_singleton chain segment ih =>
    rw [declaredIn_concat]
    cases declares : segment.config.bind setting with
    | some value =>
      rw [Option.toList_some, List.getLast?_concat]
      exact .declared declares fun _ member => absurd member List.not_mem_nil
    | none =>
      rw [Option.toList_none, List.append_nil]
      generalize (declaredIn setting chain).getLast? = nearest at ih ⊢
      cases ih with
      | undeclared silent =>
        refine .undeclared ?_
        rw [List.forall_mem_append]
        exact ⟨silent, List.forall_mem_singleton.mpr declares⟩
      | declared found silent =>
        rw [List.append_assoc, List.cons_append]
        refine .declared found ?_
        rw [List.forall_mem_append]
        exact ⟨silent, List.forall_mem_singleton.mpr declares⟩

theorem nearestLeaf_iff {α : Type} {setting : SegmentConfig → Option α} {chain : List Segment}
    {nearest : Option α} :
    NearestLeaf setting chain nearest ↔ (declaredIn setting chain).getLast? = nearest := by
  constructor
  · intro isNearest
    cases isNearest with
    | undeclared silent =>
      rw [declaredIn, List.filterMap_eq_nil_iff.mpr silent, List.getLast?_nil]
    | declared declares silent =>
      simp only [declaredIn, List.filterMap_append, List.filterMap_cons, declares,
        List.filterMap_eq_nil_iff.mpr silent, List.getLast?_concat]
  · rintro rfl
    exact nearestLeaf_getLast? setting chain

/-! ### The policy of a chain -/

/-- The seconds that configurations declare are zero or more if they were read from a module. For a
chain of such configurations, pages have to be made anew after the least number of seconds that is
declared below the last "never", the first of equal ones, or never if there is no number; and of
caching, region and duration each is as the segment nearest to the leaf declares it. -/
theorem ofChain_amounts :
    (∀ exports config, SegmentConfig.parse? exports = some config → config.Timed)
      ∧ ∀ (ppr : PprMode) (chain : List Segment),
        (∀ segment ∈ chain, ∀ config, segment.config = some config → config.Timed) →
          (∀ value, (ofChain ppr chain).revalidate = value
              ↔ AmountsTo (secondsIn (belowNever chain)) value)
            ∧ NearestLeaf (·.fetchCache) chain (ofChain ppr chain).fetchCache
            ∧ NearestLeaf (·.preferredRegion) chain (ofChain ppr chain).preferredRegion
            ∧ NearestLeaf (·.maxDuration) chain (ofChain ppr chain).maxDuration := by
  refine ⟨fun _ _ parsed => SegmentConfig.timed_of_parse? parsed, ?_⟩
  intro ppr chain timed
  have amounts : AmountsTo (secondsIn (belowNever chain)) (ofChain ppr chain).revalidate :=
    revalidateOf_amountsTo timed
  refine ⟨fun value => ⟨?_, amounts.unique⟩, nearestLeaf_getLast? _ chain,
    nearestLeaf_getLast? _ chain, nearestLeaf_getLast? _ chain⟩
  rintro rfl
  exact amounts

theorem ofChain_amounts_reset :
    let thirty : Floating := .finite ⟨false, 3, 1, .inl (by decide)⟩
    let read (exports : Bindings Value) : Option SegmentConfig := SegmentConfig.parse? exports
    let root : Segment :=
      { name := "", config := read
          [("revalidate", .number (.int 10)), ("fetch_cache", .text "force-cache"),
            ("max_duration", .number (.int 5))] }
    let shop : Segment :=
      { name := "shop", config := read
          [("revalidate", .bool false), ("preferred_region", .list [.text "iad1"])] }
    let lang : Segment :=
      { name := "[lang]", role := .dynamic (some ⟨"lang", .single⟩), config := read
          [("revalidate", .number (.float (.infinite false))),
            ("fetch_cache", .text "only-cache")] }
    let layout : Segment :=
      { name := "layout", config := read [("revalidate", .number (.float thirty))] }
    let page : Segment :=
      { name := "page", config := read [("revalidate", .number (.int 30))] }
    let chain := [root, shop, lang, layout, page]
    (∀ segment ∈ chain, ∀ config, segment.config = some config → config.Timed)
      ∧ (ofChain .off chain).revalidate = .after (.float thirty)
      ∧ NearestLeaf (·.fetchCache) chain (some .onlyCache)
      ∧ NearestLeaf (·.preferredRegion) chain (some (.several ["iad1"]))
      ∧ NearestLeaf (·.maxDuration) chain (some (.int 5)) := by
  intro thirty read root shop lang layout page chain
  have timed : ∀ segment ∈ chain, ∀ config, segment.config = some config → config.Timed := by
    simp only [chain, List.forall_mem_cons]
    refine ⟨?_, ?_, ?_, ?_, ?_, fun _ member => absurd member List.not_mem_nil⟩
    all_goals exact fun config parsed => ofChain_amounts.1 _ config parsed
  obtain ⟨revalidate, fetchCache, region, duration⟩ := ofChain_amounts.2 .off chain timed
  refine ⟨timed, (revalidate _).mpr ?_, ?_, ?_, ?_⟩
  · have numbers : secondsIn (belowNever chain)
        = [.float (.infinite false), .float thirty, .int 30] := by decide +kernel
    rw [numbers]
    exact .after ⟨[.float (.infinite false)], [.int 30], rfl, by decide +kernel, by decide +kernel⟩
  · have found : (ofChain .off chain).fetchCache = some .onlyCache := by decide +kernel
    exact found ▸ fetchCache
  · have found : (ofChain .off chain).preferredRegion = some (.several ["iad1"]) := by
      decide +kernel
    exact found ▸ region
  · have found : (ofChain .off chain).maxDuration = some (.int 5) := by decide +kernel
    exact found ▸ duration

end Policy

end Prerender
