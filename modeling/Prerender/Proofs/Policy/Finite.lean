import Prerender.Proofs.Policy.Declarations
import Prerender.Proofs.Policy.Demands

/-!
# Finite policies

A policy has up to two numbers, one for revalidation and one for the duration (`Policy.numbers`).
Those of a chain are declared by its segments, so they are zero or more if the segments' own numbers
are (`isNonnegative_of_mem_numbers`), as those read from modules always are
(`SegmentConfig.isNonnegative_of_parse?`).

They need not be finite, because a module may declare infinity. One finite number below the last
"never" is enough to bound the revalidation, whatever the others are, while the duration is bounded
only by the declaration nearest to the leaf. The policy has a number that is not finite exactly if
one of the two is left without a bound (`Unbounded`, `unbounded_iff`).
-/

namespace Prerender

theorem Revalidate.seconds?_eq_some_iff {setting : Revalidate} {number : Number} :
    setting.seconds? = some number ↔ setting = .after number := by
  cases setting <;> simp [seconds?]

/-! ### Numbers of configurations -/

namespace SegmentConfig

/-- The numbers that a configuration declares. -/
def numbers (config : SegmentConfig) : List Number :=
  (config.revalidate.bind Revalidate.seconds?).toList ++ config.maxDuration.toList

variable {config : SegmentConfig} {number : Number}

theorem mem_numbers_iff :
    number ∈ config.numbers
      ↔ config.revalidate = some (.after number) ∨ config.maxDuration = some number := by
  simp [numbers, Option.bind_eq_some_iff, Revalidate.seconds?_eq_some_iff]

/-- Whatever a module exports, the numbers that are read from it are zero or more. -/
theorem isNonnegative_of_parse? {exports : Bindings Value} (parsed : parse? exports = some config)
    (member : number ∈ config.numbers) : number.isNonnegative = true := by
  rcases mem_numbers_iff.mp member with declares | declares
  · exact timed_of_parse? parsed number declares
  · refine (parse?_eq_some_iff.mp parsed).2.isNonnegative "max_duration" ?_
    rw [settings, declares]
    simp

end SegmentConfig

namespace Policy

/-! ### Numbers of policies -/

/-- The numbers of a policy. -/
def numbers (policy : Policy) : List Number :=
  policy.revalidate.seconds?.toList ++ policy.maxDuration.toList

theorem mem_numbers_iff {policy : Policy} {number : Number} :
    number ∈ policy.numbers
      ↔ policy.revalidate = .after number ∨ policy.maxDuration = some number := by
  simp [numbers, Revalidate.seconds?_eq_some_iff]

/-- The numbers that the segments of a chain declare are zero or more. -/
def Nonnegative (chain : List Segment) : Prop :=
  ∀ segment ∈ chain, ∀ config, segment.config = some config →
    ∀ number ∈ config.numbers, number.isNonnegative = true

variable {chain : List Segment}

theorem Nonnegative.timed (nonnegative : Nonnegative chain) :
    ∀ segment ∈ chain, ∀ config, segment.config = some config → config.Timed :=
  fun segment inChain config configured seconds declares =>
    nonnegative segment inChain config configured seconds
      (SegmentConfig.mem_numbers_iff.mpr (.inl declares))

/-- A chain has no finite bound for revalidation, since it declares numbers below the last "never"
and all of them are infinite, or it has none for the duration, since the declaration nearest to the
leaf is infinite. -/
inductive Unbounded (chain : List Segment) : Prop where
  | revalidate (declared : secondsIn (belowNever chain) ≠ [])
    (infinite : ∀ seconds ∈ secondsIn (belowNever chain), ¬seconds.IsFinite)
  | maxDuration {seconds : Number} (nearest : NearestLeaf (·.maxDuration) chain (some seconds))
    (infinite : ¬seconds.IsFinite)

/-- The number of seconds that a chain amounts to is infinite if all those that count are. -/
theorem exists_revalidateOf_infinite_iff (nonnegative : Nonnegative chain) :
    (∃ seconds, revalidateOf chain = .after seconds ∧ ¬seconds.IsFinite)
      ↔ secondsIn (belowNever chain) ≠ []
        ∧ ∀ seconds ∈ secondsIn (belowNever chain), ¬seconds.IsFinite := by
  have amounts := revalidateOf_amountsTo nonnegative.timed
  have each : ∀ seconds ∈ secondsIn (belowNever chain), seconds.isNonnegative = true :=
    fun _ declared => isNonnegative_of_mem_secondsIn nonnegative.timed declared
  generalize secondsIn (belowNever chain) = numbers, revalidateOf chain = value at amounts each ⊢
  cases amounts with
  | never => simp
  | after first =>
    simp [first.isFinite_iff each, first.ne_nil]

/-- The numbers of a chain's policy are zero or more as far as those of its segments are. -/
theorem isNonnegative_of_mem_numbers (nonnegative : Nonnegative chain) {ppr : PprMode}
    {number : Number} (member : number ∈ (ofChain ppr chain).numbers) :
    number.isNonnegative = true := by
  rcases mem_numbers_iff.mp member with revalidates | limits
  · have amounts := revalidateOf_amountsTo nonnegative.timed
    rw [show revalidateOf chain = .after number from revalidates] at amounts
    exact isNonnegative_of_mem_secondsIn nonnegative.timed amounts.isFirstLeast.mem
  · obtain ⟨segment, inChain, declares⟩ := mem_declaredIn_iff.mp (List.mem_of_getLast? limits)
    obtain ⟨config, configured, declares⟩ := Option.bind_eq_some_iff.mp declares
    exact nonnegative segment inChain config configured number
      (SegmentConfig.mem_numbers_iff.mpr (.inr declares))

/-- The policy of a chain has a number that is not finite exactly if the chain has no bound for
it. -/
theorem unbounded_iff (nonnegative : Nonnegative chain) (ppr : PprMode) :
    Unbounded chain ↔ ∃ number ∈ (ofChain ppr chain).numbers, ¬number.IsFinite := by
  have revalidates := exists_revalidateOf_infinite_iff nonnegative
  simp only [mem_numbers_iff, or_and_right, exists_or]
  constructor
  · rintro (⟨declared, infinite⟩ | ⟨nearest, infinite⟩)
    · exact .inl (revalidates.mpr ⟨declared, infinite⟩)
    · exact .inr ⟨_, nearestLeaf_iff.mp nearest, infinite⟩
  · rintro (found | ⟨seconds, limits, infinite⟩)
    · obtain ⟨declared, infinite⟩ := revalidates.mp found
      exact .revalidate declared infinite
    · exact .maxDuration (nearestLeaf_iff.mpr limits) infinite

end Policy

end Prerender
