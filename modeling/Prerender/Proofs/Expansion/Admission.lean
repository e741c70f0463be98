import Prerender.Proofs.Except
import Prerender.Proofs.Expansion.Bare
import Prerender.Proofs.Expansion.Ending

/-!
# Chains that are admitted alike

Whether an expansion runs down its chain is decided by the policy, by the number of calls in
flight and by what the chain's dynamic segments are called. Chains with the same dynamic segments,
up to their generators and settings (`Alike`), therefore end alike before any call or run down
with the same owners of parameters (`Alike.expand_eq`), and only their runs are left to compare.
-/

namespace Prerender

namespace Expansion

variable {σ ρ : Type} {tasks : TaskLibrary}

/-- The dynamic segments of two chains are the same up to their generators and settings. -/
def Alike (chain other : List (SegmentWith σ)) : Prop :=
  (chain.filter (·.isDynamic)).map SegmentWith.bare
    = (other.filter (·.isDynamic)).map SegmentWith.bare

/-- What an expansion makes of a run: its failure, or the paths among the records at the end, with
the pathname filled in from each. -/
def concluded (policy : ExpansionPolicy ρ) (pathname : Option String) (fallbackShells : Bool)
    (owners : Owners σ) :
    Except Raised (List ParamRecord) × List Call → Except Raised (StaticPaths ρ) × List Call
  | (.error raised, calls) => (.error raised, calls)
  | (.ok records, calls) =>
    match pathnamesOf pathname (pathsOf owners records) with
    | .error crash => (.error (.crash crash), calls)
    | .ok pathnames =>
      (.ok
        { paths := pathsOf owners records
          fallback := fallbackOf policy fallbackShells
          revalidate := policy.revalidate
          pathnames },
        calls)

/-- An expansion has a result if its run has records and the pathname can be filled in. -/
theorem concluded_eq_ok_iff {policy : ExpansionPolicy ρ} {pathname : Option String}
    {fallbackShells : Bool} {owners : Owners σ}
    {run : Except Raised (List ParamRecord) × List Call} {result : StaticPaths ρ}
    {log : List Call} :
    concluded policy pathname fallbackShells owners run = (.ok result, log)
      ↔ ∃ records, run = (.ok records, log) ∧ ∃ pathnames,
          pathnamesOf pathname (pathsOf owners records) = .ok pathnames
            ∧ result = { paths := pathsOf owners records
                         fallback := fallbackOf policy fallbackShells
                         revalidate := policy.revalidate
                         pathnames } := by
  obtain ⟨raised | records, calls⟩ := run
  · simp [concluded]
  · cases filled : pathnamesOf pathname (pathsOf owners records) with
    | error crash => simp [concluded, filled]
    | ok pathnames =>
      simp only [concluded, filled, Prod.mk.injEq, Except.ok.injEq]
      constructor
      · rintro ⟨rfl, rfl⟩
        exact ⟨records, ⟨rfl, rfl⟩, pathnames, filled, rfl⟩
      · rintro ⟨_, ⟨rfl, rfl⟩, _, alsoFilled, rfl⟩
        rw [filled] at alsoFilled
        cases alsoFilled
        exact ⟨rfl, rfl⟩

/-- Runs with the same outcome lead to the same result or error, whatever they called. -/
theorem concluded_fst (policy : ExpansionPolicy ρ) (pathname : Option String)
    (fallbackShells : Bool) (owners : Owners σ)
    {run other : Except Raised (List ParamRecord) × List Call} (same : run.1 = other.1) :
    (concluded policy pathname fallbackShells owners run).1
      = (concluded policy pathname fallbackShells owners other).1 := by
  obtain ⟨outcome, log⟩ := run
  obtain ⟨_, otherLog⟩ := other
  obtain rfl : outcome = _ := same
  cases outcome with
  | error raised => rfl
  | ok records =>
    simp only [concluded]
    cases pathnamesOf pathname (pathsOf owners records) <;> rfl

theorem Alike.isEmpty {chain other : List (SegmentWith σ)} (alike : Alike chain other) :
    (chain.filter (·.isDynamic)).isEmpty = (other.filter (·.isDynamic)).isEmpty := by
  have same := congrArg List.isEmpty alike
  rwa [List.isEmpty_map, List.isEmpty_map] at same

theorem Alike.ownersFrom_bare {chain other : List (SegmentWith σ)} (alike : Alike chain other) :
    (ownersFrom [] (chain.filter (·.isDynamic))).map Owners.bare
      = (ownersFrom [] (other.filter (·.isDynamic))).map Owners.bare := by
  rw [← Expansion.ownersFrom_bare, ← Expansion.ownersFrom_bare]
  exact congrArg _ alike

/-- Expansions of two chains that are alike end the same way before any call, or both run down
their chains with the owners of the first. -/
theorem Alike.expand_eq {chain other : List (SegmentWith σ)} (alike : Alike chain other)
    (policy : ExpansionPolicy ρ) (pathname : Option String) (fallbackShells : Bool)
    (concurrency : Value) :
    (∃ ended, ∀ calls,
        expand tasks chain policy pathname fallbackShells concurrency calls = (ended, calls)
          ∧ expand tasks other policy pathname fallbackShells concurrency calls = (ended, calls))
      ∨ (MayRun tasks chain policy.mode concurrency ∧ ∀ calls,
          expand tasks chain policy pathname fallbackShells concurrency calls
              = concluded policy pathname fallbackShells (ownersOf chain)
                  (expandChain (tasks.overrun concurrency)
                    (ownersOf chain) chain [[]] calls)
            ∧ expand tasks other policy pathname fallbackShells concurrency calls
              = concluded policy pathname fallbackShells (ownersOf chain)
                  (expandChain (tasks.overrun concurrency)
                    (ownersOf chain) other [[]] calls)) := by
  unfold expand
  simp only [← alike.isEmpty]
  cases static : (chain.filter (·.isDynamic)).isEmpty with
  | true => exact Or.inl ⟨_, fun calls => ⟨rfl, rfl⟩⟩
  | false =>
    simp only [Bool.false_eq_true, if_false]
    -- The owners may differ in their generators and settings, which nothing below asks for.
    rcases Except.map_eq_map_cases alike.ownersFrom_bare with
      ⟨failure, checked, checkedOther⟩ | ⟨owners, otherOwners, checked, checkedOther, sameOwners⟩
    · rw [checked, checkedOther]
      exact Or.inl ⟨_, fun calls => ⟨rfl, rfl⟩⟩
    · rw [checked, checkedOther]
      simp only
      split
      · exact Or.inl ⟨_, fun calls => ⟨rfl, rfl⟩⟩
      next onRequest =>
        cases capacity : tasks.checkLimit concurrency with
        | error crash => exact Or.inl ⟨_, fun calls => ⟨rfl, rfl⟩⟩
        | ok _ =>
          obtain ⟨declared, rfl⟩ := ownersFrom_filter_eq_ok_iff.mp checked
          have dynamic : ∃ segment ∈ chain, segment.isDynamic = true := by
            simpa using static
          have ran (records : List ParamRecord) (calls : List Call) :
              expandChain (tasks.overrun concurrency) otherOwners other records calls
                = expandChain (tasks.overrun concurrency) (ownersOf chain) other records
                    calls := by
            rw [← expandChain_bare, ← sameOwners, expandChain_bare]
          have paths (records : List ParamRecord) :
              pathsOf otherOwners records = pathsOf (ownersOf chain) records := by
            rw [← pathsOf_bare, ← sameOwners, pathsOf_bare]
          refine Or.inr ⟨⟨dynamic, declared, onRequest, capacity⟩, fun calls => ⟨rfl, ?_⟩⟩
          rw [ran]
          simp only [paths]
          rfl

end Expansion

end Prerender
