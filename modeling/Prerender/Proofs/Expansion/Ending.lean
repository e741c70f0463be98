import Prerender.Proofs.Expansion.Owners

/-!
# How an expansion ends

An expansion has one of seven endings (`Ends`): it has nothing to enumerate, it is refused before
any call, or it runs down the chain and fails there, cannot fill in the pathname, or gives its
paths. `expand_ends` says that there are no others; what holds of every expansion is proved ending
by ending.
-/

namespace Prerender

namespace Expansion

variable {σ ρ : Type} {tasks : TaskLibrary}

/-- An expansion may run down its chain: there is something to enumerate, the parameters are
declared well, the policy does not demand rendering on request, and calls may be in flight. -/
structure MayRun (tasks : TaskLibrary) (chain : List (SegmentWith σ)) (mode : RenderMode)
    (concurrency : Value) : Prop where
  dynamic : ∃ segment ∈ chain, segment.isDynamic = true
  declared : WellDeclared chain
  onRequest : mode ≠ .forceDynamic
  capacity : tasks.checkLimit concurrency = .ok ()

/-- How an expansion behind some calls ends, and the calls that it leaves behind. -/
inductive Ends (tasks : TaskLibrary) (chain : List (SegmentWith σ)) (policy : ExpansionPolicy ρ)
    (pathname : Option String) (fallbackShells : Bool) (concurrency : Value) (calls : List Call) :
    Except Raised (StaticPaths ρ) × List Call → Prop where
  /-- There is nothing to enumerate. -/
  | static (static : ∀ segment ∈ chain, segment.isDynamic = false) :
    Ends tasks chain policy pathname fallbackShells concurrency calls
      (.ok { revalidate := policy.revalidate }, calls)
  /-- The parameters are not declared well. -/
  | undeclared {failure : Failure}
      (refused : ownersFrom [] (chain.filter (·.isDynamic)) = .error failure) :
    Ends tasks chain policy pathname fallbackShells concurrency calls
      (.error (.failure failure), calls)
  /-- The policy demands rendering on request. -/
  | onRequest (dynamic : ∃ segment ∈ chain, segment.isDynamic = true)
      (demanded : policy.mode = .forceDynamic) :
    Ends tasks chain policy pathname fallbackShells concurrency calls
      (.ok { fallback := fallbackOf policy fallbackShells, revalidate := policy.revalidate }, calls)
  /-- No call may be in flight. -/
  | noCapacity {crash : Crash} (refused : tasks.checkLimit concurrency = .error crash) :
    Ends tasks chain policy pathname fallbackShells concurrency calls (.error (.crash crash), calls)
  /-- A call or a merge fails. -/
  | failed {raised : Raised} {log : List Call} (runs : MayRun tasks chain policy.mode concurrency)
      (ran : expandChain (tasks.overrun concurrency) (ownersOf chain) chain [[]] calls
        = (.error raised, log)) :
    Ends tasks chain policy pathname fallbackShells concurrency calls (.error raised, log)
  /-- A path does not fill in the pathname. -/
  | unfilled {records : List ParamRecord} {crash : Crash} {log : List Call}
      (runs : MayRun tasks chain policy.mode concurrency)
      (ran : expandChain (tasks.overrun concurrency) (ownersOf chain) chain [[]] calls
        = (.ok records, log))
      (unfilled : pathnamesOf pathname (pathsOf (ownersOf chain) records) = .error crash) :
    Ends tasks chain policy pathname fallbackShells concurrency calls (.error (.crash crash), log)
  /-- The paths are enumerated. -/
  | enumerated {records : List ParamRecord} {pathnames : List String} {log : List Call}
      (runs : MayRun tasks chain policy.mode concurrency)
      (ran : expandChain (tasks.overrun concurrency) (ownersOf chain) chain [[]] calls
        = (.ok records, log))
      (filled : pathnamesOf pathname (pathsOf (ownersOf chain) records) = .ok pathnames) :
    Ends tasks chain policy pathname fallbackShells concurrency calls
      (.ok
        { paths := pathsOf (ownersOf chain) records
          fallback := fallbackOf policy fallbackShells
          revalidate := policy.revalidate
          pathnames },
        log)

theorem filter_isDynamic_isEmpty_iff {chain : List (SegmentWith σ)} :
    (chain.filter (·.isDynamic)).isEmpty = true
      ↔ ∀ segment ∈ chain, segment.isDynamic = false := by
  simp [List.isEmpty_iff, List.filter_eq_nil_iff]

/-- Every expansion has one of these endings. -/
theorem expand_ends (tasks : TaskLibrary) (chain : List (SegmentWith σ))
    (policy : ExpansionPolicy ρ) (pathname : Option String) (fallbackShells : Bool)
    (concurrency : Value) (calls : List Call) :
    Ends tasks chain policy pathname fallbackShells concurrency calls
      (expand tasks chain policy pathname fallbackShells concurrency calls) := by
  unfold expand
  simp only
  split
  · next none => exact .static (filter_isDynamic_isEmpty_iff.mp none)
  next some =>
    have dynamic : ∃ segment ∈ chain, segment.isDynamic = true := by
      rw [filter_isDynamic_isEmpty_iff] at some
      push Not at some
      simpa using some
    cases checked : ownersFrom [] (chain.filter (·.isDynamic)) with
    | error failure => exact .undeclared checked
    | ok owners =>
      obtain ⟨declared, rfl⟩ := ownersFrom_filter_eq_ok_iff.mp checked
      simp only
      split
      · next demanded => exact .onRequest dynamic demanded
      next onRequest =>
        cases capacity : tasks.checkLimit concurrency with
        | error crash => exact .noCapacity capacity
        | ok _ =>
          have runs : MayRun tasks chain policy.mode concurrency :=
            ⟨dynamic, declared, onRequest, capacity⟩
          simp only
          cases ran : expandChain (tasks.overrun concurrency) (ownersOf chain) chain [[]] calls with
          | mk outcome log =>
            cases outcome with
            | error raised => exact .failed runs ran
            | ok records =>
              simp only
              cases filled : pathnamesOf pathname (pathsOf (ownersOf chain) records) with
              | error crash => exact .unfilled runs ran filled
              | ok pathnames => exact .enumerated runs ran filled

/-- A result that is neither empty for want of dynamic segments nor left to requests was
enumerated: it has the paths among the records at the end of the chain. -/
theorem enumerated_of_expand {chain : List (SegmentWith σ)} {policy : ExpansionPolicy ρ}
    {pathname : Option String} {fallbackShells : Bool} {concurrency : Value}
    {calls log : List Call} {result : StaticPaths ρ}
    (dynamic : ∃ segment ∈ chain, segment.isDynamic = true)
    (onRequest : policy.mode ≠ .forceDynamic)
    (expanded : expand tasks chain policy pathname fallbackShells concurrency calls
      = (.ok result, log)) :
    WellDeclared chain
      ∧ ∃ records, expandChain (tasks.overrun concurrency) (ownersOf chain) chain [[]] calls
          = (.ok records, log)
        ∧ result.paths = pathsOf (ownersOf chain) records := by
  have ends := expand_ends tasks chain policy pathname fallbackShells concurrency calls
  rw [expanded] at ends
  cases ends with
  | static static =>
    obtain ⟨segment, inChain, isDynamic⟩ := dynamic
    rw [static segment inChain] at isDynamic
    cases isDynamic
  | onRequest _ demanded => exact absurd demanded onRequest
  | enumerated runs ran filled => exact ⟨runs.declared, _, ran, rfl⟩

end Expansion

end Prerender
