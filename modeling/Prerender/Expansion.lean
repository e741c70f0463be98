import Prerender.Expansion.Merge
import Prerender.Pathname
import Prerender.Policy

/-!
# Expansion of a chain into static paths

`expand` enumerates the parameters of a chain of segments. It keeps a list of records, at first
the empty one, and goes down the chain: at a segment with a generator it calls that for each
record in turn and puts the records it gives in its place. The records at the end that bind every
parameter are the paths.

Before any call, every dynamic segment has to have a parameter, and no two of them the same one.
Nothing is called if there is no dynamic segment or if the policy demands rendering on request.

The records of a level are tasks of one group. The first one that fails ends the group, but some of
those behind it may be under way and are still gone through. Reported errors of theirs are dropped;
but as soon as a task of the group lets out any other exception, the group ends with that, as a
group of exceptions. How many tasks still run is up to the library that runs them, and so is the
number of calls that may be in flight: see `TaskLibrary`.
-/

namespace Prerender

/-- What happens to a request whose parameters are not among the enumerated ones. -/
inductive Fallback where
  /-- It is not found. -/
  | notFound
  /-- A fallback shell is served first. -/
  | shell
  /-- It waits for the page to be rendered. -/
  | blocking
deriving DecidableEq, Repr

/-- The enumerated paths of a route. When they have to be made anew is said by a value of type
`ρ`. -/
structure StaticPaths (ρ : Type) where
  /-- A record for each path. -/
  paths : List ParamRecord := []
  fallback : Fallback := .notFound
  revalidate : ρ
  /-- The paths as concrete URL paths, in the same order. -/
  pathnames : List String := []
deriving DecidableEq, Repr

/-- At least one call may be in flight at once. -/
def Expansion.AllowsCalls (concurrency : Value) : Prop :=
  (∃ count : Int, 1 ≤ count ∧ concurrency.numeric? = some (.int count))
    ∨ concurrency.numeric? = some (.float (.infinite false))

/-- The library that runs tasks side by side, as far as an expansion depends on it. -/
structure TaskLibrary where
  /-- Checks how many calls may be in flight at once. -/
  checkLimit : Value → Except Crash Unit
  /-- Any whole number from one on is accepted, and the lack of a bound. -/
  checkLimit_of_allowsCalls : ∀ concurrency, Expansion.AllowsCalls concurrency →
    checkLimit concurrency = .ok ()
  /-- How many of the tasks behind the first one that fails still run, if so many calls may be in
  flight at once and there are that many tasks behind it. -/
  overrun : Value → Nat → Nat

namespace TaskLibrary

/-- A library that asks for at least one call in flight, as a whole number or without bound, and
that lets as many tasks behind a failing one run as may be in flight. -/
def standard : TaskLibrary where
  checkLimit concurrency :=
    match concurrency.numeric? with
    | none => .error (.notNumeric concurrency.qualifiedTypeName)
    | some (.int count) => if count < 1 then .error .noCapacity else .ok ()
    | some (.float (.infinite negative)) => if negative then .error .noCapacity else .ok ()
    | some (.float _) => .error .fractionalCapacity
  checkLimit_of_allowsCalls concurrency allowed := by
    rcases allowed with ⟨count, positive, isCount⟩ | unbounded
    · simp only [isCount]
      exact if_neg (by omega)
    · simp only [unbounded]
      rfl
  overrun concurrency behind :=
    match concurrency.numeric? with
    | some (.int count) => min count.toNat behind
    | _ => behind

end TaskLibrary

namespace Expansion

variable {σ ρ : Type}

/-- The dynamic segments of a chain under the names of their parameters. A segment without a
parameter and a name declared before are errors; the first segment at fault decides. -/
def ownersFrom (owners : Owners σ) : List (SegmentWith σ) → Except Failure (Owners σ)
  | [] => .ok owners
  | segment :: rest =>
    match segment.paramName? with
    | none => .error (.structural (.unnamedParam segment.describe))
    | some name =>
      match owners.lookup? name with
      | some first =>
        .error (.conflict first.describe segment.describe
          (.declaredTwice name first.describe segment.describe))
      | none => ownersFrom (owners.assign name segment) rest

/-- What happens to requests for other parameters under a policy. -/
def fallbackOf (policy : ExpansionPolicy ρ) (fallbackShells : Bool) : Fallback :=
  if !policy.dynamicParams then .notFound
  else if fallbackShells then .shell
  else .blocking

/-- The records that a segment's generator gives for one record. -/
def expandRecord (segment : SegmentWith σ) (owners : Owners σ) (record : ParamRecord)
    (calls : List Call) : Except Raised (List ParamRecord) × List Call :=
  match segment.generate record calls with
  | (.error raised, calls) => (.error raised, calls)
  | (.ok items, calls) => ((segment.merge record items owners).mapError Raised.leaving, calls)

/-- Goes through records behind one that failed, and keeps the exceptions that are let out. -/
def expandFurther (segment : SegmentWith σ) (owners : Owners σ) :
    List ParamRecord → List Call → List Crash × List Call
  | [], calls => ([], calls)
  | record :: rest, calls =>
    let (outcome, calls) := expandRecord segment owners record calls
    let (crashes, calls) := expandFurther segment owners rest calls
    match outcome with
    | .error (.crash crash) => (crash :: crashes, calls)
    | _ => (crashes, calls)

/-- What a group of tasks ends with, by what failed first and the exceptions let out behind it. -/
def groupEnd : Raised → List Crash → Raised
  | .failure report, [] => .failure report
  | .failure _, first :: others => .crash (.group first others.length)
  | .crash first, others => .crash (.group first others.length)

/-- The records that a segment's generator gives for several records, in their order. The first one
that fails ends it; `overrun` tells how many of so many behind it are gone through all the same. -/
def expandLevel (overrun : Nat → Nat) (segment : SegmentWith σ) (owners : Owners σ) :
    List ParamRecord → List Call → Except Raised (List ParamRecord) × List Call
  | [], calls => (.ok [], calls)
  | record :: rest, calls =>
    match expandRecord segment owners record calls with
    | (.error raised, calls) =>
      let (crashes, calls) :=
        expandFurther segment owners (rest.take (overrun rest.length)) calls
      (.error (groupEnd raised crashes), calls)
    | (.ok here, calls) =>
      match expandLevel overrun segment owners rest calls with
      | (.error raised, calls) => (.error raised, calls)
      | (.ok behind, calls) => (.ok (here ++ behind), calls)

/-- The records at the end of a chain. Segments without a generator pass them on. -/
def expandChain (overrun : Nat → Nat) (owners : Owners σ) :
    List (SegmentWith σ) → List ParamRecord → List Call →
      Except Raised (List ParamRecord) × List Call
  | [], records, calls => (.ok records, calls)
  | segment :: rest, records, calls =>
    match segment.generator with
    | none => expandChain overrun owners rest records calls
    | some _ =>
      match expandLevel overrun segment owners records calls with
      | (.error raised, calls) => (.error raised, calls)
      | (.ok records, calls) => expandChain overrun owners rest records calls

/-- Whether a record binds every parameter of a chain and nothing else. -/
def isComplete (owners : Owners σ) (record : ParamRecord) : Bool :=
  owners.names.all record.binds && record.names.all owners.binds

/-- Records without those that bind the same as an earlier one, or as one already seen. -/
def distinctFrom (seen : List ParamRecord) : List ParamRecord → List ParamRecord
  | [] => []
  | record :: rest =>
    if seen.any record.sameBindings then distinctFrom seen rest
    else record :: distinctFrom (record :: seen) rest

/-- The paths among the records at the end of a chain. -/
def pathsOf (owners : Owners σ) (records : List ParamRecord) : List ParamRecord :=
  distinctFrom [] (records.filter (isComplete owners))

/-- The concrete URL paths of some records; none if there is no pathname to fill in. -/
def pathnamesOf (pathname : Option String) (paths : List ParamRecord) :
    Except Crash (List String) :=
  match pathname with
  | none => .ok []
  | some pathname => paths.mapM (Pathname.interpolate pathname)

end Expansion

open Expansion in
/-- Enumerates the static paths of a chain of segments under a policy, behind the given calls.
`fallbackShells` tells whether a shell can be served for other parameters; `concurrency` is how
many calls may be in flight at once. -/
def expand {σ ρ : Type} (tasks : TaskLibrary) (chain : List (SegmentWith σ))
    (policy : ExpansionPolicy ρ) (pathname : Option String) (fallbackShells : Bool)
    (concurrency : Value) (calls : List Call) : Except Raised (StaticPaths ρ) × List Call :=
  let dynamic := chain.filter (·.isDynamic)
  if dynamic.isEmpty then (.ok { revalidate := policy.revalidate }, calls)
  else match ownersFrom [] dynamic with
    | .error failure => (.error (.failure failure), calls)
    | .ok owners =>
      let fallback := fallbackOf policy fallbackShells
      if policy.mode = .forceDynamic then
        (.ok { fallback, revalidate := policy.revalidate }, calls)
      else match tasks.checkLimit concurrency with
        | .error crash => (.error (.crash crash), calls)
        | .ok () =>
          match expandChain (tasks.overrun concurrency) owners chain [[]] calls with
          | (.error raised, calls) => (.error raised, calls)
          | (.ok records, calls) =>
            let paths := pathsOf owners records
            match pathnamesOf pathname paths with
            | .error crash => (.error (.crash crash), calls)
            | .ok pathnames =>
              (.ok { paths, fallback, revalidate := policy.revalidate, pathnames }, calls)

end Prerender
