import Prerender.Segment

/-!
# Rendering policy

`Policy.ofChain` folds what the segments of a chain declare, from the root to the leaf, into the
policy of the route:

* the way of rendering that is demanded most strongly, by whatever segment;
* for revalidation the least number declared behind the last "never", or "never" if there is
  none;
* parameters that were not enumerated are served unless some segment forbids it;
* partial prerendering as the mode of the build and the segments' opt-ins allow it;
* of region, caching and duration the declaration nearest to the leaf.
-/

namespace Prerender

/-- How a route is rendered. -/
inductive RenderMode where
  | static
  | dynamic
  | forceStatic
  | forceDynamic
deriving DecidableEq, Repr

/-- The name of a way of rendering. -/
def RenderMode.name : RenderMode → String
  | .static => "static"
  | .dynamic => "dynamic"
  | .forceStatic => "force-static"
  | .forceDynamic => "force-dynamic"

/-- How far a build uses partial prerendering. -/
inductive PprMode where
  | off
  /-- Only for routes that opt in. -/
  | incremental
  | on
deriving DecidableEq, Repr

/-- Reads the mode from a setting: only the truth value false turns partial prerendering off, and
all else but the word for the incremental mode turns it on. -/
def PprMode.ofValue : Value → PprMode
  | .bool false => .off
  | .text "incremental" => .incremental
  | _ => .on

/-- The rendering policy of a route. -/
structure Policy where
  mode : RenderMode := .static
  revalidate : Revalidate := .never
  pprEligible : Bool := false
  /-- Whether parameters that were not enumerated are served. -/
  dynamicParams : Bool := true
  fetchCache : Option FetchCache := none
  preferredRegion : Option Region := none
  maxDuration : Option Number := none
deriving DecidableEq, Repr

namespace Policy

/-- What the segments of a chain declare of a setting, from the root to the leaf. -/
def declaredIn {α : Type} (setting : SegmentConfig → Option α) (chain : List Segment) : List α :=
  chain.filterMap fun segment => segment.config.bind setting

/-- One more declaration on revalidation. "Never" resets what came before; a number replaces
"never", and of two numbers the lesser one stays, the earlier one if they are equal. -/
def revalidateStep : Option Revalidate → Revalidate → Option Revalidate
  | _, .never => some .never
  | some (.after current), .after value => some (.after (current.least value))
  | _, .after value => some (.after value)

/-- When the pages of a route have to be made anew. -/
def revalidateOf (chain : List Segment) : Revalidate :=
  ((declaredIn (·.revalidate) chain).foldl revalidateStep none).getD .never

/-- How a route is rendered. -/
def modeOf (chain : List Segment) : RenderMode :=
  let declared := declaredIn (·.dynamic) chain
  if declared.contains .forceDynamic then .forceDynamic
  else if declared.contains .forceStatic || declared.contains .error then .forceStatic
  else if chain.any fun segment => segment.isDynamic || segment.generator.isSome then .dynamic
  else .static

/-- Whether a route may be prerendered in part. -/
def pprEligibleOf (mode : PprMode) (chain : List Segment) : Bool :=
  let optIns := declaredIn (·.experimentalPpr) chain
  match mode with
  | .off => false
  | .incremental => !optIns.contains false && optIns.contains true
  | .on => !optIns.contains false

/-- Whether parameters that were not enumerated are served. -/
def dynamicParamsOf (chain : List Segment) : Bool :=
  !(declaredIn (·.dynamicParams) chain).contains false

/-- The policy that the segments of a chain amount to. -/
def ofChain (ppr : PprMode) (chain : List Segment) : Policy where
  mode := modeOf chain
  revalidate := revalidateOf chain
  pprEligible := pprEligibleOf ppr chain
  dynamicParams := dynamicParamsOf chain
  fetchCache := (declaredIn (·.fetchCache) chain).getLast?
  preferredRegion := (declaredIn (·.preferredRegion) chain).getLast?
  maxDuration := (declaredIn (·.maxDuration) chain).getLast?

end Policy

/-- What the expansion of a chain has to know of the policy of its route. When pages have to be made
anew is of a type `ρ` that is left open: it is handed on as it is. -/
structure ExpansionPolicy (ρ : Type) where
  mode : RenderMode
  revalidate : ρ
  dynamicParams : Bool
deriving DecidableEq, Repr

/-- What the expansion of a chain has to know of a policy. -/
def Policy.forExpansion (policy : Policy) : ExpansionPolicy Revalidate :=
  ⟨policy.mode, policy.revalidate, policy.dynamicParams⟩

end Prerender
