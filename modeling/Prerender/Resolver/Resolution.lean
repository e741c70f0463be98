import Prerender.Json
import Prerender.Resolver.Config
import Prerender.Route.Chain

/-!
# Resolution of a route

`Route.resolve` brings the parts together: the chain of a route gives its policy, and expanding the
chain under that policy gives its paths. A listed page has no chain; the module's own listing gives
its paths, and the policy follows from those.

`Loader.resolve` loads the route first. Whatever is reported on the way is attributed to the route;
exceptions of the loader are turned into failures, as long as their texts can be had.
-/

namespace Prerender

/-- The kinds of routes that can be resolved. -/
inductive RouteKind where
  | page
  | handler
  | listed
deriving DecidableEq, Repr

/-- The name of a kind of route. -/
def RouteKind.name : RouteKind → String
  | .page => "page"
  | .handler => "route"
  | .listed => "pages"

/-- What is known of a route at build time. -/
structure ResolvedRoute where
  routeId : String
  kind : RouteKind
  policy : Policy
  staticPaths : StaticPaths Revalidate
deriving DecidableEq, Repr

/-- A request for another path is answered "not found", by a shell, or after rendering. -/
def Fallback.toJson : Fallback → Json
  | .notFound => .bool false
  | .shell => .bool true
  | .blocking => .text "blocking"

/-- Revalidation as JSON: `false` or the number of seconds. -/
def Revalidate.toJson : Revalidate → Json
  | .never => .bool false
  | .after seconds => .number seconds

/-- A region as JSON: its name, or the list of names. -/
def Region.toJson : Region → Json
  | .one name => .text name
  | .several names => .array (names.map .text)

/-- A parameter's value as JSON: a text, a list of texts, or null. -/
def ParamValue.toJson : ParamValue → Json
  | .text content => .text content
  | .parts components => .array (components.map .text)
  | .absent => .null

/-- A record as JSON: an object in the order of the bindings. -/
def ParamRecord.toJson (record : ParamRecord) : Json :=
  .object (record.map fun (name, value) => (name, value.toJson))

/-- A value that may be missing as JSON: null where it is. -/
def Json.orNull {α : Type} (toJson : α → Json) : Option α → Json
  | none => .null
  | some value => toJson value

/-- A resolved route as JSON. -/
def ResolvedRoute.toJson (resolved : ResolvedRoute) : Json :=
  .object [
    ("kind", .text resolved.kind.name),
    ("dynamicMode", .text resolved.policy.mode.name),
    ("revalidate", resolved.policy.revalidate.toJson),
    ("pprEligible", .bool resolved.policy.pprEligible),
    ("dynamicParams", .bool resolved.policy.dynamicParams),
    ("fetchCache", Json.orNull (fun mode => .text mode.name) resolved.policy.fetchCache),
    ("preferredRegion", Json.orNull Region.toJson resolved.policy.preferredRegion),
    ("maxDuration", Json.orNull Json.number resolved.policy.maxDuration),
    ("fallback", resolved.staticPaths.fallback.toJson),
    ("paths", .array (resolved.staticPaths.paths.map ParamRecord.toJson)),
    ("pathnames", .array (resolved.staticPaths.pathnames.map .text))]

/-- The policy of a listed page that has parameters or not, and the given fallback. -/
def Policy.ofListing (hasParams : Bool) (fallback : Fallback) : Policy where
  mode := if hasParams then .dynamic else .static
  dynamicParams := !hasParams || fallback != .notFound

namespace Route

/-- Resolves a handler or a page of the given id and pathname by its chain. Partial prerendering
is for pages only. -/
def resolveChain (tasks : TaskLibrary) (kind : RouteKind) (routeId pathname : String)
    (chain : Except Raised (List Segment)) (config : ResolverConfig) (calls : List Call) :
    Except Raised ResolvedRoute × List Call :=
  match chain with
  | .error raised => (.error raised, calls)
  | .ok chain =>
    let ppr := if kind = .page then config.ppr.mode else .off
    let policy := Policy.ofChain ppr chain
    let fallbackShells := kind = .page && policy.pprEligible && config.pprFallbacks.isTruthy
    let (outcome, calls) :=
      expand tasks chain policy.forExpansion (some pathname) fallbackShells
        (.number (.int config.concurrency)) calls
    (outcome.map fun staticPaths => { routeId, kind, policy, staticPaths }, calls)

/-- Resolves a listed page. -/
def resolveListed (page : ListedPage) (config : ResolverConfig) (calls : List Call) :
    Except Raised ResolvedRoute × List Call :=
  let (outcome, calls) := page.staticPaths config.locales calls
  let resolved := do
    let staticPaths ← outcome
    let params ← page.params.mapError .failure
    let policy := Policy.ofListing (!params.isEmpty) staticPaths.fallback
    return { routeId := page.routeId, kind := .listed, policy, staticPaths }
  (resolved, calls)

/-- Resolves a route, behind the given calls. -/
def resolve (route : Route) (tasks : TaskLibrary) (config : ResolverConfig) (calls : List Call) :
    Except Raised ResolvedRoute × List Call :=
  match route with
  | .handler target =>
    resolveChain tasks .handler target.routeId target.pathname route.chain config calls
  | .page target =>
    resolveChain tasks .page target.routeId target.pathname route.chain config calls
  | .listed target => resolveListed target config calls
  | .unknown _ object =>
    (.error (.failure (.structural (.noSegmentChain object.typeName))), calls)

end Route

/-- Something that produces routes by their ids. It has a state, so that what it answers may
depend on what it was asked before. -/
structure Loader (σ : Type) where
  load : String → σ → Except Raised Route × σ

/-- What resolving routes leaves behind: the state of the loader and the calls of user
functions. -/
structure Session (σ : Type) where
  loader : σ
  calls : List Call

namespace Loader

variable {σ : Type}

/-- What an exception of a loader is raised as: a failure, if its text can be had. -/
def raisedAs (routeId : String) : Raised → Raised
  | .failure report => .failure report
  | .crash exception =>
    (Raised.crash exception).reportedAs (fun note =>
      .structural (.loadFailed routeId note.type note.text) (some note)) |>.leaving

/-- Attributes what was raised to a route, if it is a reported error. -/
def attributed (routeId : String) : Raised → Raised
  | .failure report => .failure (report.inRoute routeId)
  | .crash exception => .crash exception

/-- Loads and resolves a route. -/
def resolve (loader : Loader σ) (tasks : TaskLibrary) (routeId : String) (config : ResolverConfig)
    (session : Session σ) : Except Raised ResolvedRoute × Session σ :=
  let (loaded, state) := loader.load routeId session.loader
  match loaded with
  | .error raised =>
    (.error (attributed routeId (raisedAs routeId raised)), ⟨state, session.calls⟩)
  | .ok route =>
    let (outcome, calls) := route.resolve tasks config session.calls
    (outcome.mapError (attributed routeId), ⟨state, calls⟩)

end Loader

end Prerender
