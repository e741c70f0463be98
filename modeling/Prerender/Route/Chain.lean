import Prerender.Pathname
import Prerender.Route

/-!
# The segment chain of a route

`Route.chain` gives the segments of a route that matter to static generation, from the root to the
leaf. A handler has a segment for each piece of its pathname, and its module stands behind the
last one. A page has one for each level along the primary branches of its tree; other branches
never count.
-/

namespace Prerender

/-- The role of a path component. Brackets that declare no parameter are an error. -/
def RouteStep.role (routeId name : String) : Except Failure SegmentRole :=
  if isBracketed name then
    match SegmentParam.parse? name with
    | some param => .ok (.dynamic (some param))
    | none => .error (.structural (.invalidComponent name routeId))
  else .ok .static

/-- The segment of a name and a role that a module stands behind. Of a client module only the file
is known. -/
def RouteStep.backedSegment (name : String) (role : SegmentRole) (backing : LoadedModule) :
    Segment :=
  if Exports.isClient backing.exports then { name, role, sourcePath := backing.path }
  else {
    name
    role
    sourcePath := backing.path
    config := Exports.config? backing.exports
    generator := (Exports.generator? backing.exports).map .callable }

/-- The segment that a step gives. -/
def RouteStep.segment (routeId : String) (step : RouteStep) : Except Raised Segment := do
  let role ← (RouteStep.role routeId step.name).mapError .failure
  match step.backing with
  | none => return { name := step.name, role }
  | some backing =>
    match Exports.raised? backing.exports with
    | some raised => throw raised.leaving
    | none => return RouteStep.backedSegment step.name role backing

/-- The steps with these names, a module standing behind the last one. -/
def RouteStep.endingIn (module : LoadedModule) : List String → List RouteStep
  | [] => []
  | [name] => [⟨name, some module⟩]
  | name :: names => ⟨name, none⟩ :: RouteStep.endingIn module names

/-- The steps of a handler's route: the pieces of its pathname behind the first slash. -/
def Handler.steps (handler : Handler) : Except Failure (List RouteStep) :=
  match (Pathname.pieces handler.pathname).drop 1 with
  | [] => .error (.structural (.noComponents handler.routeId))
  | names => .ok (RouteStep.endingIn handler.module names)

/-- The segments that steps give, those left out that do not matter to static generation. -/
def RouteStep.chain (routeId : String) (steps : List RouteStep) :
    Except Raised (List Segment) := do
  let segments ← steps.mapM (RouteStep.segment routeId)
  return segments.filter (·.contributes)

/-- The segments of a route, from the root to the leaf. Only handlers and pages have them. -/
def Route.chain : Route → Except Raised (List Segment)
  | .handler route => do
    let steps ← route.steps.mapError .failure
    RouteStep.chain route.routeId steps
  | .page route => RouteStep.chain route.routeId route.root.primarySteps
  | .listed _ => .error (.failure (.structural (.noSegmentChain "PagesRoute")))
  | .unknown _ object => .error (.failure (.structural (.noSegmentChain object.typeName)))

end Prerender
