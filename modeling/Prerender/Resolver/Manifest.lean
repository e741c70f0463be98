import Prerender.Resolver.Resolution

/-!
# The manifest of a build

`Loader.manifest` resolves a list of routes and files each outcome under the id of its route: what
was resolved, or the error that was reported. An id that is resolved again has its entry of that
kind replaced, and keeps the other one. Only an exception that is not a reported error ends the
build.

`Manifest.toJson` orders the entries by id, so the text does not depend on the order of the ids.
-/

namespace Prerender

/-- The outcomes of a build by route id. -/
structure Manifest where
  routes : Bindings ResolvedRoute := []
  errors : Bindings Failure := []
deriving DecidableEq, Repr

namespace Manifest

/-- Whether nothing failed. -/
def isOk (manifest : Manifest) : Bool :=
  manifest.errors.isEmpty

/-- A manifest as JSON: the routes, and the texts of the errors, ordered by id. -/
def toJson (manifest : Manifest) : Json :=
  .object [
    ("version", .number (.int 1)),
    ("routes", .object (manifest.routes.sorted.map fun (id, route) => (id, route.toJson))),
    ("errors", .object (manifest.errors.sorted.map fun (id, error) => (id, .text error.text)))]

/-- The text of a manifest. -/
def text (layout : Json.Layout) (manifest : Manifest) : String :=
  manifest.toJson.render layout

/-- Writes a manifest as text, if all of its numbers can be written. -/
def write (layout : Json.Layout) (manifest : Manifest) : Except Crash String :=
  if manifest.toJson.isWritable then .ok (manifest.text layout)
  else .error (.digitLimit Number.digitLimit)

/-- How the text of a manifest is laid out where nothing is said: two blanks for each level. -/
def defaultLayout : Json.Layout := .lines "  "

/-- Whether an index of 64 bits can hold a count. -/
def fitsIndex (count : Int) : Bool :=
  -0x8000000000000000 ≤ count && count ≤ 0x7fffffffffffffff

/-- The layout that an indent asks for: one line if there is none, and else the text itself or that
many blanks for each level, a negative number giving none. -/
def layoutOf (indent : Value) : Except Crash Json.Layout :=
  match indent with
  | .none => .ok .oneLine
  | .text unit => .ok (.lines unit)
  | indent =>
    match indent.numeric? with
    | some (.int count) =>
      if fitsIndex count then .ok (.lines (String.ofList (List.replicate count.toNat ' ')))
      else .error .countOverflow
    | _ => .error (.notCount indent.qualifiedTypeName)

end Manifest

namespace Loader

variable {σ : Type}

/-- Resolves routes one after the other and adds their outcomes to a manifest. -/
def manifestFrom (loader : Loader σ) (tasks : TaskLibrary) (config : ResolverConfig)
    (manifest : Manifest) : List String → Session σ → Except Crash Manifest × Session σ
  | [], session => (.ok manifest, session)
  | routeId :: rest, session =>
    match loader.resolve tasks routeId config session with
    | (.ok resolved, session) =>
      let manifest := { manifest with routes := manifest.routes.assign routeId resolved }
      loader.manifestFrom tasks config manifest rest session
    | (.error (.failure report), session) =>
      let manifest := { manifest with errors := manifest.errors.assign routeId report }
      loader.manifestFrom tasks config manifest rest session
    | (.error (.crash exception), session) => (.error exception, session)

/-- Resolves the routes of a build. -/
def manifest (loader : Loader σ) (tasks : TaskLibrary) (routeIds : List String)
    (config : ResolverConfig) (session : Session σ) : Except Crash Manifest × Session σ :=
  loader.manifestFrom tasks config {} routeIds session

end Loader

end Prerender
