import Prerender.Proofs.PagePaths.Escaping
import Prerender.Proofs.Resolver.Build
import Prerender.Proofs.Resolver.Failing

/-!
# Exceptions that resolving lets out

Resolving reports what the library finds at fault and what user functions raise. `Route.Escapes`
lists what it does not report:

* exports that raise something when they are read;
* the group of exceptions that a run down a chain ends with;
* a path whose record lacks a parameter of the route's pathname;
* an exception of a path function that raises something itself when its text is asked for;
* what comes of reading the answer of a path function, apart from its being refused.

Both `Route.resolve_eq_crash_iff` and `Loader.resolve_eq_crash_iff` say that nothing else escapes,
and `Loader.manifest_isOk_iff` that a build has a manifest exactly if nothing escapes at any visit.
-/

namespace Prerender

open Expansion
open PagePaths (Listing ListingEscapes EntryEscapes readListing readEntry)

/-! ### Filling in the paths of a chain -/

namespace Expansion

end Expansion

/-! ### One route -/

namespace Route

/-- Resolving a route behind some calls lets an exception out. -/
inductive Escapes (tasks : TaskLibrary) (config : ResolverConfig) (calls : List Call) :
    Route → Crash → Prop where
  /-- Collecting the chain comes to exports that raise something. -/
  | exports {route : Route} {steps : List RouteStep} {crash : Crash}
      (hasSteps : HasSteps route steps) (escapes : RouteStep.Escapes steps crash) :
    Escapes tasks config calls route crash
  /-- The run down the chain ends with a group of exceptions. -/
  | group {chain : List Segment} {route : Route} {kind : RouteKind} {routeId : String}
      {crash : Crash} (hasChain : HasChain chain route kind routeId)
      (runs : Runs tasks config kind chain)
      (stops : Stops (overrun tasks config) chain calls (.crash crash)) :
    Escapes tasks config calls route crash
  /-- There are paths, and the pathname has a parameter that the chain does not have. -/
  | unfilled {chain : List Segment} {route : Route} {kind : RouteKind} {routeId name : String}
      {records : List ParamRecord} {log : List Call} (hasChain : HasChain chain route kind routeId)
      (runs : Runs tasks config kind chain)
      (ran : expandChain (overrun tasks config) (ownersOf chain) chain [[]] calls
        = (.ok records, log))
      (enumerates : pathsOf (ownersOf chain) records ≠ [])
      (lacking : Pathname.unfilled? (fun name => decide (name ∈ paramNames chain))
        (Pathname.pattern route.pathname) = some name) :
    Escapes tasks config calls route (.missingParam name)
  /-- The exports of a listed page raise something. -/
  | pageExports {page : ListedPage} {params : List SegmentParam} {raised : Raised} {crash : Crash}
      (declared : page.params = .ok params) (dynamic : params ≠ [])
      (unread : Exports.raised? page.module.exports = some raised)
      (letsOut : raised.leaving = .crash crash) : Escapes tasks config calls (.listed page) crash
  /-- The path function raises an exception that raises another one when its text is asked for. -/
  | text {page : ListedPage} {params : List SegmentParam} {function : UserFunction}
      {raised : Raised} {exception instead : Crash}
      (answers : page.Answers config.locales calls params function (.error raised))
      (isCrash : raised.leaving = .crash exception)
      (unwritten : exception.text = .error (.crash instead)) :
    Escapes tasks config calls (.listed page) instead.leaving
  /-- Reading what the path function answers with lets an exception out. -/
  | listing {page : ListedPage} {params : List SegmentParam} {function : UserFunction}
      {answer : Value} {crash : Crash}
      (answers : page.Answers config.locales calls params function (.ok answer))
      (escapes : ListingEscapes answer crash) :
    Escapes tasks config calls (.listed page) crash.leaving
  /-- The first entry of a listing that is not read lets an exception out. -/
  | entry {page : ListedPage} {params : List SegmentParam} {function : UserFunction}
      {answer entry : Value} {listing : Listing} {before after : List Value} {crash : Crash}
      (answers : page.Answers config.locales calls params function (.ok answer))
      (accepted : readListing page answer = .ok listing)
      (split : listing.entries = before ++ entry :: after)
      (read : ∀ value ∈ before,
        ∃ entry, readEntry page params config.locales.all value = .ok entry)
      (escapes : EntryEscapes params config.locales.all entry crash) :
    Escapes tasks config calls (.listed page) crash.leaving

variable {tasks : TaskLibrary} {config : ResolverConfig} {calls : List Call} {route : Route}
  {crash : Crash}

end Route

/-! ### Builds -/

namespace Loader

variable {σ : Type}

/-- An exception of the loader, which is reported, raises another one when its text is asked for;
or resolving what was loaded lets an exception out. -/
inductive Escapes (loader : Loader σ) (tasks : TaskLibrary) (routeId : String)
    (config : ResolverConfig) (session : Session σ) : Crash → Prop where
  | text {exception instead : Crash}
      (raised : (loader.load routeId session.loader).1 = .error (.crash exception))
      (unwritten : exception.text = .error (.crash instead)) :
    Escapes loader tasks routeId config session instead.leaving
  | route {route : Route} {crash : Crash}
      (loaded : (loader.load routeId session.loader).1 = .ok route)
      (escapes : route.Escapes tasks config session.calls crash) :
    Escapes loader tasks routeId config session crash

end Loader

end Prerender
