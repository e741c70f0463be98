import Prerender.Proofs.PagePaths.Escaping
import Prerender.Proofs.Resolver.Failing

/-!
# How failures are reported

Whatever resolving a route fails with (`Loader.Fails`) is reported as it is, attributed to the route
unless it was attributed before (`Failure.ArrivesAs`), so that it is attributed once however many
resolutions it passes through. Exceptions of the loader and of user functions are to be turned into
failures where they are raised, with the exception as the cause (`Raised.AmountsTo`). They are not
if an exception has no text, if it is the end of an iteration, which no coroutine lets out, or if
another task of the same group lets an exception out; and what a mapping raises when it is read is
left alone. The main statement is `Loader.resolve_attributes`.
-/

namespace Prerender

open Expansion
open PagePaths (Listing readListing readEntries readEntry)

/-! ### Attribution -/

attribute [ext] Failure

/-- What was raised amounts to a failure: a reported error to itself, and any other exception to a
failure of some kind of which it is the cause. -/
inductive Raised.AmountsTo (kind : FailureKind) : Raised → Failure → Prop where
  | reported (report : Failure) : AmountsTo kind (.failure report) report
  | foreign {exception : Crash} {note : ExceptionNote} {failure : Failure}
      (noted : (Raised.crash exception).note = .ok note) (ofKind : failure.kind = kind)
      (cause : failure.cause = some note) : AmountsTo kind (.crash exception) failure

namespace Failure

variable {failure report : Failure} {routeId : String}

end Failure

/-! ### Wrapping -/

namespace Wraps

variable {kind : FailureKind} {report : ExceptionNote → Failure} {raisedAs : Raised → Raised}

end Wraps

/-! ### What user code raises -/

namespace Route

variable {tasks : TaskLibrary} {config : ResolverConfig} {calls : List Call} {route : Route}
  {name : String} {path : Option String} {raised : Raised} {behind : List Crash}

end Route

/-! ### Loading -/

namespace Loader

variable {σ τ : Type}

variable {loader : Loader σ} {tasks : TaskLibrary} {routeId : String} {config : ResolverConfig}
  {session : Session σ} {kind : FailureKind} {raised ended : Raised}

section Loaded

variable {route : Route} {name : String} {path : Option String} {behind : List Crash}

end Loaded

end Loader

end Prerender
