import Prerender.Segment.Config
import Prerender.Text.Blank

/-!
# Exports of user modules

What a build reads from a module's exports: its segment configuration, the function that
generates its parameters, the function that lists its paths, and whether it is for clients only.
Exports that are no namespace (no mapping, object or module) hold nothing, and reading those that
are fails only if they are a mapping that raises something when it is read (`Exports.raised?`).
-/

namespace Prerender

/-- The names that exports bind, if exports are a namespace. -/
def Value.namespace? : Value → Option (Bindings Value)
  | .mapping entries => some (Entries.named entries)
  | .object fields => some fields
  | .moduleObject fields => some fields
  | _ => Option.none

namespace Exports

/-- What reading exports raises, if they cannot be read. -/
def raised? : Value → Option Raised
  | .unreadable _ _ raised => some raised
  | _ => none

/-- The value that exports bind to a name. -/
def get? (exports : Value) (name : String) : Option Value := do
  let bindings ← exports.namespace?
  bindings.lookup? name

/-- The function that exports bind to a name, if it is one. -/
def function? (exports : Value) (name : String) : Option UserFunction := do
  let value ← get? exports name
  value.function?

/-- The segment configuration that a module declares. -/
def config? (exports : Value) : Option SegmentConfig := do
  let bindings ← exports.namespace?
  SegmentConfig.parse? bindings

/-- The function of a module that generates the parameters of its segment. -/
def generator? (exports : Value) : Option UserFunction :=
  function? exports generatorName

/-- The function of a page module that lists the paths of its page. -/
def pathsFunction? (exports : Value) : Option UserFunction :=
  function? exports pathsFunctionName

/-- Whether a module is for clients only: it says so by a mark of its own or by a doc text that
reads "use client". Such modules are opaque to a build. -/
def isClient (exports : Value) : Bool :=
  match get? exports "__client__", get? exports "__doc__" with
  | some (.bool true), _ => true
  | _, some (.text doc) => String.ofList (Text.trim doc.toList) = "use client"
  | _, _ => false

end Exports

end Prerender
