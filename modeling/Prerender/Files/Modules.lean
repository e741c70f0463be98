import Prerender.Files.Tree
import Prerender.Resolver.Resolution

/-!
# Loading modules from files

A loader executes a file at most once with success: the exports of that execution are kept and
used for as long as there is a file of that path. An execution that raises is reported, or lets out
what the text of its exception raises, and nothing is kept of it.

`LoaderState` is what a loader of a directory remembers: what it discovered there, and its
modules.
-/

namespace Prerender

/-- The modules that a loader has executed. -/
structure ModuleCache where
  /-- The exports of files that were executed with success. -/
  modules : List (TreePath × Value) := []
  /-- Every file that was executed, in order, with success or not. -/
  executed : List TreePath := []

namespace ModuleCache

/-- The exports that are kept of a file. -/
def exports? (cache : ModuleCache) (file : TreePath) : Option Value :=
  (cache.modules.find? (·.1 = file)).map (·.2)

/-- Loads the module in a file below a root. There is none if the path is not that of a file. -/
def load (root : String) (here : Place) (file : TreePath) (cache : ModuleCache) :
    Except Raised (Option LoadedModule) × ModuleCache :=
  match here.find file with
  | .present (.file source) =>
    let shown := file.shown root
    match cache.exports? file with
    | some exports => (.ok (some ⟨some shown, exports⟩), cache)
    | none =>
      let executed := cache.executed ++ [file]
      match source.raised with
      | some raised =>
        let report := fun note : ExceptionNote =>
          Failure.structural (.importFailed shown note.type note.text) (some note)
        (.error (raised.reportedAs report), { cache with executed })
      | none =>
        let exports := Value.moduleObject source.exports
        (.ok (some ⟨some shown, exports⟩),
          { modules := cache.modules ++ [(file, exports)], executed })
  | _ => (.ok none, cache)

end ModuleCache

/-- What a loader of a directory remembers between loads. -/
structure LoaderState (α : Type) where
  /-- What was discovered, by route id, once discovery has succeeded. -/
  found : Option (Bindings α) := none
  modules : ModuleCache := {}

/-- A step of a loader: it may raise, and what it remembers is kept in any case. -/
abbrev Loading (α : Type) := ExceptT Raised (StateM (LoaderState α))

namespace Loading

variable {α : Type}

/-- Ends a load with a reported error. -/
def fail {β : Type} (fault : StructureFault) : Loading α β :=
  throw (.failure (.structural fault))

/-- Loads the module in a file below a root. -/
def module (root : String) (here : Place) (file : TreePath) :
    Loading α (Option LoadedModule) := do
  let state ← get
  let (outcome, modules) := state.modules.load root here file
  set { state with modules }
  match outcome with
  | .ok loaded => return loaded
  | .error raised => throw raised

/-- What is discovered in a directory: discovered now, or remembered if that succeeded before. -/
def discovered (discover : Except Raised (Bindings α)) : Loading α (Bindings α) := do
  let state ← get
  match state.found with
  | some found => return found
  | none =>
    match discover with
    | .ok found =>
      set { state with found := some found }
      return found
    | .error raised => throw raised

/-- The outcome of a step and what the loader remembers behind it. -/
def outcome {β : Type} (step : Loading α β) (state : LoaderState α) :
    Except Raised β × LoaderState α :=
  step.run.run state

end Loading

end Prerender
