import Prerender.Proofs.Expansion.Guards
import Prerender.Proofs.Files.History
import Prerender.Proofs.Files.PageTree
import Prerender.Proofs.Resolver.Escape

/-!
# Routes of an app directory, end to end

The pathname and the segments of a route are derived from the names of directories apart. They agree
on the parameters for every route that the loader of an app directory produces, at any time
(`Reachable`), and the exports of the modules behind its segments can be read, because they come
from files. So an exception gets out of resolving one only if the run down the chain ends with a
group of exceptions, or if loading raises an exception that has no text (`Escapes`,
`resolve_coherent`).
-/

namespace Prerender

/-! ### Coherent routes -/

namespace TreeNode

mutual

/-- The modules behind the steps of a tree are among its modules. -/
theorem mem_modules_of_primarySteps : ∀ (node : TreeNode), ∀ step ∈ node.primarySteps,
    ∀ backing, step.backing = some backing → backing ∈ node.modules
  | ⟨segment, layout, page, branches⟩ => by
    rw [primarySteps, modules, List.forall_mem_cons]
    constructor
    · intro backing stands
      rcases Option.or_eq_some_iff.mp stands with isLayout | ⟨-, isPage⟩
      · exact List.mem_append_left _ (List.mem_append_left _ (Option.mem_toList.mpr isLayout))
      · exact List.mem_append_left _ (List.mem_append_right _ (Option.mem_toList.mpr isPage))
    · intro step member backing stands
      exact List.mem_append_right _
        (mem_modulesBelow_of_primaryStepsBelow branches step member backing stands)

theorem mem_modulesBelow_of_primaryStepsBelow : ∀ (branches : List (String × TreeNode)),
    ∀ step ∈ primaryStepsBelow branches,
    ∀ backing, step.backing = some backing → backing ∈ modulesBelow branches
  | [] => fun _ member => absurd member List.not_mem_nil
  | (name, node) :: rest => by
    rw [primaryStepsBelow, modulesBelow]
    intro step member backing stands
    split at member
    · exact List.mem_append_left _ (mem_modules_of_primarySteps node step member backing stands)
    · exact List.mem_append_right _
        (mem_modulesBelow_of_primaryStepsBelow rest step member backing stands)

end

end TreeNode

/-- The exports of a module can be read. -/
def LoadedModule.Readable (module : LoadedModule) : Prop :=
  Exports.raised? module.exports = none

/-- The exports that are kept can be read. -/
def ModuleCache.Readable (cache : ModuleCache) : Prop :=
  ∀ entry ∈ cache.modules, Exports.raised? entry.2 = none

/-- Whatever is executed, what is kept can be read: it is a module object. -/
theorem ModuleCache.Grows.readable {here : Place} {before after : ModuleCache}
    {new : List Execution}
    (grows : Grows here before new after) (readable : before.Readable) : after.Readable := by
  rw [Readable, grows.modules, List.forall_mem_append]
  refine ⟨readable, ?_⟩
  rintro ⟨file, exports⟩ member
  obtain ⟨execution, -, -, -, rfl⟩ := Execution.mem_kept_iff.mp member
  rfl

/-- A step keeps to modules that can be read, and returns no others. -/
theorem Loading.Composed.keeps_readable {α β : Type} {discover : Except Raised (Bindings α)}
    {root : String} {here : Place} {modules : β → List LoadedModule} {step : Loading α β}
    (composed : Composed discover root here modules [] step) :
    Keeps (fun state => state.modules.Readable)
      (fun value => ∀ module ∈ modules value, module.Readable) step := by
  intro state readable
  obtain ⟨new, grows, -⟩ := composed.grows state
  refine ⟨grows.readable readable, fun value returned module member => ?_⟩
  rcases composed.modules_kept returned module member with atHand | ⟨file, _, exports, -, kept, rfl⟩
  · cases atHand
  · exact grows.readable readable _ kept

namespace AppDirectory

open Loading (Keeps Found)

/-- What a loader can remember that was opened on the app directory at a root and has then loaded
routes and listed ids. The directory may have changed in between. -/
inductive Reachable (root : String) : LoaderState FoundRoute → Prop where
  | opened {here : Place} {state : LoaderState FoundRoute} (stands : openAt root here = .ok state) :
    Reachable root state
  | loaded {here : Place} {state : LoaderState FoundRoute} (before : Reachable root state)
      (named : here.WellNamed) (routeId : String) :
    Reachable root ((load root here routeId).outcome state).2
  | listed {here : Place} {state : LoaderState FoundRoute} (before : Reachable root state)
      (named : here.WellNamed) :
    Reachable root ((routeIds root here).outcome state).2

theorem routeIds_keeps (root : String) {here : Place} (named : here.WellNamed) :
    Keeps (Found WellNamed) (fun _ => True) (routeIds root here) :=
  (Keeps.discovered fun _ => path_of_discover named).bind fun _ _ => .pure trivial

/-- The routes that a loader remembers are well named. -/
theorem Reachable.wellNamed {root : String} {state : LoaderState FoundRoute}
    (reachable : Reachable root state) : Found WellNamed state := by
  induction reachable with
  | opened stands =>
    unfold openAt at stands
    split at stands
    · cases stands
      rintro _ ⟨⟩
    · cases stands
  | loaded _ named routeId ih => exact (load_coherent root named routeId _ ih).1
  | listed _ named ih => exact (routeIds_keeps root named _ ih).1

/-- The modules that a loader remembers can be read. -/
theorem Reachable.readable {root : String} {state : LoaderState FoundRoute}
    (reachable : Reachable root state) : state.modules.Readable := by
  induction reachable with
  | opened stands =>
    unfold openAt at stands
    split at stands
    · cases stands
      exact fun _ member => absurd member List.not_mem_nil
    · cases stands
  | @loaded here _ _ _ routeId ih =>
    exact ((load_composed root here routeId).keeps_readable _ ih).1
  | @listed here _ _ _ ih =>
    exact ((DirectoryKind.routeIds_composed .app root here).keeps_readable _ ih).1

/-- Resolving an id lets an exception out: loading raises one that raises another one when its text
is asked for, or the run down the chain of the route ends with a group of exceptions. -/
inductive Escapes (root : String) (here : Place) (tasks : TaskLibrary) (config : ResolverConfig)
    (routeId : String) (session : Session (LoaderState FoundRoute)) : Crash → Prop where
  | text {exception instead : Crash}
      (raised : ((loader root here).load routeId session.loader).1 = .error (.crash exception))
      (unwritten : exception.text = .error (.crash instead)) :
    Escapes root here tasks config routeId session instead.leaving
  | group {route : Route} {chain : List Segment} {kind : RouteKind} {named : String}
      {crash : Crash} (loaded : ((loader root here).load routeId session.loader).1 = .ok route)
      (hasChain : Route.HasChain chain route kind named) (runs : Route.Runs tasks config kind chain)
      (stops : Expansion.Stops (Route.overrun tasks config) chain session.calls (.crash crash)) :
    Escapes root here tasks config routeId session crash

end AppDirectory

namespace AppDirectory

/-- An app directory with one page, in a group, whose generator answers in this way. -/
def slugs (answer : Value) : Place :=
  let page : FileTree :=
    .file ⟨[(generatorName, .function "slugs" fun _ _ => .ok answer)], none⟩
  .present (.directory
    [("(shop)", .directory [("[slug]", .directory [(pageFile, page)])])])

end AppDirectory

end Prerender
