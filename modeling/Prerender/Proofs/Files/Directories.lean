import Prerender.Files.AppDirectory
import Prerender.Files.PagesDirectory
import Prerender.Proofs.Files.Loading
import Prerender.Proofs.Resolver.Build

/-!
# Loaders of directories

The loaders of app directories and of pages directories (`DirectoryKind`) differ in what they
discover and in what they make of it. What they do to their memory is the same: a step of either is
composed of looking at what was discovered and of loading modules, one after the other
(`Loading.Composed`), and what it returns has no modules but those that it loads. So whatever these
two keep, every request to a loader keeps (`load_composed`, `perform_composed`).
-/

namespace Prerender

/-! ### Kinds of directories -/

/-- The kinds of directories that routes are loaded from. -/
inductive DirectoryKind where
  | app
  | pages
deriving DecidableEq, Repr

namespace DirectoryKind

/-- What is discovered of a route. -/
abbrev Found : DirectoryKind → Type
  | .app => AppDirectory.FoundRoute
  | .pages => TreePath

/-- What is discovered in a directory. -/
def discover : (kind : DirectoryKind) → String → Place → Except Raised (Bindings kind.Found)
  | .app => AppDirectory.discover
  | .pages => PagesDirectory.discover

/-- The ids of all routes of a directory. -/
def routeIds : (kind : DirectoryKind) → String → Place → Loading kind.Found (List String)
  | .app => AppDirectory.routeIds
  | .pages => PagesDirectory.routeIds

/-- Loads a route from a directory. -/
def load : (kind : DirectoryKind) → String → Place → String → Loading kind.Found Route
  | .app => AppDirectory.load
  | .pages => PagesDirectory.load

/-- What a loader remembers of a directory at first. -/
def openAt : (kind : DirectoryKind) → String → Place → Except Crash (LoaderState kind.Found)
  | .app => AppDirectory.openAt
  | .pages => PagesDirectory.openAt

/-- The loader of a directory, as the directory is now. -/
def loader : (kind : DirectoryKind) → String → Place → Loader (LoaderState kind.Found)
  | .app => AppDirectory.loader
  | .pages => PagesDirectory.loader

theorem loader_load (kind : DirectoryKind) (root : String) (here : Place) (routeId : String)
    (state : LoaderState kind.Found) :
    (kind.loader root here).load routeId state = (kind.load root here routeId).outcome state := by
  cases kind <;> rfl

/-- A loader remembers nothing at first. -/
theorem eq_of_openAt {kind : DirectoryKind} {root : String} {here : Place}
    {fresh : LoaderState kind.Found} (opened : kind.openAt root here = .ok fresh) :
    fresh = {} := by
  cases kind with
  | app =>
    simp only [openAt] at opened
    unfold AppDirectory.openAt at opened
    split at opened
    · exact (Except.ok.inj opened).symm
    · cases opened
  | pages =>
    simp only [openAt] at opened
    unfold PagesDirectory.openAt at opened
    split at opened
    · exact (Except.ok.inj opened).symm
    · cases opened

end DirectoryKind

/-! ### Requests -/

/-- What can be asked of a loader. -/
inductive Request where
  | routeIds
  | load (routeId : String)
  | resolve (tasks : TaskLibrary) (routeId : String) (config : ResolverConfig)

namespace DirectoryKind

variable (kind : DirectoryKind) (root : String)

/-- What a request leaves behind, whether or not it succeeds. -/
def perform (here : Place) (session : Session (LoaderState kind.Found)) :
    Request → Session (LoaderState kind.Found)
  | .routeIds => ⟨((kind.routeIds root here).outcome session.loader).2, session.calls⟩
  | .load routeId => ⟨((kind.load root here routeId).outcome session.loader).2, session.calls⟩
  | .resolve tasks routeId config =>
    ((kind.loader root here).resolve tasks routeId config session).2

/-- Resolving a route leaves the loader as loading it does. -/
theorem perform_resolve_loader (here : Place) (session : Session (LoaderState kind.Found))
    (tasks : TaskLibrary) (routeId : String) (config : ResolverConfig) :
    (kind.perform root here session (.resolve tasks routeId config)).loader
      = ((kind.load root here routeId).outcome session.loader).2 := by
  rw [perform, Loader.resolve_snd_loader, loader_load]

end DirectoryKind

/-! ### Modules of a route -/

namespace TreeNode

mutual

/-- The modules of a tree, whatever branch they stand on. -/
def modules : TreeNode → List LoadedModule
  | ⟨_, layout, page, branches⟩ => layout.toList ++ page.toList ++ modulesBelow branches
termination_by structural node => node

/-- The modules of some branches. -/
def modulesBelow : List (String × TreeNode) → List LoadedModule
  | [] => []
  | (_, node) :: rest => modules node ++ modulesBelow rest
termination_by structural branches => branches

end

theorem modulesBelow_eq_flatMap (branches : List (String × TreeNode)) :
    modulesBelow branches = branches.flatMap fun branch => branch.2.modules := by
  induction branches with
  | nil => rw [modulesBelow, List.flatMap_nil]
  | cons branch rest ih => rw [modulesBelow, List.flatMap_cons, ih]

end TreeNode

/-- The modules of a route. -/
def Route.modules : Route → List LoadedModule
  | .handler route => [route.module]
  | .page route => route.root.modules
  | .listed route => [route.module]
  | .unknown _ _ => []

/-! ### Steps -/

namespace Loading

variable {α β γ : Type}

/-- Steps that are composed of looking at what was discovered and of loading modules, where the
modules of what a step returns are among those that it loads and those that were at hand. -/
inductive Composed (discover : Except Raised (Bindings α)) (root : String) (here : Place)
    (modules : β → List LoadedModule) : List LoadedModule → Loading α β → Prop where
  | pure {atHand : List LoadedModule} {value : β} (among : modules value ⊆ atHand) :
    Composed discover root here modules atHand (Pure.pure value)
  | throw {atHand : List LoadedModule} (raised : Raised) :
    Composed discover root here modules atHand (MonadExcept.throw raised)
  | discovered {atHand : List LoadedModule} {next : Bindings α → Loading α β}
      (behind : ∀ found, Composed discover root here modules atHand (next found)) :
    Composed discover root here modules atHand (Loading.discovered discover >>= next)
  | module {atHand : List LoadedModule} (file : TreePath)
      {next : Option LoadedModule → Loading α β}
      (behind : ∀ loaded,
        Composed discover root here modules (atHand ++ loaded.toList) (next loaded)) :
    Composed discover root here modules atHand (Loading.module root here file >>= next)

namespace Composed

variable {discover : Except Raised (Bindings α)} {root : String} {here : Place}
  {modules : β → List LoadedModule} {others : γ → List LoadedModule}
  {atHand more : List LoadedModule}

theorem mono {step : Loading α β} (composed : Composed discover root here modules atHand step)
    (contained : atHand ⊆ more) : Composed discover root here modules more step := by
  induction composed generalizing more with
  | pure among => exact .pure (List.Subset.trans among contained)
  | throw raised => exact .throw raised
  | discovered _ ih => exact .discovered fun found => ih found contained
  | module file _ ih =>
    refine .module file fun loaded => ih loaded (List.append_subset.mpr ⟨?_, ?_⟩)
    · exact List.subset_append_of_subset_left _ contained
    · exact List.subset_append_right _ _

/-- More modules may be at hand in between. -/
theorem between {step : Loading α β} {last : List LoadedModule}
    (composed : Composed discover root here modules (atHand ++ last) step)
    (middle : List LoadedModule) :
    Composed discover root here modules (atHand ++ middle ++ last) step := by
  refine composed.mono (List.append_subset.mpr ⟨?_, List.subset_append_right _ _⟩)
  exact List.subset_append_of_subset_left _ (List.subset_append_left _ _)

theorem bind {step : Loading α β} {next : β → Loading α γ}
    (first : Composed discover root here modules atHand step)
    (behind : ∀ value,
      Composed discover root here others (atHand ++ modules value) (next value)) :
    Composed discover root here others atHand (step >>= next) := by
  induction first with
  | @pure atHand value among =>
    rw [pure_bind]
    exact (behind value).mono (List.append_subset.mpr ⟨List.Subset.refl _, among⟩)
  | throw raised => exact .throw raised
  | discovered _ ih =>
    rw [bind_assoc]
    exact .discovered fun found => ih found behind
  | module file _ ih =>
    rw [bind_assoc]
    exact .module file fun loaded => ih loaded fun value => (behind value).between _

theorem mapM {step : γ → Loading α β}
    (each : ∀ item, Composed discover root here modules atHand (step item)) (items : List γ) :
    Composed discover root here (·.flatMap modules) atHand (items.mapM step) := by
  induction items with
  | nil =>
    rw [List.mapM_nil]
    exact .pure (List.nil_subset _)
  | cons item rest ih =>
    rw [List.mapM_cons]
    refine (each item).bind fun value => ?_
    refine (ih.mono (List.subset_append_left _ _)).bind fun values => .pure ?_
    rw [List.flatMap_cons, List.append_assoc]
    exact List.subset_append_right _ _

theorem foldlM {step : β → γ → Loading α β}
    (each : ∀ value item,
      Composed discover root here modules (atHand ++ modules value) (step value item))
    (items : List γ) (start : β) :
    Composed discover root here modules (atHand ++ modules start) (items.foldlM step start) := by
  induction items generalizing start with
  | nil => exact .pure (List.subset_append_right _ _)
  | cons item rest ih =>
    rw [List.foldlM_cons]
    exact (each start item).bind fun next => (ih next).between _

end Composed

end Loading

open Loading (Composed)

namespace AppDirectory

/-- A directory without parallel branches. -/
theorem loadBranches_eq_nil {root : String} {here : Place} {path : TreePath}
    {entries : List (String × FileTree)} (listed : listDirectory root here path = .ok entries)
    (none : ∀ entry ∈ entries, Text.startsWithAny ['@'] entry.1 = false) :
    loadBranches root here path = pure [] := by
  unfold loadBranches
  rw [listed]
  simp only
  rw [List.filter_eq_nil_iff.mpr]
  · rfl
  · intro entry member
    simp [none entry (List.mem_mergeSort.mp member)]

variable (root : String) (here : Place) {atHand : List LoadedModule}

theorem modules_leaf (page : Option LoadedModule) : (leaf page).modules = page.toList := by
  rw [leaf, TreeNode.modules, TreeNode.modulesBelow, Option.toList_none, List.nil_append,
    List.append_nil]

theorem loadBranch_composed (path : TreePath) (name : String) :
    Composed (discover root here) root here (·.2.modules) atHand
      (loadBranch root here path name) := by
  refine .module _ fun page => .module _ fun layout => .pure ?_
  have below : TreeNode.modulesBelow
      (if page.isSome then [(primaryBranch, leaf page)] else []) = page.toList := by
    cases page with
    | none => rfl
    | some page => rfl
  rw [TreeNode.modules, below, Option.toList_none, List.append_nil]
  exact List.append_subset.mpr
    ⟨List.subset_append_right _ _,
      List.subset_append_of_subset_left _ (List.subset_append_right _ _)⟩

theorem loadBranches_composed (path : TreePath) :
    Composed (discover root here) root here TreeNode.modulesBelow atHand
      (loadBranches root here path) := by
  rw [funext TreeNode.modulesBelow_eq_flatMap]
  unfold loadBranches
  split
  · exact .throw _
  · refine Composed.mapM (fun branch => ?_) _
    exact loadBranch_composed root here path branch.1

theorem loadLevel_composed (below : TreeNode) (path : TreePath) :
    Composed (discover root here) root here TreeNode.modules (atHand ++ below.modules)
      (loadLevel root here below path) := by
  refine .module _ fun layout => ?_
  refine (loadBranches_composed root here path).bind fun branches => .pure ?_
  rw [TreeNode.modules, TreeNode.modulesBelow, Option.toList_none, List.append_nil]
  intro module member
  simp only [List.mem_append] at member ⊢
  rcases member with ofLayout | ofBelow | ofBranches
  · exact Or.inl (Or.inr ofLayout)
  · exact Or.inl (Or.inl (Or.inr ofBelow))
  · exact Or.inr ofBranches

theorem loadTree_composed (path : TreePath) :
    Composed (discover root here) root here TreeNode.modules atHand
      (loadTree root here path) := by
  refine .module _ fun page => ?_
  rw [← modules_leaf]
  exact Composed.foldlM (fun below path => loadLevel_composed root here below path) _ _

theorem load_composed (routeId : String) :
    Composed (discover root here) root here Route.modules atHand (load root here routeId) := by
  refine .discovered fun routes => ?_
  split
  · exact .throw _
  · split
    · refine (loadTree_composed root here _).bind fun node => .pure ?_
      exact List.subset_append_right _ _
    · refine .module _ fun loaded => ?_
      cases loaded with
      | none => exact .throw _
      | some module => exact .pure (List.subset_append_right _ _)

end AppDirectory

namespace PagesDirectory

theorem load_composed (root : String) (here : Place) (routeId : String)
    {atHand : List LoadedModule} :
    Composed (discover root here) root here Route.modules atHand (load root here routeId) := by
  refine .discovered fun pages => ?_
  split
  · exact .throw _
  · refine .module _ fun loaded => ?_
    cases loaded with
    | none => exact .throw _
    | some module => exact .pure (List.subset_append_right _ _)

end PagesDirectory

namespace DirectoryKind

variable (kind : DirectoryKind) (root : String) (here : Place)

theorem load_composed (routeId : String) :
    Composed (kind.discover root here) root here Route.modules []
      (kind.load root here routeId) := by
  cases kind with
  | app => exact AppDirectory.load_composed root here routeId
  | pages => exact PagesDirectory.load_composed root here routeId

theorem routeIds_composed :
    Composed (kind.discover root here) root here (fun _ => []) [] (kind.routeIds root here) := by
  cases kind with
  | app => exact .discovered fun _ => .pure (List.nil_subset _)
  | pages => exact .discovered fun _ => .pure (List.nil_subset _)

/-- A request leaves the loader as a composed step does. -/
theorem perform_composed (session : Session (LoaderState kind.Found)) (request : Request) :
    ∃ (β : Type) (modules : β → List LoadedModule) (step : Loading kind.Found β),
      Composed (kind.discover root here) root here modules [] step
        ∧ (kind.perform root here session request).loader = (step.outcome session.loader).2 := by
  cases request with
  | routeIds => exact ⟨_, _, _, kind.routeIds_composed root here, rfl⟩
  | load routeId => exact ⟨_, _, _, kind.load_composed root here routeId, rfl⟩
  | resolve tasks routeId config =>
    exact ⟨_, _, _, kind.load_composed root here routeId,
      kind.perform_resolve_loader root here session tasks routeId config⟩

end DirectoryKind

end Prerender
