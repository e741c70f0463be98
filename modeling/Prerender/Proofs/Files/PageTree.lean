import Mathlib.Data.List.Induction
import Prerender.Proofs.Files.Discovery
import Prerender.Proofs.Files.Loading
import Prerender.Proofs.Route.Chain

/-!
# Routes loaded from an app directory

The tree of a page has a level for each directory on the way to it, groups included, and the leaf
(`loadTree_names`); its pathname leaves groups out. As groups declare no parameters, the two agree
on them (`load_coherent`), whatever branches and modules stand beside the levels.
-/

namespace Prerender

namespace AppDirectory

open Loading (Keeps Found)

/-! ### Levels of a tree -/

/-- The names of the levels of a tree along its primary branches. -/
def levelNames (node : TreeNode) : List String :=
  node.primarySteps.map (·.name)

theorem levelNames_leaf (page : Option LoadedModule) : levelNames (leaf page) = [pageSegment] :=
  rfl

theorem levelNames_level (segment : String) (layout : Option LoadedModule) (below : TreeNode)
    (branches : List (String × TreeNode)) :
    levelNames ⟨segment, layout, none, (primaryBranch, below) :: branches⟩
      = segment :: levelNames below := by
  rw [levelNames, TreeNode.primarySteps, TreeNode.primaryStepsBelow, if_pos rfl, List.map_cons]
  rfl

/-- The directories on the way to a path, by their own names; the root has none. -/
theorem map_getLastD_levels (path : TreePath) :
    (levels path).map (·.getLastD "") = "" :: path := by
  -- A path with one more name has the same levels and itself as the last one.
  induction path using List.reverseRecOn with
  | nil => rfl
  | append_singleton path name ih =>
    have whole : (path ++ [name]).take (path.length + 1) = path ++ [name] :=
      List.take_of_length_le (by simp)
    have front : (List.range (path.length + 1)).map (path ++ [name]).take = levels path := by
      apply List.map_congr_left
      intro count below
      exact List.take_append_of_le_length (Nat.lt_succ_iff.mp (List.mem_range.mp below))
    rw [levels, List.length_append, List.length_singleton, List.range_succ, List.map_append, front,
      List.map_append, ih, List.map_singleton, whole, List.map_singleton, List.getLastD_concat,
      List.cons_append]

variable {J : Bindings FoundRoute → Prop}

theorem loadBranches_keeps (root : String) (here : Place) (path : TreePath) :
    Keeps (Found J) (fun _ => True) (loadBranches root here path) := by
  unfold loadBranches
  split
  · exact .throw _
  · refine .mapM (Q := fun _ => True) (fun branch => ?_) _
    exact (Keeps.module root here _).bind fun _ _ =>
      (Keeps.module root here _).bind fun _ _ => .pure trivial

/-- A level has the name of its directory and stands above the levels below it. -/
theorem loadLevel_names (root : String) (here : Place) (below : TreeNode) (path : TreePath) :
    Keeps (Found J) (fun node => levelNames node = path.getLastD "" :: levelNames below)
      (loadLevel root here below path) := by
  refine (Keeps.module root here _).bind fun layout _ => ?_
  refine (loadBranches_keeps root here path).bind fun branches _ => ?_
  exact .pure (levelNames_level _ _ _ _)

/-- The levels that are still to be loaded, from the leaf upwards, stand above those of a node and
make up the tree of a page with them. -/
def Completes (path : TreePath) (node : TreeNode) (rest : List TreePath) : Prop :=
  rest.reverse.map (·.getLastD "") ++ levelNames node = "" :: path ++ [pageSegment]

theorem loadLevel_completes (root : String) (here : Place) {path level : TreePath}
    {node : TreeNode} {rest : List TreePath} (completes : Completes path node (level :: rest)) :
    Keeps (Found J) (fun next => Completes path next rest) (loadLevel root here node level) := by
  refine (loadLevel_names root here node level).imp fun next named => ?_
  rw [Completes, named, ← completes]
  simp

/-- The tree of a page has a level for each directory on the way to it, and the leaf. -/
theorem loadTree_names (root : String) (here : Place) (path : TreePath) :
    Keeps (Found J) (fun node => levelNames node = "" :: path ++ [pageSegment])
      (loadTree root here path) := by
  refine (Keeps.module root here _).bind fun page _ => ?_
  have start : Completes path (leaf page) (levels path).reverse := by
    rw [Completes, List.reverse_reverse, map_getLastD_levels, levelNames_leaf]
  exact Keeps.foldlM (P := Completes path)
    (fun _ _ _ completes => loadLevel_completes root here completes) start

/-! ### Pathnames -/

/-- A group declares no parameter. -/
theorem parse?_of_isGroup {name : String} (group : isGroup name = true) :
    SegmentParam.parse? name = none := by
  refine SegmentParam.parse?_eq_none fun bracketed => ?_
  unfold isGroup at group
  unfold isBracketed at bracketed
  split at group
  · next inner round =>
    split at bracketed
    · next other square =>
      rw [Text.between?_eq_some_iff] at round square
      rw [round] at square
      cases square
    · cases bracketed
  · cases group

/-- The pathname of a directory has the parameters that the names on the way to it declare. -/
theorem placeholders_pathnameOf {path : TreePath} (named : path.WellNamed) :
    Pathname.placeholders (Pathname.pattern (pathnameOf path))
      = path.filterMap SegmentParam.parse? := by
  have shown : ∀ name ∈ path.filter fun name => !isGroup name, Pathname.IsComponent name :=
    fun name member => named name (List.mem_of_mem_filter member)
  rw [Pathname.pattern, pathnameOf, Pathname.components_joinSlashes shown,
    Pathname.placeholders_map_ofText, List.filterMap_filter]
  apply List.filterMap_congr
  intro name _
  cases group : isGroup name with
  | false => rfl
  | true =>
    rw [parse?_of_isGroup group]
    rfl

theorem toList_pathnameOf (path : TreePath) :
    ∃ rest, (pathnameOf path).toList = '/' :: rest := by
  rw [pathnameOf, Pathname.joinSlashes]
  cases path.filter fun name => !isGroup name with
  | nil => exact ⟨[], rfl⟩
  | cons first others => simp [String.toList_join]

/-- A page is coherent if its tree has a level for each directory on the way to it. -/
theorem coherent_page {path : TreePath} (named : path.WellNamed) {routeId : String}
    {node : TreeNode} (names : levelNames node = "" :: path ++ [pageSegment]) :
    (Route.page ⟨routeId, pathnameOf path, node⟩).Coherent := by
  have leaf : SegmentParam.parse? pageSegment = none := by
    decide
  have steps : (Route.page ⟨routeId, pathnameOf path, node⟩).stepNames = levelNames node := rfl
  rw [Route.Coherent, steps, names, Route.pathname, placeholders_pathnameOf named,
    List.filterMap_append, List.filterMap_cons, SegmentParam.parse?_empty, List.filterMap_cons,
    leaf, List.filterMap_nil, List.append_nil]

/-! ### Loading a route -/

/-- The names on the way to every route are path components. -/
def WellNamed (routes : Bindings FoundRoute) : Prop :=
  ∀ route ∈ routes, route.2.path.WellNamed

/-- Loading from a well named directory keeps to well named routes, and every route that is loaded
is coherent. -/
theorem load_coherent (root : String) {here : Place} (named : here.WellNamed) (routeId : String) :
    Keeps (Found WellNamed) Route.Coherent (load root here routeId) := by
  refine (Keeps.discovered fun _ => path_of_discover named).bind fun routes wellNamed => ?_
  split
  · exact .throw _
  next route found =>
    have path : route.path.WellNamed := wellNamed _ (Bindings.mem_of_lookup? found)
    split
    · exact (loadTree_names root here route.path).bind fun node names =>
        .pure (coherent_page path names)
    · refine (Keeps.module root here _).bind fun loaded _ => ?_
      cases loaded with
      | none => exact .throw _
      | some module =>
        obtain ⟨rest, slash⟩ := toList_pathnameOf route.path
        exact .pure (Route.coherent_handler slash)

end AppDirectory

end Prerender
