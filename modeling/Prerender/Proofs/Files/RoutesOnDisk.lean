import Prerender.Proofs.Files.PageTree
import Prerender.Proofs.Files.Transparency
import Prerender.Proofs.Files.Walk
import Prerender.Proofs.Route.PrimaryChain

/-!
# Routes as they are on disk

The ids of an app directory are the URLs of the routes on disk, if these are unambiguous, and a
fault in its structure is reported if they are not. Where the files that a route is made of can be
executed, loading it gives the route that stands there (`OnDisk`): the module of its handler, or a
tree whose primary chain has a level for each directory on the way, with the directory's own layout,
and the page at its leaf. The main statement is `routes_on_disk`.
-/

namespace Prerender

/-! ### Modules on disk -/

namespace FileTree

mutual

/-- What all the files of a tree hold. -/
def sources : FileTree → List ModuleSource
  | .file source => [source]
  | .directory entries => sourcesBelow entries
termination_by structural tree => tree

/-- What the files among some entries and below them hold. -/
def sourcesBelow : List (String × FileTree) → List ModuleSource
  | [] => []
  | (_, tree) :: rest => sources tree ++ sourcesBelow rest
termination_by structural entries => entries

end

theorem sources_subset_sourcesBelow {entries : List (String × FileTree)} {name : String}
    {tree : FileTree} (member : (name, tree) ∈ entries) : tree.sources ⊆ sourcesBelow entries := by
  induction entries with
  | nil => cases member
  | cons entry rest ih =>
    obtain ⟨_, first⟩ := entry
    rw [sourcesBelow]
    rcases List.mem_cons.mp member with same | later
    · cases same
      exact List.subset_append_left _ _
    · exact List.Subset.trans (ih later) (List.subset_append_right _ _)

theorem mem_sources_of_find {tree : FileTree} {path : TreePath} {source : ModuleSource}
    (stands : tree.find path = .present (.file source)) : source ∈ tree.sources := by
  induction path generalizing tree with
  | nil =>
    rw [find_nil] at stands
    rw [Place.present.inj stands, sources]
    exact List.mem_cons_self
  | cons name rest ih =>
    obtain ⟨entries, child, rfl, found, stands⟩ := exists_of_find_cons stands
    rw [sources]
    exact sources_subset_sourcesBelow (Bindings.mem_of_lookup? found) (ih stands)

end FileTree

namespace Place

/-- The module that executing the file at a path gives, if there is a file. -/
def module? (here : Place) (root : String) (file : TreePath) : Option LoadedModule :=
  match here.find file with
  | .present (.file source) => some ⟨some (file.shown root), .moduleObject source.exports⟩
  | _ => none

/-- Executing the file at a path, if there is one, does not raise. -/
def Imports (here : Place) (file : TreePath) : Prop :=
  ∀ source, here.find file = .present (.file source) → source.raised = none

/-- Where no file of a tree raises, all of them can be executed. -/
theorem imports_of_sources {tree : FileTree} (fine : ∀ source ∈ tree.sources, source.raised = none)
    (file : TreePath) : (Place.present tree).Imports file :=
  fun source stands => fine source (FileTree.mem_sources_of_find stands)

/-- Every directory on the way to one is there. -/
theorem IsDirectory.of_prefix {here : Place} {path level : TreePath}
    (isDirectory : here.IsDirectory path) (above : level <+: path) : here.IsDirectory level := by
  obtain ⟨rest, rfl⟩ := above
  obtain ⟨entries, stands⟩ := isDirectory
  cases here with
  | missing => cases stands
  | obstructed => cases stands
  | present tree =>
    rw [find, FileTree.find_append] at stands
    rw [IsDirectory, find]
    cases between : tree.find level with
    | missing =>
      rw [between] at stands
      cases stands
    | obstructed =>
      rw [between] at stands
      cases stands
    | present inner =>
      cases inner with
      | directory siblings => exact ⟨siblings, rfl⟩
      | file source =>
        rw [between] at stands
        cases rest <;> cases stands

end Place

namespace Loading

variable {α β γ : Type} {discover : Except Raised (Bindings α)} {root : String} {here : Place}

namespace Settles

/-- A step that succeeds, and the one behind it. -/
theorem bind_ok {step : Loading α β} {value : β} {next : β → Loading α γ}
    {result : Except Raised γ} (first : Settles discover here step (.ok value))
    (behind : Settles discover here (next value) result) :
    Settles discover here (step >>= next) result := by
  have whole : Settles discover here (step >>= next) (.ok value >>= fun _ => result) := by
    refine first.bind fun other same => ?_
    cases same
    exact behind
  exact whole

theorem module_ok {file : TreePath} (imports : here.Imports file) :
    Settles discover here (Loading.module root here file) (.ok (here.module? root file)) := by
  have same : moduleAt root here file = .ok (here.module? root file) := by
    unfold Place.module?
    split
    · next source stands => exact moduleAt_of_fine stands (imports source stands)
    · next noFile => exact moduleAt_of_absent noFile
  rw [← same]
  exact Settles.module file

/-- The same step for every item succeeds if it does for each of them. -/
theorem mapM_ok {step : γ → Loading α β} {items : List γ}
    (each : ∀ item ∈ items, ∃ value, Settles discover here (step item) (.ok value)) :
    ∃ values, Settles discover here (items.mapM step) (.ok values) := by
  induction items with
  | nil =>
    rw [List.mapM_nil]
    exact ⟨[], .pure []⟩
  | cons item rest ih =>
    obtain ⟨⟨value, first⟩, others⟩ := List.forall_mem_cons.mp each
    obtain ⟨values, behind⟩ := ih others
    rw [List.mapM_cons]
    exact ⟨value :: values, first.bind_ok (behind.bind_ok (.pure _))⟩

end Settles

end Loading

/-! ### Chains -/

namespace AppDirectory

open Loading (Faithful Settles)

variable {root : String} {here : Place} {path : TreePath}

/-- The primary chain of a page's tree: a level for each directory on the way to it, with the layout
of that directory if there is one, and the page at the leaf. -/
structure HasLevels (root : String) (here : Place) (path : TreePath) (node : TreeNode) : Prop where
  segments : node.primaryChain.map (·.segment) = "" :: path ++ [pageSegment]
  layouts : node.primaryChain.map (·.layout)
    = (levels path).map (fun level => here.module? root (level ++ [layoutFile])) ++ [none]
  pages : node.primaryChain.map (·.page)
    = (levels path).map (fun _ => none) ++ [here.module? root (path ++ [pageFile])]

/-- The route that stands at a path. -/
inductive OnDisk (root : String) (here : Place) (path : TreePath) : Route → Prop where
  | handler {module : LoadedModule}
      (stands : here.module? root (path ++ [handlerFile]) = some module) :
    OnDisk root here path (.handler ⟨urlOf path, urlOf path, module⟩)
  | page {node : TreeNode} (stands : here.IsFile (path ++ [pageFile]))
      (levels : HasLevels root here path node) :
    OnDisk root here path (.page ⟨urlOf path, urlOf path, node⟩)

/-- The files that the route at a path is made of. -/
inductive Needs (here : Place) (path : TreePath) : TreePath → Prop where
  | handler (stands : here.IsFile (path ++ [handlerFile])) :
    Needs here path (path ++ [handlerFile])
  | page (stands : here.IsFile (path ++ [pageFile])) : Needs here path (path ++ [pageFile])
  | layout (stands : here.IsFile (path ++ [pageFile])) {level : TreePath}
      (above : level <+: path) : Needs here path (level ++ [layoutFile])
  | branchPage (stands : here.IsFile (path ++ [pageFile])) {level : TreePath} {name : String}
      (above : level <+: path) (branch : Text.startsWithAny ['@'] name = true) :
    Needs here path (level ++ [name, pageFile])
  | branchLayout (stands : here.IsFile (path ++ [pageFile])) {level : TreePath} {name : String}
      (above : level <+: path) (branch : Text.startsWithAny ['@'] name = true) :
    Needs here path (level ++ [name, layoutFile])

/-- All files that the route at a path is made of can be executed. -/
def Importable (here : Place) (path : TreePath) : Prop :=
  ∀ file, Needs here path file → here.Imports file

/-! ### Loading -/

variable {discover : Except Raised (Bindings FoundRoute)}

/-- What the primary chain of a tree shows of its nodes. -/
def shownChain (node : TreeNode) : List (String × Option LoadedModule × Option LoadedModule) :=
  node.primaryChain.map fun node => (node.segment, node.layout, node.page)

/-- What the level of a directory shows. -/
def shownLevel (root : String) (here : Place) (level : TreePath) :
    String × Option LoadedModule × Option LoadedModule :=
  (level.getLastD "", here.module? root (level ++ [layoutFile]), none)

theorem loadBranch_settles {name : String} (page : here.Imports (path ++ [name, pageFile]))
    (layout : here.Imports (path ++ [name, layoutFile])) :
    ∃ branch, Settles discover here (loadBranch root here path name) (.ok branch) :=
  ⟨_, (Settles.module_ok page).bind_ok ((Settles.module_ok layout).bind_ok (.pure _))⟩

theorem loadBranches_settles (isDirectory : here.IsDirectory path)
    (importable : ∀ name, Text.startsWithAny ['@'] name = true →
      here.Imports (path ++ [name, pageFile]) ∧ here.Imports (path ++ [name, layoutFile])) :
    ∃ branches, Settles discover here (loadBranches root here path) (.ok branches) := by
  obtain ⟨entries, stands⟩ := isDirectory
  have listed : listDirectory root here path = .ok entries := by
    rw [listDirectory, stands]
  unfold loadBranches
  rw [listed]
  refine Settles.mapM_ok fun branch member => ?_
  have filtered := (List.mem_filter.mp member).2
  obtain ⟨page, layout⟩ := importable branch.1 (Bool.and_eq_true_iff.mp filtered).2
  exact loadBranch_settles page layout

/-- A level stands above the levels below it, with the layout of its directory. -/
theorem loadLevel_settles {level : TreePath} (isDirectory : here.IsDirectory level)
    (layout : here.Imports (level ++ [layoutFile]))
    (importable : ∀ name, Text.startsWithAny ['@'] name = true →
      here.Imports (level ++ [name, pageFile]) ∧ here.Imports (level ++ [name, layoutFile]))
    (below : TreeNode) :
    ∃ node, Settles discover here (loadLevel root here below level) (.ok node)
      ∧ shownChain node = shownLevel root here level :: shownChain below := by
  obtain ⟨branches, settled⟩ := loadBranches_settles isDirectory importable
  refine ⟨_, (Settles.module_ok layout).bind_ok (settled.bind_ok (.pure _)), ?_⟩
  rw [shownChain, TreeNode.primaryChain, TreeNode.primaryChainBelow, if_pos rfl]
  rfl

/-- The levels of directories on the way to a path stand above each other. -/
theorem foldlM_loadLevel_settles (isDirectory : here.IsDirectory path)
    (page : here.IsFile (path ++ [pageFile])) (importable : Importable here path)
    {rest : List TreePath} (above : ∀ level ∈ rest, level <+: path) (start : TreeNode) :
    ∃ node, Settles discover here (rest.foldlM (loadLevel root here) start) (.ok node)
      ∧ shownChain node = rest.reverse.map (shownLevel root here) ++ shownChain start := by
  -- The nearest level is loaded first and ends up lowest.
  induction rest generalizing start with
  | nil => exact ⟨start, .pure start, rfl⟩
  | cons level rest ih =>
    obtain ⟨isAbove, others⟩ := List.forall_mem_cons.mp above
    obtain ⟨next, loaded, shown⟩ := loadLevel_settles (isDirectory.of_prefix isAbove)
      (importable _ (.layout page isAbove))
      (fun name branch => ⟨importable _ (.branchPage page isAbove branch),
        importable _ (.branchLayout page isAbove branch)⟩) start
    obtain ⟨node, behind, whole⟩ := ih others next
    rw [List.foldlM_cons]
    refine ⟨node, loaded.bind_ok behind, ?_⟩
    rw [whole, shown, List.reverse_cons, List.map_append, List.append_assoc]
    rfl

/-- What a chain shows is its levels. -/
theorem HasLevels.of_shownChain {node : TreeNode}
    (shown : shownChain node = (levels path).map (shownLevel root here)
      ++ [(pageSegment, none, here.module? root (path ++ [pageFile]))]) :
    HasLevels root here path node := by
  have parts : ∀ {β : Type} (part : String × Option LoadedModule × Option LoadedModule → β),
      node.primaryChain.map (fun node => part (node.segment, node.layout, node.page))
        = (levels path).map (fun level => part (shownLevel root here level))
          ++ [part (pageSegment, none, here.module? root (path ++ [pageFile]))] := by
    intro β part
    have mapped := congrArg (List.map part) shown
    rw [shownChain, List.map_append, List.map_map, List.map_map] at mapped
    exact mapped
  refine ⟨?_, parts (·.2.1), parts (·.2.2)⟩
  rw [← map_getLastD_levels path]
  exact parts (·.1)

theorem loadTree_settles (isDirectory : here.IsDirectory path)
    (page : here.IsFile (path ++ [pageFile])) (importable : Importable here path) :
    ∃ node, Settles discover here (loadTree root here path) (.ok node)
      ∧ HasLevels root here path node := by
  have above : ∀ level ∈ (levels path).reverse, level <+: path := by
    intro level member
    obtain ⟨count, -, rfl⟩ := List.mem_map.mp (List.mem_reverse.mp member)
    exact List.take_prefix count path
  obtain ⟨node, settled, shown⟩ := foldlM_loadLevel_settles isDirectory page importable above
    (leaf (here.module? root (path ++ [pageFile])))
  rw [List.reverse_reverse] at shown
  exact ⟨node, (Settles.module_ok (importable _ (.page page))).bind_ok settled,
    .of_shownChain shown⟩

/-- The route of a directory is loaded as it is on disk. -/
theorem load_settles {entries : List (String × FileTree)}
    (distinct : (FileTree.directory entries).Distinct)
    (isHere : here = .present (.directory entries))
    {routes : Bindings FoundRoute} (found : AppDirectory.discover root here = .ok routes)
    (isRoute : IsRoute here path) (importable : Importable here path) :
    ∃ route,
      Settles (AppDirectory.discover root here) here (load root here (urlOf path)) (.ok route)
        ∧ OnDisk root here path route := by
  have discovered : Settles (AppDirectory.discover root here) here
      (Loading.discovered (AppDirectory.discover root here)) (.ok routes) := by
    rw [← found]
    exact .discovered
  have known : ∀ {isPage : Bool}, (isPage = true ↔ here.IsFile (path ++ [pageFile])) →
      routes.lookup? (urlOf path) = some ⟨path, isPage⟩ := by
    subst isHere
    exact lookup?_of_isRoute distinct found isRoute
  by_cases page : here.IsFile (path ++ [pageFile])
  · obtain ⟨node, settled, shown⟩ :=
      loadTree_settles isRoute.reached.isDirectory page importable
    refine ⟨_, discovered.bind_ok ?_, .page page shown⟩
    simp only [known (iff_of_true rfl page), if_true, pathnameOf_eq]
    exact settled.bind_ok (.pure _)
  · obtain ⟨source, stands⟩ := isRoute.holds.resolve_left page
    have module : here.module? root (path ++ [handlerFile])
        = some ⟨some ((path ++ [handlerFile]).shown root), .moduleObject source.exports⟩ := by
      rw [Place.module?, stands]
    have settled : Settles (AppDirectory.discover root here) here
        (Loading.module root here (path ++ [handlerFile]))
        (.ok (here.module? root (path ++ [handlerFile]))) :=
      .module_ok (importable _ (.handler ⟨source, stands⟩))
    rw [module] at settled
    refine ⟨_, discovered.bind_ok ?_, .handler module⟩
    simp only [known (iff_of_false Bool.false_ne_true page), Bool.false_eq_true, if_false,
      pathnameOf_eq]
    exact settled.bind_ok (.pure _)

/-! ### Ids -/

/-- Listing the ids gives those of the routes that are discovered, in order. -/
theorem routeIds_settles :
    Settles (AppDirectory.discover root here) here (routeIds root here)
      (AppDirectory.discover root here >>= fun routes => .ok routes.sorted.names) :=
  Settles.discovered.bind fun _ _ => .pure _

/-- While nothing is remembered, the directory is walked, and only success is remembered. -/
theorem routeIds_of_none {state : LoaderState FoundRoute} (none : state.found = none) :
    (routeIds root here).outcome state
      = match AppDirectory.discover root here with
        | .ok routes => (.ok routes.sorted.names, { state with found := some routes })
        | .error raised => (.error raised, state) := by
  rw [routeIds, Loading.outcome_bind, Loading.outcome_discovered, none]
  cases AppDirectory.discover root here <;> rfl

/-- A loader of an app directory, behind any requests while the directory stays as it is. Listing
the ids succeeds exactly if the routes on disk are unambiguous. Then the ids are the URLs of those
routes, ordered and each once, and every route whose files can be executed is loaded as it is on
disk. Otherwise a fault of the structure is raised; nothing is remembered of that, so the next
listing goes by what is discovered then. -/
theorem routes_on_disk {root : String} {tree : FileTree} (named : tree.WellNamed)
    (distinct : tree.Distinct) {fresh : LoaderState FoundRoute}
    (opened : openAt root (.present tree) = .ok fresh) (requests : List Request) :
    let here : Place := .present tree
    let state : LoaderState FoundRoute :=
      (requests.foldl (DirectoryKind.app.perform root here) ⟨fresh, []⟩).loader
    ((∃ ids, ((routeIds root here).outcome state).1 = .ok ids) ↔ Unambiguous here)
      ∧ (∀ ids, ((routeIds root here).outcome state).1 = .ok ids →
          ids.Pairwise (· < ·)
            ∧ (∀ routeId, routeId ∈ ids ↔ ∃ path, IsRoute here path ∧ routeId = urlOf path)
            ∧ ∀ path, IsRoute here path → Importable here path →
                ∃ route, ((load root here (urlOf path)).outcome state).1 = .ok route
                  ∧ OnDisk root here path route)
      ∧ (¬Unambiguous here → ∃ fault,
          (routeIds root here).outcome state = (.error (.failure (.structural fault)), state)
            ∧ ∀ there, ((routeIds root there).outcome state).1
              = (AppDirectory.discover root there).map (·.sorted.names)) := by
  obtain ⟨entries, rfl⟩ : ∃ entries, tree = .directory entries := by
    cases tree with
    | file _ => cases opened
    | directory entries => exact ⟨entries, rfl⟩
  obtain rfl : fresh = {} := (Except.ok.inj opened).symm
  intro here state
  have faithful : Faithful (DirectoryKind.app.discover root here) here state :=
    DirectoryKind.requests_faithful .fresh requests
  have succeeds : (∃ routes, AppDirectory.discover root here = .ok routes) ↔ Unambiguous here :=
    discover_isOk_iff named distinct
  have listed : ((routeIds root here).outcome state).1
      = (AppDirectory.discover root here).map (·.sorted.names) := by
    rw [(routeIds_settles state faithful).1]
    cases AppDirectory.discover root here <;> rfl
  rw [listed]
  refine ⟨?_, ?_, ?_⟩
  · rw [← succeeds]
    constructor
    · rintro ⟨ids, ok⟩
      obtain ⟨routes, found, -⟩ := Except.map_eq_ok_iff.mp ok
      exact ⟨routes, found⟩
    · rintro ⟨routes, found⟩
      exact ⟨_, Except.map_eq_ok_iff.mpr ⟨routes, found, rfl⟩⟩
  · intro ids ok
    obtain ⟨routes, found, rfl⟩ := Except.map_eq_ok_iff.mp ok
    refine ⟨pairwise_names_sorted found, fun routeId => ?_, fun path isRoute importable => ?_⟩
    · exact mem_names_sorted_iff distinct found
    · obtain ⟨route, settled, onDisk⟩ := load_settles distinct rfl found isRoute importable
      exact ⟨route, (settled state faithful).1, onDisk⟩
  · intro ambiguous
    cases outcome : AppDirectory.discover root here with
    | ok routes => exact absurd (succeeds.mp ⟨routes, outcome⟩) ambiguous
    | error raised =>
      obtain ⟨fault, rfl⟩ := discover_failsWith root entries raised outcome
      have none : state.found = none := by
        cases remembered : state.found with
        | none => rfl
        | some routes => cases outcome.symm.trans (faithful.found routes remembered)
      refine ⟨fault, ?_, fun there => ?_⟩
      · rw [routeIds_of_none none, outcome]
      · rw [routeIds_of_none none]
        cases AppDirectory.discover root there <;> rfl

theorem routes_on_disk_group :
    let module : FileTree := .file ⟨[], none⟩
    let shop : FileTree := .directory
      [("@side", .directory [(pageFile, module)]), (layoutFile, module), (pageFile, module)]
    let tree : FileTree := .directory
      [("(shop)", shop), ("_lib", .directory [(pageFile, module)]),
        ("api", .directory [(handlerFile, module)])]
    let here : Place := .present tree
    let state : LoaderState FoundRoute :=
      ([.load "/api"].foldl (DirectoryKind.app.perform "app" here) ⟨{}, []⟩).loader
    ∃ ids node, ((routeIds "app" here).outcome state).1 = .ok ids ∧ "/" ∈ ids ∧ "/api" ∈ ids
      ∧ ((load "app" here "/").outcome state).1 = .ok (.page ⟨"/", "/", node⟩)
      ∧ node.primaryChain.map (·.segment) = ["", "(shop)", pageSegment]
      ∧ node.primaryChain.map (·.layout)
        = [none, some ⟨some "app/(shop)/layout.py", .moduleObject []⟩, none] := by
  intro module shop tree here state
  have named : tree.WellNamed := by
    simp only [tree, shop, module, FileTree.WellNamed, FileTree.WellNamedBelow,
      Pathname.IsComponent]
    decide
  have distinct : tree.Distinct := by
    simp only [tree, shop, module, FileTree.Distinct, FileTree.DistinctBelow]
    decide
  have found : AppDirectory.discover "app" here
      = .ok [("/", ⟨["(shop)"], true⟩), ("/api", ⟨["api"], false⟩)] := by
    rw [discover_of_ordered (by decide)]
    decide +kernel
  have unambiguous : Unambiguous here := (discover_isOk_iff named distinct).mp ⟨_, found⟩
  have isRoute : IsRoute here ["(shop)"] :=
    ⟨⟨⟨_, rfl⟩, by decide⟩, Or.inl ⟨_, rfl⟩⟩
  have fine : ∀ source ∈ tree.sources, source.raised = none := by
    simp [tree, shop, module, FileTree.sources, FileTree.sourcesBelow]
  obtain ⟨succeeds, listed, -⟩ :=
    routes_on_disk named distinct (show openAt "app" here = .ok {} from rfl) [.load "/api"]
  obtain ⟨ids, ok⟩ := succeeds.mpr unambiguous
  obtain ⟨-, members, loaded⟩ := listed ids ok
  obtain ⟨route, returned, onDisk⟩ := loaded ["(shop)"] isRoute
    fun file _ => Place.imports_of_sources fine file
  have urlShop : urlOf ["(shop)"] = "/" := by decide
  have urlApi : urlOf ["api"] = "/api" := by decide
  cases onDisk with
  | handler stands => cases stands
  | @page node stands levels =>
    refine ⟨ids, node, ok, ?_, ?_, ?_, levels.segments, levels.layouts⟩
    · exact (members "/").mpr ⟨["(shop)"], isRoute, urlShop.symm⟩
    · exact (members "/api").mpr ⟨["api"], ⟨⟨⟨_, rfl⟩, by decide⟩, Or.inr ⟨_, rfl⟩⟩, urlApi.symm⟩
    · rw [urlShop] at returned
      exact returned

end AppDirectory

end Prerender
