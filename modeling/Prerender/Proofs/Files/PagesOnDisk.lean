import Prerender.Proofs.Files.Pages
import Prerender.Proofs.Files.Transparency

/-!
# Pages as they are on disk

Where no directory has the name of a module, the pages of a directory are files (`IsPage`), and the
loader of the directory relates them to their ids one to one, unless a module and the module `index`
in the directory of its name collide. Listing the ids fails exactly if there is such a collision,
and loading an id executes the file of its page and no other one. The main statement is
`pages_on_disk`.
-/

namespace Prerender

namespace PagesDirectory

open Loading (Faithful)
open ModuleCache (importRaised)

/-- There is a file of the name of a page. -/
structure IsPage (here : Place) (page : TreePath) : Prop where
  counts : CountsAsPage page
  isFile : here.IsFile (fileOf page)

/-- No directory has the name of a module. -/
def PlainDirectories (here : Place) : Prop :=
  ∀ path, here.IsDirectory path → isModuleName (path.getLastD "") = false

/-- A module stands beside a directory of its name that has the module `index`. -/
def Collide (here : Place) : Prop :=
  ∃ page, page.getLast? ≠ some "index" ∧ IsPage here page ∧ IsPage here (page ++ ["index"])

variable {root : String} {here : Place} {tree : FileTree} {page : TreePath}

/-- What is listed is pages, and nothing else. -/
theorem listed_iff (plain : PlainDirectories here) : Listed here page ↔ IsPage here page := by
  constructor
  · rintro ⟨counts, holds⟩
    rcases Place.holds_iff.mp holds with isFile | isDirectory
    · exact ⟨counts, isFile⟩
    · have other := plain _ isDirectory
      rw [isModuleName_fileOf] at other
      cases other
  · rintro ⟨counts, isFile⟩
    exact ⟨counts, Place.holds_iff.mpr (Or.inl isFile)⟩

theorem plainDirectories_of_modules (distinct : tree.Distinct)
    (files : ∀ file ∈ modules tree, (Place.present tree).IsFile file) :
    PlainDirectories (.present tree) := by
  rintro path ⟨entries, stands⟩
  refine Bool.eq_false_iff.mpr fun isModule => ?_
  obtain ⟨source, isFile⟩ := files path ((mem_modules_iff distinct).mpr ⟨⟨_, stands⟩, isModule⟩)
  cases stands.symm.trans isFile

/-- Discovery succeeds exactly if no two pages collide. -/
theorem discover_isOk_iff_of_plain (named : tree.WellNamed) (distinct : tree.Distinct)
    (plain : PlainDirectories (.present tree)) :
    (∃ pages, discover root (.present tree) = .ok pages) ↔ ¬Collide (.present tree) := by
  rw [discover_isOk_iff named distinct, injOn_namesOf_iff]
  simp only [listed_iff plain, Collide]

/-! ### Loading -/

/-- What executing the module of a page gives. -/
def pageOf (root : String) (page : TreePath) (source : ModuleSource) : Except Raised Route :=
  match source.raised with
  | none => .ok (.listed ⟨idOf page, idOf page,
      ⟨some ((fileOf page).shown root), .moduleObject source.exports⟩⟩)
  | some raised => .error (importRaised root (fileOf page) raised)

/-- The page of an id, if its module was found. -/
def ofModule (routeId : String) : Option LoadedModule → Loading TreePath Route
  | none => Loading.fail (.missingPage routeId)
  | some module => pure (.listed ⟨routeId, routeId, module⟩)

/-- Loading an id that is known loads the module in its file. -/
theorem load_outcome {pages : Bindings TreePath} (found : discover root here = .ok pages)
    {state : LoaderState TreePath} (faithful : Faithful (discover root here) here state)
    {routeId : String} {file : TreePath} (known : pages.lookup? routeId = some file) :
    (load root here routeId).outcome state
      = (Loading.module root here file >>= ofModule routeId).outcome
          { state with found := some pages } := by
  rw [load, Loading.outcome_bind, Loading.outcome_discovered, found]
  cases remembered : state.found with
  | none =>
    simp only [known]
    rfl
  | some before =>
    obtain rfl : before = pages :=
      Except.ok.inj ((faithful.found before remembered).symm.trans found)
    obtain ⟨_, modules⟩ := state
    cases remembered
    simp only [known]
    rfl

/-- Loading the id of a page executes its file, unless the module is kept, and no other one. -/
theorem load_page {pages : Bindings TreePath} (found : discover root here = .ok pages)
    {state : LoaderState TreePath} (faithful : Faithful (discover root here) here state)
    (known : pages.lookup? (idOf page) = some (fileOf page)) {source : ModuleSource}
    (stands : here.find (fileOf page) = .present (.file source)) :
    ((load root here (idOf page)).outcome state).1 = pageOf root page source
      ∧ ((load root here (idOf page)).outcome state).2.modules.executed
        = state.modules.executed
          ++ if (state.modules.exports? (fileOf page)).isSome then [] else [fileOf page] := by
  rw [load_outcome found faithful known, Loading.outcome_bind, Loading.outcome_module]
  have ending := ModuleCache.load_ending root here (fileOf page) state.modules
  simp only
  generalize state.modules.load root here (fileOf page) = run at ending ⊢
  cases ending with
  | absent noFile => exact absurd stands (noFile source)
  | @kept _ exports _ remembered =>
    obtain ⟨other, there, fine, rfl⟩ := faithful.modules _ (ModuleCache.mem_of_exports? remembered)
    cases stands.symm.trans there
    rw [pageOf, fine, remembered]
    exact ⟨rfl, (List.append_nil _).symm⟩
  | executed there new fine =>
    cases stands.symm.trans there
    rw [pageOf, fine, new]
    exact ⟨rfl, rfl⟩
  | raised there new raises =>
    cases stands.symm.trans there
    rw [pageOf, raises, new]
    exact ⟨rfl, rfl⟩

/-! ### Ids -/

/-- A loader of a pages directory in which no directory has the name of a module, behind any
requests while the directory stays as it is. Listing the ids raises a fault in the structure of the
directory exactly if two pages collide. Otherwise distinct pages have distinct ids, and those are
listed, ordered and each once. Loading the id of a page then gives that page, with the id as its
pathname, or the failure of executing its file; that file is executed unless its module is kept, and
no other one is. -/
theorem pages_on_disk (named : tree.WellNamed) (distinct : tree.Distinct)
    (plain : PlainDirectories (.present tree)) {fresh : LoaderState TreePath}
    (opened : openAt root (.present tree) = .ok fresh) (requests : List Request) :
    let here : Place := .present tree
    let state : LoaderState TreePath :=
      (requests.foldl (DirectoryKind.pages.perform root here) ⟨fresh, []⟩).loader
    let listed := ((routeIds root here).outcome state).1
    ((∃ fault, listed = .error (.failure (.structural fault))) ↔ Collide here)
      ∧ (¬Collide here →
          (∀ page other, IsPage here page → IsPage here other → idOf page = idOf other →
            page = other)
          ∧ ∃ ids, listed = .ok ids
            ∧ ids.Pairwise (· < ·)
            ∧ (∀ routeId, routeId ∈ ids ↔ ∃ page, IsPage here page ∧ routeId = idOf page)
            ∧ ∀ page source, CountsAsPage page →
                here.find (fileOf page) = .present (.file source) →
                let run := (load root here (idOf page)).outcome state
                run.1 = pageOf root page source
                  ∧ run.2.modules.executed = state.modules.executed
                    ++ if (state.modules.exports? (fileOf page)).isSome then []
                      else [fileOf page]) := by
  have openedHere : DirectoryKind.pages.openAt root (.present tree) = .ok fresh := opened
  obtain rfl := DirectoryKind.eq_of_openAt openedHere
  intro here state listed
  have faithful : Faithful (DirectoryKind.pages.discover root here) here state :=
    DirectoryKind.requests_faithful .fresh requests
  have listing : listed = (discover root here).map (·.sorted.names) :=
    (DirectoryKind.pages.routeIds_settles root here state faithful).1
  have succeeds : (∃ pages, discover root here = .ok pages) ↔ ¬Collide here :=
    discover_isOk_iff_of_plain named distinct plain
  rw [listing]
  refine ⟨?_, fun apart => ?_⟩
  · constructor
    · rintro ⟨fault, failed⟩
      by_contra apart
      obtain ⟨pages, found⟩ := succeeds.mpr apart
      rw [found] at failed
      cases failed
    · intro collide
      cases outcome : discover root here with
      | ok pages => exact absurd collide (succeeds.mp ⟨pages, outcome⟩)
      | error raised =>
        obtain ⟨fault, rfl⟩ := discover_failsWith root tree raised outcome
        exact ⟨fault, rfl⟩
  · obtain ⟨pages, found⟩ := succeeds.mpr apart
    refine ⟨?_, pages.sorted.names, ?_, pairwise_names_sorted found, ?_, ?_⟩
    · intro page other isPage isOther same
      have pageListed := (listed_iff plain).mpr isPage
      have otherListed := (listed_iff plain).mpr isOther
      refine injOn_namesOf_iff.mpr apart page other isPage isOther ?_
      exact (pageListed.idOf_eq_iff named otherListed).mp same
    · rw [found]
      rfl
    · intro routeId
      rw [mem_names_sorted_iff distinct found]
      simp only [listed_iff plain, here]
    · intro page source counts stands
      have pageListed : Listed here page := ⟨counts, _, stands⟩
      exact load_page found faithful (lookup?_of_listed distinct found pageListed) stands

theorem pages_on_disk_blog :
    let module : ModuleSource := ⟨[], none⟩
    let broken : ModuleSource := ⟨[], some (.crash (.stated .value "no"))⟩
    let tree : FileTree := .directory
      [("_app.py", .file module), ("api", .directory [("users.py", .file module)]),
        ("blog", .directory [("[slug].py", .file module)]),
        ("docs", .directory [("index.py", .file broken)]), ("index.py", .file module)]
    let here : Place := .present tree
    let state : LoaderState TreePath :=
      ([.load "/docs", .load "/"].foldl (DirectoryKind.pages.perform "pages" here) ⟨{}, []⟩).loader
    ∃ ids, ((routeIds "pages" here).outcome state).1 = .ok ids
      ∧ "/" ∈ ids ∧ "/docs" ∈ ids ∧ "/api/users" ∉ ids
      ∧ ((load "pages" here "/blog/[slug]").outcome state).1
        = .ok (.listed ⟨"/blog/[slug]", "/blog/[slug]",
            ⟨some "pages/blog/[slug].py", .moduleObject []⟩⟩)
      ∧ ∃ report, ((load "pages" here "/docs").outcome state).1 = .error (.failure report) := by
  intro module broken tree here state
  have named : tree.WellNamed := by
    simp only [tree, FileTree.WellNamed, FileTree.WellNamedBelow, Pathname.IsComponent]
    decide
  have distinct : tree.Distinct := by
    simp only [tree, FileTree.Distinct, FileTree.DistinctBelow]
    decide
  have ordered : modules tree
      = [["_app.py"], ["api", "users.py"], ["blog", "[slug].py"], ["docs", "index.py"],
          ["index.py"]] := by
    have inOrder : (moduleNames [] tree).Pairwise (fun a b => TreePath.before a b = true) := by
      decide +kernel
    rw [modules, List.mergeSort_of_pairwise inOrder]
    decide +kernel
  have plain : PlainDirectories here := by
    refine plainDirectories_of_modules distinct ?_
    rw [ordered]
    simp only [List.forall_mem_cons]
    exact ⟨⟨_, rfl⟩, ⟨_, rfl⟩, ⟨_, rfl⟩, ⟨_, rfl⟩, ⟨_, rfl⟩, fun _ none => by cases none⟩
  have found : discover "pages" here
      = .ok [("/blog/[slug]", ["blog", "[slug].py"]), ("/docs", ["docs", "index.py"]),
          ("/", ["index.py"])] := by
    rw [discover_eq_modules, ordered]
    decide +kernel
  have apart : ¬Collide here := (discover_isOk_iff_of_plain named distinct plain).mp ⟨_, found⟩
  have post : IsPage here ["blog", "[slug]"] :=
    ⟨(isPage_iff (by decide)).mp (by decide), _, rfl⟩
  have docs : IsPage here ["docs", "index"] := ⟨(isPage_iff (by decide)).mp (by decide), _, rfl⟩
  have top : IsPage here ["index"] := ⟨(isPage_iff (by decide)).mp (by decide), _, rfl⟩
  obtain ⟨-, separate⟩ := pages_on_disk named distinct plain
    (show openAt "pages" here = .ok {} from rfl) [.load "/docs", .load "/"]
  obtain ⟨-, ids, ok, -, members, loaded⟩ := separate apart
  refine ⟨ids, ok, ?_, ?_, ?_, ?_, ?_⟩
  · exact (members "/").mpr ⟨_, top, by decide⟩
  · exact (members "/docs").mpr ⟨_, docs, by decide⟩
  · intro member
    obtain ⟨page, isPage, same⟩ := (members "/api/users").mp member
    have listed := (mem_pages_iff distinct found).mpr
      ⟨page, (listed_iff plain).mpr isPage, same, rfl⟩
    simp at listed
  · have returned := (loaded _ ⟨[], none⟩ post.counts rfl).1
    exact returned
  · have returned := (loaded _ broken docs.counts rfl).1
    exact ⟨_, returned⟩

end PagesDirectory

end Prerender
