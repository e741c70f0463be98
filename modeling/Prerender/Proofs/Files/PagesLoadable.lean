import Prerender.Proofs.Files.PagesOnDisk

/-!
# Listed pages that cannot be loaded

The pages of a directory are listed by their names, but loaded from files. So where a directory has
the name of a page, the id of that page is listed but cannot be loaded (`load_page_directory`), and
it may stand in the way of the module `index` below it. `listed_pages_load` says which ids are
listed, what loading each of them gives, and when listing fails: every listed id can be loaded
exactly if no directory has the name of a page, and where none has it, listing fails for files only.
-/

namespace Prerender

namespace PagesDirectory

open Loading (Faithful)
open ModuleCache (importRaised)

/-- A directory has the name of a page. -/
def IsPageDirectory (here : Place) (page : TreePath) : Prop :=
  CountsAsPage page ∧ here.IsDirectory (fileOf page)

/-- Of two entries with names of pages, one has the name of the other's directory and the other one
is `index` there. -/
def Doubled (here : Place) : Prop :=
  ∃ page, page.getLast? ≠ some "index" ∧ Listed here page ∧ Listed here (page ++ ["index"])

/-- What was loaded for an id is the page of that id, or what executing its module raised. -/
inductive IsAnswer (root : String) (here : Place) (routeId : String) : Except Raised Route → Prop
  where
  | page (module : LoadedModule) :
    IsAnswer root here routeId (.ok (.listed ⟨routeId, routeId, module⟩))
  | raised {page : TreePath} {source : ModuleSource} {raised : Raised} (counts : CountsAsPage page)
      (names : routeId = idOf page) (stands : here.find (fileOf page) = .present (.file source))
      (raises : source.raised = some raised) :
    IsAnswer root here routeId (.error (importRaised root (fileOf page) raised))

variable {root : String} {here : Place} {tree : FileTree} {page : TreePath}

/-! ### Entries -/

/-- What is listed is a page in a file or a directory of the name of a page. -/
theorem listed_cases : Listed here page ↔ IsPage here page ∨ IsPageDirectory here page := by
  constructor
  · rintro ⟨counts, holds⟩
    exact (Place.holds_iff.mp holds).imp (⟨counts, ·⟩) (⟨counts, ·⟩)
  · rintro (⟨counts, isFile⟩ | ⟨counts, isDirectory⟩)
    · exact ⟨counts, Place.holds_iff.mpr (.inl isFile)⟩
    · exact ⟨counts, Place.holds_iff.mpr (.inr isDirectory)⟩

/-- Without directories of the name of a page only files can collide. -/
theorem doubled_iff_collide (none : ¬∃ page, IsPageDirectory here page) :
    Doubled here ↔ Collide here := by
  have files : ∀ page, Listed here page ↔ IsPage here page := fun page =>
    listed_cases.trans (or_iff_left fun isDirectory => none ⟨page, isDirectory⟩)
  simp only [Doubled, Collide, files]

/-- Discovery finds pages, or finds two entries of one pathname. -/
theorem discover_cases (root : String) (tree : FileTree) :
    (∃ pages, discover root (.present tree) = .ok pages)
      ∨ ∃ pathname first second, discover root (.present tree)
          = .error (.failure (.structural (.duplicatePage pathname first second))) := by
  rw [discover_eq_modules]
  cases among : pagesAmong root [] (modules tree) with
  | ok pages => exact .inl ⟨pages, rfl⟩
  | error failure =>
    obtain ⟨_, _, _, _, _, _, _, rfl⟩ := pagesAmong_failsWith root [] _ failure among
    exact .inr ⟨_, _, _, rfl⟩

/-- Discovery succeeds exactly if no two entries with names of pages have one pathname. -/
theorem discover_isOk_iff_not_doubled (named : tree.WellNamed) (distinct : tree.Distinct) :
    (∃ pages, discover root (.present tree) = .ok pages) ↔ ¬Doubled (.present tree) := by
  rw [discover_isOk_iff named distinct, injOn_namesOf_iff]
  rfl

/-- Modules that are met in order are not sorted. -/
theorem modules_eq_moduleNames
    (ordered : (moduleNames [] tree).Pairwise fun a b => TreePath.before a b = true) :
    modules tree = moduleNames [] tree := by
  rw [modules, List.mergeSort_of_pairwise ordered]

/-! ### Loading -/

/-- The id of a directory cannot be loaded. -/
theorem load_page_directory {pages : Bindings TreePath} (found : discover root here = .ok pages)
    {state : LoaderState TreePath} (faithful : Faithful (discover root here) here state)
    (known : pages.lookup? (idOf page) = some (fileOf page))
    (isDirectory : here.IsDirectory (fileOf page)) :
    ((load root here (idOf page)).outcome state).1
      = .error (.failure (.structural (.missingPage (idOf page)))) := by
  obtain ⟨entries, stands⟩ := isDirectory
  have absent : ∀ cache : ModuleCache, cache.load root here (fileOf page) = (.ok none, cache) := by
    intro cache
    rw [ModuleCache.load, stands]
  rw [load_outcome found faithful known, Loading.outcome_bind, Loading.outcome_module, absent]
  rfl

theorem isAnswer_pageOf {source : ModuleSource} (counts : CountsAsPage page)
    (stands : here.find (fileOf page) = .present (.file source)) :
    IsAnswer root here (idOf page) (pageOf root page source) := by
  rw [pageOf]
  cases raises : source.raised with
  | none => exact .page _
  | some raised => exact .raised counts rfl stands raises

/-- Whatever is raised for the id of a directory, it is not a module of that id that raises it. -/
theorem not_isAnswer_of_isPageDirectory (distinct : tree.Distinct) {pages : Bindings TreePath}
    (found : discover root (.present tree) = .ok pages)
    (isDirectory : IsPageDirectory (.present tree) page) (raised : Raised) :
    ¬IsAnswer root (.present tree) (idOf page) (.error raised) := by
  intro isAnswer
  cases isAnswer with
  | @raised other _ _ counts names stands _ =>
    have known := lookup?_of_listed distinct found (listed_cases.mpr (.inr isDirectory))
    have knownOther := lookup?_of_listed distinct found (⟨counts, _, stands⟩ : Listed _ other)
    rw [names, knownOther, Option.some.injEq] at known
    obtain ⟨entries, isDirectory⟩ := isDirectory.2
    rw [← known, stands] at isDirectory
    cases isDirectory

/-- A loader of a pages directory, behind any requests while the directory stays as it is. Listing
the ids fails exactly if two entries of the directory with names of pages have one pathname. Else
the ids of all entries with such names are listed; loading one of them gives the page or the failure
of executing its module where the entry is a file, and no page where it is a directory. So every
listed id can be loaded, unless executing its module raises, exactly if no directory has the name of
a page; and in this case listing fails exactly if the modules of two pages have one pathname. -/
theorem listed_pages_load (named : tree.WellNamed) (distinct : tree.Distinct)
    {fresh : LoaderState TreePath} (opened : openAt root (.present tree) = .ok fresh)
    (requests : List Request) :
    let here : Place := .present tree
    let state : LoaderState TreePath :=
      (requests.foldl (DirectoryKind.pages.perform root here) ⟨fresh, []⟩).loader
    let listed := ((routeIds root here).outcome state).1
    let loaded (routeId : String) := ((load root here routeId).outcome state).1
    ((∃ pathname first second,
          listed = .error (.failure (.structural (.duplicatePage pathname first second))))
        ↔ Doubled here)
      ∧ (¬Doubled here →
          ∃ ids, listed = .ok ids
            ∧ (∀ routeId, routeId ∈ ids ↔ ∃ page, Listed here page ∧ routeId = idOf page)
            ∧ (∀ page source, CountsAsPage page →
                here.find (fileOf page) = .present (.file source) →
                loaded (idOf page) = pageOf root page source)
            ∧ (∀ page, IsPageDirectory here page →
                loaded (idOf page) = .error (.failure (.structural (.missingPage (idOf page)))))
            ∧ ((∀ routeId ∈ ids, IsAnswer root here routeId (loaded routeId))
                ↔ ¬∃ page, IsPageDirectory here page))
      ∧ ((¬∃ page, IsPageDirectory here page) → (Doubled here ↔ Collide here)) := by
  have openedHere : DirectoryKind.pages.openAt root (.present tree) = .ok fresh := opened
  obtain rfl := DirectoryKind.eq_of_openAt openedHere
  intro here state listed loaded
  have faithful : Faithful (DirectoryKind.pages.discover root here) here state :=
    DirectoryKind.requests_faithful .fresh requests
  have listing : listed = (discover root here).map (·.sorted.names) :=
    (DirectoryKind.pages.routeIds_settles root here state faithful).1
  have succeeds : (∃ pages, discover root here = .ok pages) ↔ ¬Doubled here :=
    discover_isOk_iff_not_doubled named distinct
  rw [listing]
  refine ⟨?_, fun apart => ?_, doubled_iff_collide⟩
  · constructor
    · rintro ⟨_, _, _, failed⟩
      by_contra apart
      obtain ⟨pages, found⟩ := succeeds.mpr apart
      rw [found] at failed
      cases failed
    · intro doubled
      obtain ok | ⟨pathname, first, second, failed⟩ := discover_cases root tree
      · exact absurd doubled (succeeds.mp ok)
      · refine ⟨pathname, first, second, ?_⟩
        rw [failed]
        rfl
  · obtain ⟨pages, found⟩ := succeeds.mpr apart
    have ofFile : ∀ page source, CountsAsPage page →
        here.find (fileOf page) = .present (.file source) →
        loaded (idOf page) = pageOf root page source := by
      intro page source counts stands
      exact (load_page found faithful (lookup?_of_listed distinct found ⟨counts, _, stands⟩)
        stands).1
    have ofDirectory : ∀ page, IsPageDirectory here page →
        loaded (idOf page) = .error (.failure (.structural (.missingPage (idOf page)))) := by
      intro page isDirectory
      have known := lookup?_of_listed distinct found (listed_cases.mpr (.inr isDirectory))
      exact load_page_directory found faithful known isDirectory.2
    have members : ∀ routeId, routeId ∈ pages.sorted.names
        ↔ ∃ page, Listed here page ∧ routeId = idOf page :=
      fun routeId => mem_names_sorted_iff distinct found
    refine ⟨pages.sorted.names, by rw [found]; rfl, members, ofFile, ofDirectory, ?_⟩
    constructor
    · rintro loads ⟨page, isDirectory⟩
      have isAnswer := loads (idOf page)
        ((members _).mpr ⟨page, listed_cases.mpr (.inr isDirectory), rfl⟩)
      rw [ofDirectory page isDirectory] at isAnswer
      exact not_isAnswer_of_isPageDirectory distinct found isDirectory _ isAnswer
    · intro none routeId member
      obtain ⟨page, isListed, rfl⟩ := (members routeId).mp member
      obtain ⟨counts, source, stands⟩ | isDirectory := listed_cases.mp isListed
      · rw [ofFile page source counts stands]
        exact isAnswer_pageOf counts stands
      · exact absurd ⟨page, isDirectory⟩ none

theorem listed_pages_load_directory :
    let module : ModuleSource := ⟨[], none⟩
    let tree : FileTree := .directory
      [("index.py", .file module), ("x.py", .directory [("_part.py", .file module)])]
    let here : Place := .present tree
    let state : LoaderState TreePath :=
      ([.load "/x", .load "/"].foldl (DirectoryKind.pages.perform "pages" here) ⟨{}, []⟩).loader
    ∃ ids, ((routeIds "pages" here).outcome state).1 = .ok ids
      ∧ "/" ∈ ids ∧ "/x" ∈ ids
      ∧ ((load "pages" here "/").outcome state).1
        = .ok (.listed ⟨"/", "/", ⟨some "pages/index.py", .moduleObject []⟩⟩)
      ∧ ((load "pages" here "/x").outcome state).1
        = .error (.failure (.structural (.missingPage "/x"))) := by
  intro module tree here state
  have named : tree.WellNamed := by
    simp only [tree, FileTree.WellNamed, FileTree.WellNamedBelow, Pathname.IsComponent]
    decide
  have distinct : tree.Distinct := by
    simp only [tree, FileTree.Distinct, FileTree.DistinctBelow]
    decide
  have found : discover "pages" here = .ok [("/", ["index.py"]), ("/x", ["x.py"])] := by
    rw [discover_eq_modules, modules_eq_moduleNames (by decide +kernel)]
    decide +kernel
  have top : CountsAsPage ["index"] := (isPage_iff (by decide)).mp (by decide)
  have isDirectory : IsPageDirectory here ["x"] := ⟨(isPage_iff (by decide)).mp (by decide), _, rfl⟩
  obtain ⟨-, separate, -⟩ := listed_pages_load named distinct
    (show openAt "pages" here = .ok {} from rfl) [.load "/x", .load "/"]
  have apart : ¬Doubled here := (discover_isOk_iff_not_doubled named distinct).mp ⟨_, found⟩
  obtain ⟨ids, ok, members, ofFile, ofDirectory, -⟩ := separate apart
  refine ⟨ids, ok, ?_, ?_, ?_, ?_⟩
  · exact (members "/").mpr ⟨_, ⟨top, _, rfl⟩, by decide⟩
  · exact (members "/x").mpr ⟨_, listed_cases.mpr (.inr isDirectory), by decide⟩
  · have loaded := ofFile _ module top rfl
    exact loaded
  · have loaded := ofDirectory _ isDirectory
    exact loaded

/-- A directory is listed as a page that cannot be loaded, and listing fails for it although there
is the module of one page only. -/
theorem listed_pages_fail :
    let lone : Place := .present (.directory [("x.py", .directory [])])
    let beside : Place := .present (.directory
      [("x", .directory [("index.py", .file ⟨[], none⟩)]), ("x.py", .directory [])])
    ((routeIds "pages" lone).outcome {}).1 = .ok ["/x"]
      ∧ ((load "pages" lone "/x").outcome {}).1
        = .error (.failure (.structural (.missingPage "/x")))
      ∧ ((routeIds "pages" beside).outcome {}).1 = .error (.failure (.structural
          (.duplicatePage "/x" "pages/x/index.py" "pages/x.py")))
      ∧ ∀ page, IsPage beside page → page = ["x", "index"] := by
  intro lone beside
  have found : discover "pages" lone = .ok [("/x", ["x.py"])] := by
    rw [discover_eq_modules, modules_eq_moduleNames (by decide +kernel)]
    decide +kernel
  have failed : discover "pages" beside = .error (.failure (.structural
      (.duplicatePage "/x" "pages/x/index.py" "pages/x.py"))) := by
    rw [discover_eq_modules, modules_eq_moduleNames (by decide +kernel)]
    decide +kernel
  refine ⟨?_, ?_, ?_, ?_⟩
  · rw [routeIds, Loading.outcome_bind, Loading.outcome_discovered, found]
    simp only [Bindings.sorted, List.mergeSort_singleton]
    rfl
  · rw [load, Loading.outcome_bind, Loading.outcome_discovered, found]
    rfl
  · rw [routeIds, Loading.outcome_bind, Loading.outcome_discovered, failed]
  · rintro page ⟨counts, source, stands⟩
    have distinct : FileTree.Distinct (.directory
        [("x", .directory [("index.py", .file ⟨[], none⟩)]), ("x.py", .directory [])]) := by
      simp only [FileTree.Distinct, FileTree.DistinctBelow]
      decide
    have member := (mem_modules_iff distinct).mpr ⟨⟨_, stands⟩, isModuleName_fileOf page⟩
    have names : moduleNames [] (.directory
        [("x", .directory [("index.py", .file ⟨[], none⟩)]), ("x.py", .directory [])])
        = [["x", "index.py"], ["x.py"]] := by
      decide +kernel
    rw [modules_eq_moduleNames (by decide +kernel), names] at member
    obtain same | same : fileOf page = ["x", "index.py"] ∨ fileOf page = ["x.py"] := by
      simpa using member
    · rw [← parts_fileOf counts.filled, same]
      decide
    · rw [same] at stands
      cases stands

end PagesDirectory

end Prerender
