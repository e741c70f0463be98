import Prerender.Files.PagesDirectory
import Prerender.Proofs.Bindings
import Prerender.Proofs.Except
import Prerender.Proofs.Files.Tree

/-!
# What is discovered in a pages directory

A page is named by the path of its module without the suffix (`fileOf`, `parts_fileOf`). What is
discovered is all that stands under such a name, unless the name does not count (`Listed`,
`mem_pages_iff`). Discovery succeeds exactly if no two of these have one id (`discover_isOk_iff`);
two names have one id only if one of them is that of the module `index` in a directory beside the
module of the other one (`namesOf_eq_iff`).
-/

namespace Prerender

open Pathname (IsComponent)

namespace PagesDirectory

/-! ### Names of modules -/

theorem isModuleName_iff {name : String} :
    isModuleName name = true ↔ ∃ base, name = base ++ ".py" := by
  have suffix : moduleSuffix = ".py".toList := by decide
  rw [isModuleName, List.isSuffixOf_iff_suffix, suffix]
  constructor
  · rintro ⟨base, same⟩
    refine ⟨String.ofList base, String.toList_inj.mp ?_⟩
    rw [← same, String.toList_append, String.toList_ofList, String.toList_ofList]
  · rintro ⟨base, rfl⟩
    rw [String.toList_append]
    exact List.suffix_append _ _

theorem stem_append {base : String} (filled : base ≠ "") : stem (base ++ ".py") = base := by
  have spelled : (base ++ ".py").toList = base.toList ++ moduleSuffix := by
    rw [String.toList_append]
    rfl
  have longer : base.toList ++ moduleSuffix ≠ moduleSuffix := by
    simpa using filled
  rw [stem, spelled, if_neg longer, List.length_append, Nat.add_sub_cancel, List.take_left,
    String.ofList_toList]

/-- The file of a page. -/
def fileOf (page : TreePath) : TreePath :=
  page.dropLast ++ [page.getLastD "" ++ ".py"]

theorem fileOf_concat (above : TreePath) (base : String) :
    fileOf (above ++ [base]) = above ++ [base ++ ".py"] := by
  rw [fileOf, List.dropLast_concat, List.getLastD_concat]

theorem isModuleName_fileOf (page : TreePath) :
    isModuleName ((fileOf page).getLastD "") = true := by
  rw [fileOf, List.getLastD_concat, isModuleName_iff]
  exact ⟨_, rfl⟩

/-- The path of a page is read off its file. -/
theorem parts_fileOf {page : TreePath} (filled : page.getLastD "" ≠ "") :
    parts (fileOf page) = page := by
  rcases List.eq_nil_or_concat' page with rfl | ⟨above, base, rfl⟩
  · exact absurd rfl filled
  · rw [List.getLastD_concat] at filled
    rw [fileOf_concat, parts, List.dropLast_concat, List.getLastD_concat, stem_append filled]

/-! ### Names of pages -/

/-- The names on the way to a module are those of a page: its own is more than the suffix, none
starts with `_` or a dot, and it does not stand below the top directory `api`. -/
structure CountsAsPage (page : TreePath) : Prop where
  filled : page.getLastD "" ≠ ""
  notHidden : ∀ name ∈ page, Text.startsWithAny ['_', '.'] name = false
  notApi : ∀ below, page = "api" :: below → below = []

theorem isPage_iff {page : TreePath} (filled : page.getLastD "" ≠ "") :
    isPage page = true ↔ CountsAsPage page := by
  have api : (!(decide (1 < page.length) && decide (page.head? = some "api"))) = true
      ↔ ∀ below, page = "api" :: below → below = [] := by
    cases page with
    | nil => simp
    | cons first rest => cases rest <;> simp
  have shown : (!page.any (Text.startsWithAny ['_', '.'])) = true
      ↔ ∀ name ∈ page, Text.startsWithAny ['_', '.'] name = false := by
    simp
  rw [isPage, Bool.and_eq_true, api, shown]
  exact ⟨fun facts => ⟨filled, facts.2, facts.1⟩, fun counts => ⟨counts.notApi, counts.notHidden⟩⟩

/-- The modules whose names count are the files of pages. -/
theorem isPage_parts_iff {file : TreePath} :
    isModuleName (file.getLastD "") = true ∧ isPage (parts file) = true
      ↔ ∃ page, CountsAsPage page ∧ file = fileOf page := by
  constructor
  · rintro ⟨isModule, counts⟩
    obtain ⟨base, named⟩ := isModuleName_iff.mp isModule
    rcases List.eq_nil_or_concat' file with rfl | ⟨above, name, rfl⟩
    · cases isModule
    · rw [List.getLastD_concat] at named
      subst named
      by_cases filled : base = ""
      · -- The name is the bare suffix, which is kept and starts with a dot.
        subst filled
        have hidden : Text.startsWithAny ['_', '.'] (stem ("" ++ ".py")) = true := by decide
        rw [parts, List.dropLast_concat, List.getLastD_concat, isPage, List.any_append,
          List.any_cons, hidden] at counts
        simp at counts
      · rw [← fileOf_concat] at counts ⊢
        have lastFilled : (above ++ [base]).getLastD "" ≠ "" := by
          rwa [List.getLastD_concat]
        rw [parts_fileOf lastFilled, isPage_iff lastFilled] at counts
        exact ⟨_, counts, rfl⟩
  · rintro ⟨page, counts, rfl⟩
    rw [parts_fileOf counts.filled, isPage_iff counts.filled]
    exact ⟨isModuleName_fileOf page, counts⟩

/-- The names in the id of a page: those on the way to it, or to its directory if it is the module
`index` there. -/
def namesOf (page : TreePath) : List String :=
  if page.getLast? = some "index" then page.dropLast else page

/-- The id of a page. -/
def idOf (page : TreePath) : String :=
  "/" ++ "/".intercalate (namesOf page)

theorem pathnameOf_eq (page : TreePath) : pathnameOf page = idOf page :=
  Pathname.joinSlashes_eq (namesOf page)

/-- Two paths have the same names only if they are the same, or if one is that of the module `index`
in the directory of the other one's name. -/
theorem namesOf_eq_iff {page other : TreePath} :
    namesOf page = namesOf other
      ↔ page = other ∨ (page.getLast? ≠ some "index" ∧ other = page ++ ["index"])
        ∨ (other.getLast? ≠ some "index" ∧ page = other ++ ["index"]) := by
  have split : ∀ {path : TreePath}, path.getLast? = some "index" →
      path = path.dropLast ++ ["index"] := fun last => (List.dropLast_append_getLast? _ last).symm
  constructor
  · rw [namesOf, namesOf]
    intro same
    by_cases isIndex : page.getLast? = some "index"
    · by_cases otherIndex : other.getLast? = some "index"
      · rw [if_pos isIndex, if_pos otherIndex] at same
        rw [split isIndex, split otherIndex, same]
        exact Or.inl rfl
      · rw [if_pos isIndex, if_neg otherIndex] at same
        exact Or.inr (Or.inr ⟨otherIndex, same ▸ split isIndex⟩)
    · by_cases otherIndex : other.getLast? = some "index"
      · rw [if_neg isIndex, if_pos otherIndex] at same
        exact Or.inr (Or.inl ⟨isIndex, same ▸ split otherIndex⟩)
      · rw [if_neg isIndex, if_neg otherIndex] at same
        exact Or.inl same
  · have beside : ∀ {path : TreePath}, path.getLast? ≠ some "index" →
        namesOf path = namesOf (path ++ ["index"]) := by
      intro path noIndex
      rw [namesOf, namesOf, if_neg noIndex, if_pos List.getLast?_concat, List.dropLast_concat]
    rintro (rfl | ⟨noIndex, rfl⟩ | ⟨noIndex, rfl⟩)
    · rfl
    · exact beside noIndex
    · exact (beside noIndex).symm

/-- Paths of some kind are told apart by their names unless two of them collide. -/
theorem injOn_namesOf_iff {P : TreePath → Prop} :
    (∀ page other, P page → P other → namesOf page = namesOf other → page = other)
      ↔ ¬∃ page, page.getLast? ≠ some "index" ∧ P page ∧ P (page ++ ["index"]) := by
  constructor
  · rintro unique ⟨page, noIndex, isPage, isIndex⟩
    have same := unique page _ isPage isIndex
      (namesOf_eq_iff.mpr (Or.inr (Or.inl ⟨noIndex, rfl⟩)))
    exact List.cons_ne_nil _ _ (List.self_eq_append_right.mp same)
  · intro apart page other isPage isOther same
    rcases namesOf_eq_iff.mp same with rfl | ⟨noIndex, rfl⟩ | ⟨noIndex, rfl⟩
    · rfl
    · exact absurd ⟨page, noIndex, isPage, isOther⟩ apart
    · exact absurd ⟨other, noIndex, isOther, isPage⟩ apart

/-! ### Modules of a directory -/

mutual

/-- The modules are found among all paths, by their last names. -/
theorem moduleNames_eq (path : TreePath) : ∀ tree : FileTree,
    moduleNames path tree
      = (tree.paths.filter fun below => isModuleName (below.getLastD "")).map (path ++ ·)
  | .file _ => by
    rw [moduleNames, FileTree.paths]
    rfl
  | .directory entries => by
    rw [moduleNames, FileTree.paths]
    exact moduleNamesBelow_eq path entries

theorem moduleNamesBelow_eq (path : TreePath) : ∀ entries : List (String × FileTree),
    moduleNamesBelow path entries
      = ((FileTree.pathsBelow entries).filter fun below => isModuleName (below.getLastD "")).map
          (path ++ ·)
  | [] => by
    rw [moduleNamesBelow, FileTree.pathsBelow]
    rfl
  | (name, tree) :: rest => by
    have below : (tree.paths.map (name :: ·)).filter (fun path => isModuleName (path.getLastD ""))
        = (tree.paths.filter fun path => isModuleName (path.getLastD "")).map (name :: ·) := by
      rw [List.filter_map]
      congr 1
      refine List.filter_congr fun path member => ?_
      obtain ⟨first, more, rfl⟩ := List.exists_cons_of_ne_nil (FileTree.ne_nil_of_mem_paths member)
      rw [Function.comp_apply, List.getLastD_cons, List.getLastD_cons, List.getLastD_cons]
    have here : (if isModuleName name then [path ++ [name]] else [])
        = ([[name]].filter fun path => isModuleName (path.getLastD "")).map (path ++ ·) := by
      cases isModule : isModuleName name <;> simp [isModule]
    have first : [name] :: tree.paths.map (name :: ·) = [[name]] ++ tree.paths.map (name :: ·) :=
      rfl
    rw [moduleNamesBelow, FileTree.pathsBelow, moduleNames_eq, moduleNamesBelow_eq, here, first,
      List.filter_append, List.filter_append, below, List.map_append, List.map_append, List.map_map]
    simp only [Function.comp_def, List.append_assoc, List.singleton_append]

end

/-- The modules below a tree, in the order of their paths. -/
def modules (tree : FileTree) : List TreePath :=
  (moduleNames [] tree).mergeSort TreePath.before

theorem discover_eq_modules (root : String) (tree : FileTree) :
    discover root (.present tree) = (pagesAmong root [] (modules tree)).mapError .failure :=
  rfl

theorem mem_modules_iff {tree : FileTree} (distinct : tree.Distinct) {file : TreePath} :
    file ∈ modules tree
      ↔ (Place.present tree).Holds file ∧ isModuleName (file.getLastD "") = true := by
  have below : ∀ path : TreePath, [] ++ path = path := List.nil_append
  rw [modules, List.mem_mergeSort, moduleNames_eq, List.map_congr_left fun path _ => below path,
    List.map_id', List.mem_filter, FileTree.mem_paths_iff distinct]
  constructor
  · rintro ⟨⟨-, holds⟩, isModule⟩
    exact ⟨holds, isModule⟩
  · rintro ⟨holds, isModule⟩
    refine ⟨⟨?_, holds⟩, isModule⟩
    rintro rfl
    cases isModule

theorem nodup_modules {tree : FileTree} (distinct : tree.Distinct) : (modules tree).Nodup := by
  rw [modules, (List.mergeSort_perm _ _).nodup_iff, moduleNames_eq]
  exact ((FileTree.nodup_paths distinct).filter _).map (List.append_right_injective [])

/-! ### Pages among modules -/

/-- The pages among some files, by their pathnames. -/
def pagesOf (files : List TreePath) : Bindings TreePath :=
  (files.filter fun file => isPage (parts file)).map fun file => (pathnameOf (parts file), file)

theorem pagesOf_cons_of_page {file : TreePath} (counts : isPage (parts file) = true)
    (rest : List TreePath) :
    pagesOf (file :: rest) = (pathnameOf (parts file), file) :: pagesOf rest := by
  rw [pagesOf, List.filter_cons, if_pos counts, List.map_cons, pagesOf]

theorem pagesOf_cons_of_other {file : TreePath} (other : isPage (parts file) = false)
    (rest : List TreePath) : pagesOf (file :: rest) = pagesOf rest := by
  rw [pagesOf, List.filter_cons, other, if_neg Bool.false_ne_true, pagesOf]

/-- The pages among some files are all of them, unless two have one pathname. -/
theorem pagesAmong_eq_ok_iff {root : String} {files : List TreePath}
    {found pages : Bindings TreePath} (nodup : found.names.Nodup) :
    pagesAmong root found files = .ok pages
      ↔ (found ++ pagesOf files).names.Nodup ∧ found ++ pagesOf files = pages := by
  induction files generalizing found with
  | nil =>
    have none : found ++ pagesOf [] = found := List.append_nil found
    rw [pagesAmong, Except.ok.injEq, none]
    exact ⟨fun same => ⟨nodup, same⟩, fun facts => facts.2⟩
  | cons file rest ih =>
    rw [pagesAmong]
    cases counts : isPage (parts file) with
    | false =>
      rw [if_neg Bool.false_ne_true, pagesOf_cons_of_other counts]
      exact ih nodup
    | true =>
      simp only [if_true, pagesOf_cons_of_page counts]
      cases first : found.lookup? (pathnameOf (parts file)) with
      | some other =>
        refine iff_of_false (by rintro ⟨⟩) ?_
        rintro ⟨distinct, -⟩
        exact Bindings.not_nodup_of_bound first _ _ distinct
      | none =>
        have behind := Bindings.assign_eq_append (Bindings.lookup?_eq_none_iff.mp first) file
        simp only [behind]
        rw [ih, List.append_assoc, List.singleton_append]
        rw [← behind]
        exact Bindings.nodup_names_assign nodup _ _

/-- What goes wrong is that a file has the pathname of an earlier one. -/
theorem pagesAmong_failsWith (root : String) (found : Bindings TreePath) (files : List TreePath) :
    Except.FailsWith (fun failure => ∃ earlier second later first,
        files = earlier ++ second :: later ∧ isPage (parts second) = true
        ∧ (pathnameOf (parts second), first) ∈ found ++ pagesOf earlier
        ∧ failure = .structural (.duplicatePage (pathnameOf (parts second)) (first.shown root)
            (second.shown root)))
      (pagesAmong root found files) := by
  induction files generalizing found with
  | nil => exact .ok found
  | cons file rest ih =>
    rw [pagesAmong]
    cases counts : isPage (parts file) with
    | false =>
      rw [if_neg Bool.false_ne_true]
      intro failure failed
      obtain ⟨earlier, second, later, first, rfl, isLater, known, rfl⟩ := ih found failure failed
      refine ⟨file :: earlier, second, later, first, rfl, isLater, ?_, rfl⟩
      rwa [pagesOf_cons_of_other counts]
    | true =>
      simp only [if_true]
      cases bound : found.lookup? (pathnameOf (parts file)) with
      | some first =>
        refine .error ⟨[], file, rest, first, rfl, counts, ?_, rfl⟩
        exact List.mem_append_left _ (Bindings.mem_of_lookup? bound)
      | none =>
        have behind := Bindings.assign_eq_append (Bindings.lookup?_eq_none_iff.mp bound) file
        simp only [behind]
        intro failure failed
        obtain ⟨earlier, second, later, first, rfl, isLater, known, rfl⟩ := ih _ failure failed
        refine ⟨file :: earlier, second, later, first, rfl, isLater, ?_, rfl⟩
        rwa [List.append_assoc, List.singleton_append, ← pagesOf_cons_of_page counts] at known

/-! ### Discovery -/

/-- Something stands at the file of a page, be it a file or not. -/
structure Listed (here : Place) (page : TreePath) : Prop where
  counts : CountsAsPage page
  holds : here.Holds (fileOf page)

variable {root : String} {tree : FileTree}

theorem mem_filter_modules_iff (distinct : tree.Distinct) {file : TreePath} :
    file ∈ (modules tree).filter (fun file => isPage (parts file))
      ↔ ∃ page, Listed (.present tree) page ∧ file = fileOf page := by
  rw [List.mem_filter, mem_modules_iff distinct, and_assoc, isPage_parts_iff]
  constructor
  · rintro ⟨holds, page, counts, rfl⟩
    exact ⟨page, ⟨counts, holds⟩, rfl⟩
  · rintro ⟨page, listed, rfl⟩
    exact ⟨listed.holds, page, listed.counts, rfl⟩

theorem Listed.pathnameOf_parts {here : Place} {page : TreePath} (listed : Listed here page) :
    pathnameOf (parts (fileOf page)) = idOf page := by
  rw [parts_fileOf listed.counts.filled, pathnameOf_eq]

/-- The names on the way to a listed page are path components. -/
theorem Listed.wellNamed (named : tree.WellNamed) {page : TreePath}
    (listed : Listed (.present tree) page) : page.WellNamed := by
  obtain ⟨inner, stands⟩ := listed.holds
  have ofFile : (fileOf page).WellNamed := named.of_find stands
  rcases List.eq_nil_or_concat' page with rfl | ⟨above, base, rfl⟩
  · exact fun _ member => absurd member List.not_mem_nil
  · have filled := listed.counts.filled
    rw [List.getLastD_concat] at filled
    rw [fileOf_concat] at ofFile
    have components := List.forall_mem_append.mp ofFile
    refine TreePath.WellNamed.append components.1 ⟨filled, ?_⟩
    have whole := (List.forall_mem_singleton.mp components.2).2
    rw [String.toList_append, List.mem_append, not_or] at whole
    exact whole.1

/-- Two listed pages have one id if they have the same names. -/
theorem Listed.idOf_eq_iff (named : tree.WellNamed) {page other : TreePath}
    (listed : Listed (.present tree) page) (otherListed : Listed (.present tree) other) :
    idOf page = idOf other ↔ namesOf page = namesOf other := by
  have components : ∀ {page : TreePath}, Listed (.present tree) page →
      ∀ name ∈ namesOf page, IsComponent name := by
    intro page listed name member
    refine listed.wellNamed named name ?_
    rw [namesOf] at member
    split at member
    · exact (List.dropLast_prefix page).subset member
    · exact member
  rw [← pathnameOf_eq, ← pathnameOf_eq]
  exact Pathname.joinSlashes_inj_iff (components listed) (components otherListed)

theorem discover_eq_ok_iff {pages : Bindings TreePath} :
    discover root (.present tree) = .ok pages
      ↔ (pagesOf (modules tree)).names.Nodup ∧ pagesOf (modules tree) = pages := by
  have none : (Bindings.names ([] : Bindings TreePath)).Nodup := List.nodup_nil
  rw [discover_eq_modules, Except.mapError_eq_ok_iff, pagesAmong_eq_ok_iff none, List.nil_append]

/-- Discovery succeeds exactly if no two listed pages have the same names. -/
theorem discover_isOk_iff (named : tree.WellNamed) (distinct : tree.Distinct) :
    (∃ pages, discover root (.present tree) = .ok pages)
      ↔ ∀ page other, Listed (.present tree) page → Listed (.present tree) other →
          namesOf page = namesOf other → page = other := by
  have names : (pagesOf (modules tree)).names
      = ((modules tree).filter fun file => isPage (parts file)).map
          fun file => pathnameOf (parts file) := by
    rw [pagesOf, Bindings.names, List.map_map]
    rfl
  simp only [discover_eq_ok_iff, exists_and_left, exists_eq', and_true]
  rw [names, List.nodup_map_iff_inj_on ((nodup_modules distinct).filter _)]
  constructor
  · intro unique page other listed otherListed same
    have files : fileOf page = fileOf other := by
      refine unique _ ((mem_filter_modules_iff distinct).mpr ⟨page, listed, rfl⟩) _
        ((mem_filter_modules_iff distinct).mpr ⟨other, otherListed, rfl⟩) ?_
      rw [listed.pathnameOf_parts, otherListed.pathnameOf_parts,
        listed.idOf_eq_iff named otherListed]
      exact same
    rw [← parts_fileOf listed.counts.filled, files, parts_fileOf otherListed.counts.filled]
  · intro unique file isFile second isSecond same
    obtain ⟨page, listed, rfl⟩ := (mem_filter_modules_iff distinct).mp isFile
    obtain ⟨other, otherListed, rfl⟩ := (mem_filter_modules_iff distinct).mp isSecond
    rw [listed.pathnameOf_parts, otherListed.pathnameOf_parts,
      listed.idOf_eq_iff named otherListed] at same
    rw [unique page other listed otherListed same]

/-- What is discovered is the listed pages, each by its id. -/
theorem mem_pages_iff (distinct : tree.Distinct) {pages : Bindings TreePath}
    (found : discover root (.present tree) = .ok pages) {routeId : String} {file : TreePath} :
    (routeId, file) ∈ pages
      ↔ ∃ page, Listed (.present tree) page ∧ routeId = idOf page ∧ file = fileOf page := by
  obtain ⟨-, rfl⟩ := discover_eq_ok_iff.mp found
  rw [pagesOf, List.mem_map]
  constructor
  · rintro ⟨_, member, same⟩
    obtain ⟨page, listed, rfl⟩ := (mem_filter_modules_iff distinct).mp member
    cases same
    exact ⟨page, listed, listed.pathnameOf_parts, rfl⟩
  · rintro ⟨page, listed, rfl, rfl⟩
    refine ⟨_, (mem_filter_modules_iff distinct).mpr ⟨page, listed, rfl⟩, ?_⟩
    rw [listed.pathnameOf_parts]

theorem lookup?_of_listed (distinct : tree.Distinct) {pages : Bindings TreePath}
    (found : discover root (.present tree) = .ok pages) {page : TreePath}
    (listed : Listed (.present tree) page) : pages.lookup? (idOf page) = some (fileOf page) := by
  have member : (idOf page, fileOf page) ∈ pages :=
    (mem_pages_iff distinct found).mpr ⟨page, listed, rfl, rfl⟩
  obtain ⟨nodup, rfl⟩ := discover_eq_ok_iff.mp found
  exact Bindings.lookup?_of_mem nodup member

/-- The ids of the pages that are discovered, in order, each once. -/
theorem pairwise_names_sorted {pages : Bindings TreePath}
    (found : discover root (.present tree) = .ok pages) :
    pages.sorted.names.Pairwise (· < ·) := by
  obtain ⟨nodup, rfl⟩ := discover_eq_ok_iff.mp found
  exact Bindings.pairwise_names_sorted nodup

theorem mem_names_sorted_iff (distinct : tree.Distinct) {pages : Bindings TreePath}
    (found : discover root (.present tree) = .ok pages) {routeId : String} :
    routeId ∈ pages.sorted.names
      ↔ ∃ page, Listed (.present tree) page ∧ routeId = idOf page := by
  rw [Bindings.names, List.mem_map]
  constructor
  · rintro ⟨⟨_, file⟩, member, rfl⟩
    obtain ⟨page, listed, same, -⟩ :=
      (mem_pages_iff distinct found).mp (List.mem_mergeSort.mp member)
    exact ⟨page, listed, same⟩
  · rintro ⟨page, listed, rfl⟩
    have member := Bindings.mem_of_lookup? (lookup?_of_listed distinct found listed)
    exact ⟨_, List.mem_mergeSort.mpr member, rfl⟩

/-- What goes wrong in discovery is a fault in the structure of the directory. -/
theorem discover_failsWith (root : String) (tree : FileTree) :
    Except.FailsWith (fun raised => ∃ fault, raised = .failure (.structural fault))
      (discover root (.present tree)) := by
  rintro raised failed
  rw [discover_eq_modules] at failed
  cases among : pagesAmong root [] (modules tree) with
  | ok pages =>
    rw [among] at failed
    cases failed
  | error failure =>
    obtain ⟨_, _, _, _, _, _, _, rfl⟩ := pagesAmong_failsWith root [] _ failure among
    rw [among] at failed
    cases failed
    exact ⟨_, rfl⟩

end PagesDirectory

end Prerender
