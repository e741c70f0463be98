import Mathlib.Data.List.Nodup
import Prerender.Files.Tree
import Prerender.Proofs.Pathname.Components

/-!
# Trees of files by their paths

The names in a tree of files are path components (`FileTree.WellNamed`), and no directory has two
entries of one name (`FileTree.Distinct`). All that stands below such a tree is listed by its paths
(`FileTree.paths`): a path is listed exactly if something stands there (`mem_paths_iff`), and none
is listed twice (`nodup_paths`).
-/

namespace Prerender

open Pathname (IsComponent)

namespace FileTree

mutual

/-- Every name in a tree is a path component. -/
def WellNamed : FileTree → Prop
  | .file _ => True
  | .directory entries => WellNamedBelow entries
termination_by structural tree => tree

/-- Every name among some entries and below them is a path component. -/
def WellNamedBelow : List (String × FileTree) → Prop
  | [] => True
  | (name, tree) :: rest => IsComponent name ∧ tree.WellNamed ∧ WellNamedBelow rest
termination_by structural entries => entries

end

mutual

/-- No directory of a tree has two entries of one name. -/
def Distinct : FileTree → Prop
  | .file _ => True
  | .directory entries => (Bindings.names entries).Nodup ∧ DistinctBelow entries
termination_by structural tree => tree

/-- No directory among some entries and below them has two entries of one name. -/
def DistinctBelow : List (String × FileTree) → Prop
  | [] => True
  | (_, tree) :: rest => tree.Distinct ∧ DistinctBelow rest
termination_by structural entries => entries

end

theorem wellNamed_of_mem {entries : List (String × FileTree)} (named : WellNamedBelow entries)
    {name : String} {tree : FileTree} (member : (name, tree) ∈ entries) :
    IsComponent name ∧ tree.WellNamed := by
  induction entries with
  | nil => cases member
  | cons entry rest ih =>
    obtain ⟨_, _⟩ := entry
    rw [WellNamedBelow] at named
    rcases List.mem_cons.mp member with same | later
    · cases same
      exact ⟨named.1, named.2.1⟩
    · exact ih named.2.2 later

theorem distinct_of_mem {entries : List (String × FileTree)} (distinct : DistinctBelow entries)
    {name : String} {tree : FileTree} (member : (name, tree) ∈ entries) : tree.Distinct := by
  induction entries with
  | nil => cases member
  | cons entry rest ih =>
    obtain ⟨_, _⟩ := entry
    rw [DistinctBelow] at distinct
    rcases List.mem_cons.mp member with same | later
    · cases same
      exact distinct.1
    · exact ih distinct.2 later

/-! ### What stands at a path -/

theorem find_cons {entries : List (String × FileTree)} {name : String} {tree : FileTree}
    (found : Bindings.lookup? entries name = some tree) (rest : TreePath) :
    (FileTree.directory entries).find (name :: rest) = tree.find rest := by
  rw [find, found]

theorem find_nil (tree : FileTree) : tree.find [] = .present tree := by
  cases tree <;> rfl

/-- What stands below a name stands in a directory that has an entry of that name. -/
theorem exists_of_find_cons {tree inner : FileTree} {name : String} {rest : TreePath}
    (stands : tree.find (name :: rest) = .present inner) :
    ∃ entries child, tree = .directory entries ∧ Bindings.lookup? entries name = some child
      ∧ child.find rest = .present inner := by
  cases tree with
  | file _ => cases stands
  | directory entries =>
    cases found : Bindings.lookup? entries name with
    | none =>
      rw [find, found] at stands
      cases stands
    | some child =>
      rw [find_cons found] at stands
      exact ⟨entries, child, rfl, found, stands⟩

theorem find_append (tree : FileTree) (path rest : TreePath) :
    tree.find (path ++ rest) = (tree.find path).find rest := by
  induction path generalizing tree with
  | nil =>
    rw [List.nil_append, find_nil]
    rfl
  | cons name path ih =>
    cases tree with
    | file _ => rfl
    | directory entries =>
      rw [List.cons_append, find, find]
      cases Bindings.lookup? entries name with
      | none => rfl
      | some child => exact ih child

end FileTree

/-- All names on a way are path components. -/
def TreePath.WellNamed (path : TreePath) : Prop :=
  ∀ name ∈ path, IsComponent name

theorem TreePath.WellNamed.append {path : TreePath} (named : path.WellNamed) {name : String}
    (component : IsComponent name) : TreePath.WellNamed (path ++ [name]) :=
  List.forall_mem_append.mpr ⟨named, List.forall_mem_singleton.mpr component⟩

/-- The names on the way to whatever stands in a tree are path components. -/
theorem FileTree.WellNamed.of_find {tree inner : FileTree} (named : tree.WellNamed)
    {path : TreePath} (stands : tree.find path = .present inner) : path.WellNamed := by
  induction path generalizing tree with
  | nil => exact fun _ member => absurd member List.not_mem_nil
  | cons name rest ih =>
    obtain ⟨entries, child, rfl, found, stands⟩ := exists_of_find_cons stands
    rw [FileTree.WellNamed] at named
    obtain ⟨component, named⟩ := wellNamed_of_mem named (Bindings.mem_of_lookup? found)
    exact List.forall_mem_cons.mpr ⟨component, ih named stands⟩

namespace Place

/-- What stands at a place, if anything does, is well named. -/
def WellNamed (here : Place) : Prop :=
  ∀ tree, here = .present tree → tree.WellNamed

theorem find_nil (here : Place) : here.find [] = here := by
  cases here with
  | present tree =>
    cases tree with
    | file _ => rfl
    | directory _ => rfl
  | missing => rfl
  | obstructed => rfl

/-- There is a file at a path. -/
def IsFile (here : Place) (path : TreePath) : Prop :=
  ∃ source, here.find path = .present (.file source)

/-- There is a directory at a path. -/
def IsDirectory (here : Place) (path : TreePath) : Prop :=
  ∃ entries, here.find path = .present (.directory entries)

/-- There is a file or a directory at a path. -/
def Holds (here : Place) (path : TreePath) : Prop :=
  ∃ tree, here.find path = .present tree

theorem holds_iff {here : Place} {path : TreePath} :
    here.Holds path ↔ here.IsFile path ∨ here.IsDirectory path := by
  constructor
  · rintro ⟨source | entries, stands⟩
    · exact Or.inl ⟨source, stands⟩
    · exact Or.inr ⟨entries, stands⟩
  · rintro (⟨source, stands⟩ | ⟨entries, stands⟩)
    · exact ⟨_, stands⟩
    · exact ⟨_, stands⟩

end Place

/-! ### All paths -/

namespace FileTree

mutual

/-- The paths of all that stands below a tree. -/
def paths : FileTree → List TreePath
  | .file _ => []
  | .directory entries => pathsBelow entries
termination_by structural tree => tree

/-- The paths of some entries and of all that stands below them. -/
def pathsBelow : List (String × FileTree) → List TreePath
  | [] => []
  | (name, tree) :: rest => ([name] :: tree.paths.map (name :: ·)) ++ pathsBelow rest
termination_by structural entries => entries

end

theorem mem_pathsBelow_iff {entries : List (String × FileTree)} {path : TreePath} :
    path ∈ pathsBelow entries
      ↔ ∃ name tree, (name, tree) ∈ entries
          ∧ ∃ rest, path = name :: rest ∧ (rest = [] ∨ rest ∈ tree.paths) := by
  induction entries with
  | nil =>
    rw [pathsBelow]
    exact iff_of_false List.not_mem_nil (by rintro ⟨_, _, member, _⟩; cases member)
  | cons entry others ih =>
    obtain ⟨first, child⟩ := entry
    rw [pathsBelow, List.mem_append, List.mem_cons, List.mem_map, ih]
    constructor
    · rintro ((rfl | ⟨rest, member, rfl⟩) | ⟨name, tree, member, below⟩)
      · exact ⟨first, child, List.mem_cons_self, [], rfl, Or.inl rfl⟩
      · exact ⟨first, child, List.mem_cons_self, rest, rfl, Or.inr member⟩
      · exact ⟨name, tree, List.mem_cons_of_mem _ member, below⟩
    · rintro ⟨name, tree, member, rest, rfl, below⟩
      rcases List.mem_cons.mp member with same | later
      · cases same
        rcases below with rfl | below
        · exact Or.inl (Or.inl rfl)
        · exact Or.inl (Or.inr ⟨rest, below, rfl⟩)
      · exact Or.inr ⟨name, tree, later, rest, rfl, below⟩

theorem ne_nil_of_mem_paths {tree : FileTree} {path : TreePath} (member : path ∈ tree.paths) :
    path ≠ [] := by
  cases tree with
  | file _ =>
    rw [paths] at member
    cases member
  | directory entries =>
    rw [paths, mem_pathsBelow_iff] at member
    obtain ⟨name, _, _, rest, rfl, _⟩ := member
    exact List.cons_ne_nil name rest

/-- A path is listed exactly if something stands there. -/
theorem mem_paths_iff {tree : FileTree} (distinct : tree.Distinct) {path : TreePath} :
    path ∈ tree.paths ↔ path ≠ [] ∧ (Place.present tree).Holds path := by
  induction path generalizing tree with
  | nil =>
    exact iff_of_false (fun member => ne_nil_of_mem_paths member rfl) fun facts => facts.1 rfl
  | cons name rest ih =>
    cases tree with
    | file source =>
      rw [paths]
      exact iff_of_false List.not_mem_nil (by rintro ⟨-, _, ⟨⟩⟩)
    | directory entries =>
      rw [Distinct] at distinct
      rw [paths, mem_pathsBelow_iff]
      have below : ∀ {child : FileTree}, child.Distinct →
          ((rest = [] ∨ rest ∈ child.paths) ↔ (Place.present child).Holds rest) := by
        intro child childDistinct
        by_cases last : rest = []
        · rw [last]
          exact iff_of_true (Or.inl rfl) ⟨child, find_nil child⟩
        · rw [ih childDistinct, or_iff_right last, and_iff_right last]
      constructor
      · rintro ⟨other, child, member, more, same, listed⟩
        cases same
        obtain ⟨inner, stands⟩ := (below (distinct_of_mem distinct.2 member)).mp listed
        refine ⟨List.cons_ne_nil _ _, inner, ?_⟩
        rw [Place.find, find_cons (Bindings.lookup?_of_mem distinct.1 member)]
        exact stands
      · rintro ⟨-, inner, stands⟩
        obtain ⟨_, child, same, found, stands⟩ := exists_of_find_cons stands
        cases same
        have member := Bindings.mem_of_lookup? found
        exact ⟨name, child, member, rest, rfl,
          (below (distinct_of_mem distinct.2 member)).mpr ⟨inner, stands⟩⟩

mutual

/-- No path is listed twice. -/
theorem nodup_paths : ∀ {tree : FileTree}, tree.Distinct → tree.paths.Nodup
  | .file _, _ => by
    rw [paths]
    exact List.nodup_nil
  | .directory entries, distinct => by
    rw [Distinct] at distinct
    rw [paths]
    exact nodup_pathsBelow distinct.1 distinct.2

theorem nodup_pathsBelow : ∀ {entries : List (String × FileTree)},
    (Bindings.names entries).Nodup → DistinctBelow entries → (pathsBelow entries).Nodup
  | [], _, _ => by
    rw [pathsBelow]
    exact List.nodup_nil
  | (name, tree) :: rest, unique, distinct => by
    rw [DistinctBelow] at distinct
    rw [Bindings.names_cons, List.nodup_cons] at unique
    rw [pathsBelow]
    refine List.Nodup.append ?_ (nodup_pathsBelow unique.2 distinct.2) ?_
    · refine List.nodup_cons.mpr ⟨?_, (nodup_paths distinct.1).map List.cons_injective⟩
      intro member
      obtain ⟨path, isPath, same⟩ := List.mem_map.mp member
      exact ne_nil_of_mem_paths isPath (List.cons.inj same).2
    · -- The paths of the two parts differ in their first names.
      intro path here later
      obtain ⟨other, child, member, below, rfl, -⟩ := mem_pathsBelow_iff.mp later
      have first : other = name := by
        rcases List.mem_cons.mp here with same | inside
        · exact (List.cons.inj same).1
        · obtain ⟨_, -, same⟩ := List.mem_map.mp inside
          exact (List.cons.inj same).1.symm
      exact unique.1 (List.mem_map.mpr ⟨_, member, first⟩)

end

end FileTree

end Prerender
