import Prerender.Files.AppDirectory
import Prerender.Proofs.Except
import Prerender.Proofs.Files.Tree

/-!
# What is discovered in an app directory

Where the names in a tree of files are path components, so are the names on the way to every route
that is discovered there (`path_of_discover`).
-/

namespace Prerender

open Pathname (IsComponent)

namespace AppDirectory

/-! ### Directories that are reached -/

mutual

theorem path_of_mem_reached {path : TreePath} (named : path.WellNamed) :
    ∀ {tree : FileTree}, tree.WellNamed → ∀ directory ∈ reached path tree,
      directory.path.WellNamed
  | .file _, _ => by
    rw [reached]
    exact fun _ member => absurd member List.not_mem_nil
  | .directory _, wellNamed => by
    rw [FileTree.WellNamed] at wellNamed
    rw [reached, List.forall_mem_cons]
    exact ⟨named, path_of_mem_reachedBelow named wellNamed⟩

theorem path_of_mem_reachedBelow {path : TreePath} (named : path.WellNamed) :
    ∀ {entries : List (String × FileTree)}, FileTree.WellNamedBelow entries →
      ∀ directory ∈ reachedBelow path entries, directory.path.WellNamed
  | [], _ => by
    rw [reachedBelow]
    exact fun _ member => absurd member List.not_mem_nil
  | (name, tree) :: rest, wellNamed => by
    rw [FileTree.WellNamedBelow] at wellNamed
    obtain ⟨component, below, others⟩ := wellNamed
    rw [reachedBelow, List.forall_mem_append]
    refine ⟨?_, path_of_mem_reachedBelow named others⟩
    split
    · exact fun _ member => absurd member List.not_mem_nil
    · exact path_of_mem_reached (named.append component) below

end

/-! ### Routes -/

/-- Every route that is found comes from one of the directories. -/
theorem routesAmong_path {root : String} {P : TreePath → Prop} {directories : List Reached}
    (each : ∀ directory ∈ directories, P directory.path) {found routes : Bindings FoundRoute}
    (before : ∀ route ∈ found, P route.2.path)
    (listed : routesAmong root found directories = .ok routes) :
    ∀ route ∈ routes, P route.2.path := by
  induction directories generalizing found with
  | nil =>
    cases listed
    exact before
  | cons directory rest ih =>
    obtain ⟨here, others⟩ := List.forall_mem_cons.mp each
    rw [routesAmong] at listed
    split at listed
    · cases listed
    · split at listed
      · simp only at listed
        split at listed
        · cases listed
        · refine ih others ?_ listed
          intro route member
          rcases Bindings.eq_or_mem_of_mem_assign member with rfl | old
          · exact here
          · exact before route old
      · exact ih others before listed

theorem find_of_listDirectory {root : String} {here : Place} {path : TreePath}
    {entries : List (String × FileTree)} (listed : listDirectory root here path = .ok entries) :
    here.find path = .present (.directory entries) := by
  unfold listDirectory at listed
  split at listed
  · next isDirectory =>
    cases listed
    exact isDirectory
  all_goals cases listed

/-- Where the directories are reached in the order of their paths, the routes are found in it. -/
theorem discover_of_ordered {root : String} {entries : List (String × FileTree)}
    (ordered : (reached [] (.directory entries)).Pairwise fun a b => a.path.before b.path) :
    discover root (.present (.directory entries))
      = (routesAmong root [] (reached [] (.directory entries))).mapError .failure := by
  have listed : listDirectory root (.present (.directory entries)) [] = .ok entries := rfl
  rw [discover, listed]
  change (routesAmong root [] (List.mergeSort _ _)).mapError Raised.failure = _
  rw [List.mergeSort_of_pairwise ordered]

/-- The names on the way to a discovered route are path components. -/
theorem path_of_discover {root : String} {here : Place} (named : here.WellNamed)
    {routes : Bindings FoundRoute} (found : discover root here = .ok routes) :
    ∀ route ∈ routes, route.2.path.WellNamed := by
  obtain ⟨entries, listed, found⟩ := Except.bind_eq_ok_iff.mp found
  rw [Except.mapError_eq_ok_iff] at listed found
  have isDirectory := find_of_listDirectory listed
  rw [Place.find_nil] at isDirectory
  have root : TreePath.WellNamed [] := fun _ member => absurd member List.not_mem_nil
  refine routesAmong_path ?_ (fun _ member => absurd member List.not_mem_nil) found
  intro directory member
  rw [List.mem_mergeSort] at member
  exact path_of_mem_reached root (named _ isDirectory) directory member

end AppDirectory

end Prerender
