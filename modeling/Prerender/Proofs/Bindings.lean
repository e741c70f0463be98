import Mathlib.Data.List.Nodup
import Mathlib.Data.List.Perm.Basic
import Prerender.Bindings

/-!
# Bindings in order

Bindings that bind no name twice are the same once they are ordered if they bind the same names to
the same values, in whatever order they did so (`sorted_eq_sorted`). In particular it does not
matter in which order values are assigned that the names determine (`Holds.sorted_eq`). Conversely
what is bound is read off the ordered bindings, also where the values stand there in another form,
as far as that form tells them apart (`map_sorted_eq_iff`).
-/

namespace Prerender

namespace Bindings

variable {α : Type}

theorem mem_iff_lookup? {bindings : Bindings α} (nodup : bindings.names.Nodup) {name : String}
    {value : α} : (name, value) ∈ bindings ↔ bindings.lookup? name = some value :=
  ⟨lookup?_of_mem nodup, mem_of_lookup?⟩

/-- The names that have a value stay in their order. -/
theorem names_present (entries : List (String × Option α)) :
    (present entries).names = (entries.filter (·.2.isSome)).map (·.1) := by
  induction entries with
  | nil => rfl
  | cons entry rest ih =>
    obtain ⟨name, value⟩ := entry
    cases value <;> simpa [present, names] using ih

/-- What comes behind other bindings is found only under the names that those do not bind. -/
theorem lookup?_append (first second : Bindings α) (name : String) :
    lookup? (first ++ second) name = (first.lookup? name).or (second.lookup? name) := by
  induction first with
  | nil => rfl
  | cons binding rest ih =>
    obtain ⟨bound, value⟩ := binding
    rw [List.cons_append, lookup?, lookup?]
    split
    · rfl
    · exact ih

/-- A name that the first bindings do not have is bound among those behind. -/
theorem assign_append {first : Bindings α} {name : String} (unbound : first.lookup? name = none)
    (second : Bindings α) (value : α) :
    assign (first ++ second) name value = first ++ second.assign name value := by
  induction first with
  | nil => rfl
  | cons binding rest ih =>
    obtain ⟨bound, old⟩ := binding
    rw [lookup?] at unbound
    split at unbound
    · cases unbound
    · next differs => rw [List.cons_append, assign, if_neg differs, ih unbound, List.cons_append]

/-- Bindings of the same names to the same values differ in their order only. -/
theorem perm_of_lookup? {a b : Bindings α} (nodupA : a.names.Nodup) (nodupB : b.names.Nodup)
    (same : ∀ name, a.lookup? name = b.lookup? name) : a.Perm b := by
  rw [List.perm_ext_iff_of_nodup nodupA.of_map nodupB.of_map]
  rintro ⟨name, value⟩
  rw [mem_iff_lookup? nodupA, mem_iff_lookup? nodupB, same]

/-- Bindings of the same names in the same order are the same if the values are. -/
theorem eq_of_lookup? {a b : Bindings α} (sameNames : a.names = b.names) (nodup : a.names.Nodup)
    (same : ∀ name, a.lookup? name = b.lookup? name) : a = b := by
  induction a generalizing b with
  | nil => exact (List.map_eq_nil_iff.mp sameNames.symm).symm
  | cons binding rest ih =>
    obtain ⟨name, value⟩ := binding
    cases b with
    | nil => cases sameNames
    | cons other others =>
      obtain ⟨otherName, otherValue⟩ := other
      rw [names_cons, names_cons, List.cons_eq_cons] at sameNames
      obtain ⟨sameName, sameRest⟩ := sameNames
      obtain rfl : name = otherName := sameName
      rw [names_cons, List.nodup_cons] at nodup
      have here := same name
      simp only [lookup?, if_true, Option.some.injEq] at here
      have behind : rest = others := by
        apply ih sameRest nodup.2
        intro later
        by_cases isName : name = later
        · subst isName
          rw [lookup?_eq_none_iff.mpr nodup.1, lookup?_eq_none_iff.mpr (sameRest ▸ nodup.1)]
        · simpa [lookup?, isName] using same later
      rw [here, behind]

/-- A name that is bound may not be bound again. -/
theorem not_nodup_of_bound {bindings : Bindings α} {name : String} {value : α}
    (bound : bindings.lookup? name = some value) (again : α) (rest : Bindings α) :
    ¬(names (bindings ++ (name, again) :: rest)).Nodup := by
  intro distinct
  rw [names, List.map_append] at distinct
  exact List.disjoint_of_nodup_append distinct (List.mem_map_of_mem (mem_of_lookup? bound))
    List.mem_cons_self

theorem pairwise_sorted (bindings : Bindings α) :
    bindings.sorted.Pairwise fun x y => decide (x.1 ≤ y.1) = true := by
  refine List.pairwise_mergeSort ?_ ?_ bindings
  · intro x y z first second
    rw [decide_eq_true_iff] at first second ⊢
    exact String.le_trans first second
  · intro x y
    simpa using String.le_total x.1 y.1

/-- The names of ordered bindings, each of them bound once. -/
theorem pairwise_names_sorted {bindings : Bindings α} (nodup : bindings.names.Nodup) :
    bindings.sorted.names.Pairwise (· < ·) := by
  have distinct : bindings.sorted.names.Nodup :=
    ((List.mergeSort_perm bindings _).map _).nodup_iff.mpr nodup
  have ordered : bindings.sorted.names.Pairwise (· ≤ ·) :=
    List.pairwise_map.mpr ((pairwise_sorted bindings).imp of_decide_eq_true)
  refine (ordered.and distinct).imp ?_
  rintro first second ⟨atMost, differ⟩
  rw [← String.not_le]
  exact fun back => differ (String.le_antisymm atMost back)

theorem sorted_eq_sorted {a b : Bindings α} (nodupA : a.names.Nodup) (nodupB : b.names.Nodup)
    (same : ∀ name, a.lookup? name = b.lookup? name) : a.sorted = b.sorted := by
  have inA : ∀ x ∈ a.sorted, a.lookup? x.1 = some x.2 := fun x member =>
    lookup?_of_mem nodupA (List.mem_mergeSort.mp member)
  have inB : ∀ x ∈ b.sorted, b.lookup? x.1 = some x.2 := fun x member =>
    lookup?_of_mem nodupB (List.mem_mergeSort.mp member)
  refine List.Perm.eq_of_pairwise ?_ (pairwise_sorted a) (pairwise_sorted b) ?_
  · rintro ⟨name, value⟩ ⟨other, otherValue⟩ memberA memberB first second
    rw [decide_eq_true_iff] at first second
    obtain rfl : name = other := String.le_antisymm first second
    have found := inA _ memberA
    rw [same, inB _ memberB] at found
    obtain rfl : otherValue = value := Option.some.inj found
    rfl
  · exact (List.mergeSort_perm a _).trans
      ((perm_of_lookup? nodupA nodupB same).trans (List.mergeSort_perm b _).symm)

/-- Ordering bindings that bind no name twice leaves what is bound to a name. -/
theorem lookup?_sorted {bindings : Bindings α} (nodup : bindings.names.Nodup) (name : String) :
    bindings.sorted.lookup? name = bindings.lookup? name := by
  have distinct : bindings.sorted.names.Nodup :=
    ((List.mergeSort_perm bindings _).map _).nodup_iff.mpr nodup
  refine Option.ext fun value => ?_
  rw [← mem_iff_lookup? distinct, ← mem_iff_lookup? nodup]
  exact List.mem_mergeSort

/-- Bindings that bind no name twice are the same once they are ordered exactly if they bind the
same names to the same values. -/
theorem sorted_eq_sorted_iff {a b : Bindings α} (nodupA : a.names.Nodup)
    (nodupB : b.names.Nodup) :
    a.sorted = b.sorted ↔ ∀ name, a.lookup? name = b.lookup? name := by
  refine ⟨fun same name => ?_, sorted_eq_sorted nodupA nodupB⟩
  rw [← lookup?_sorted nodupA, ← lookup?_sorted nodupB, same]

/-! ### Values in another form -/

section Map

variable {β : Type} (f : α → β)

theorem lookup?_map (bindings : Bindings α) (name : String) :
    lookup? (bindings.map fun (name, value) => (name, f value)) name
      = (bindings.lookup? name).map f := by
  induction bindings with
  | nil => rfl
  | cons binding rest ih =>
    obtain ⟨bound, value⟩ := binding
    rw [List.map_cons, lookup?, lookup?]
    split
    · rfl
    · exact ih

theorem names_map (bindings : Bindings α) :
    names (bindings.map fun (name, value) => (name, f value)) = bindings.names := by
  rw [names, names, List.map_map]
  rfl

theorem sorted_map (bindings : Bindings α) :
    sorted (bindings.map fun (name, value) => (name, f value))
      = bindings.sorted.map fun (name, value) => (name, f value) := by
  rw [sorted, sorted]
  refine (List.map_mergeSort ?_).symm
  exact fun _ _ _ _ => rfl

/-- Values written in another form are the same in order of their names exactly if they are so name
by name. -/
theorem map_sorted_eq_iff {a b : Bindings α} (nodupA : a.names.Nodup) (nodupB : b.names.Nodup) :
    a.sorted.map (fun (name, value) => (name, f value))
        = b.sorted.map (fun (name, value) => (name, f value))
      ↔ ∀ name, (a.lookup? name).map f = (b.lookup? name).map f := by
  have nodup : ∀ {bindings : Bindings α}, bindings.names.Nodup →
      (names (bindings.map fun (name, value) => (name, f value))).Nodup := by
    intro bindings nodup
    rwa [names_map]
  rw [← sorted_map, ← sorted_map, sorted_eq_sorted_iff (nodup nodupA) (nodup nodupB)]
  simp only [lookup?_map]

end Map

/-! ### Names assigned one after the other -/

/-- Bindings hold the values of some names, as far as these have one, and nothing else. -/
structure Holds (bindings : Bindings α) (value? : String → Option α) (names : List String) :
    Prop where
  lookup? : ∀ name, bindings.lookup? name = if name ∈ names then value? name else none
  nodup : bindings.names.Nodup

variable {bindings : Bindings α} {value? : String → Option α} {names : List String}

theorem holds_nil (value? : String → Option α) : Holds [] value? [] where
  lookup? _ := rfl
  nodup := List.nodup_nil

theorem Holds.assign (holds : bindings.Holds value? names) {name : String} {value : α}
    (given : value? name = some value) :
    (bindings.assign name value).Holds value? (names ++ [name]) := by
  refine ⟨?_, nodup_names_assign holds.nodup name value⟩
  intro other
  rw [lookup?_assign]
  by_cases same : name = other
  · subst same
    simp [given]
  · simp [same, Ne.symm same, holds.lookup?]

theorem Holds.skip (holds : bindings.Holds value? names) {name : String}
    (missing : value? name = none) : bindings.Holds value? (names ++ [name]) := by
  refine ⟨?_, holds.nodup⟩
  intro other
  by_cases same : name = other
  · subst same
    simp [missing, holds.lookup?]
  · simp [Ne.symm same, holds.lookup?]

theorem Holds.lookup?_eq_some_iff (holds : bindings.Holds value? names) {name : String}
    {value : α} :
    bindings.lookup? name = some value ↔ name ∈ names ∧ value? name = some value := by
  rw [holds.lookup?, Option.ite_none_right_eq_some]

/-- Neither the order in which names are assigned nor repetitions show once bindings are
ordered. -/
theorem Holds.sorted_eq {others : List String} {other : Bindings α}
    (holds : bindings.Holds value? names) (holdsOther : other.Holds value? others)
    (same : ∀ name, name ∈ others ↔ name ∈ names) : other.sorted = bindings.sorted := by
  refine sorted_eq_sorted holdsOther.nodup holds.nodup ?_
  intro name
  rw [holdsOther.lookup?, holds.lookup?]
  simp only [same]

end Bindings

end Prerender
