/-!
# Ordered bindings

Values bound to names, in the order in which the names were first bound. `assign` keeps at most
one binding for each name: binding a name again changes its value and leaves its place alone.

What `assign` does is said through `lookup?` (`lookup?_assign`) and through `names`
(`names_assign`); it never binds a name twice (`nodup_names_assign`).
-/

namespace Prerender

/-- Values bound to names, in the order in which the names were first bound. -/
abbrev Bindings (α : Type) := List (String × α)

namespace Bindings

variable {α : Type}

/-- The value bound to a name. -/
def lookup? : Bindings α → String → Option α
  | [], _ => none
  | (bound, value) :: rest, name => if bound = name then some value else lookup? rest name

/-- Whether a name is bound. -/
def binds (bindings : Bindings α) (name : String) : Bool :=
  (bindings.lookup? name).isSome

/-- The bound names, in order. -/
def names (bindings : Bindings α) : List String :=
  bindings.map (·.1)

/-- Binds a name: in place if it is bound already, behind all others if not. -/
def assign : Bindings α → String → α → Bindings α
  | [], name, value => [(name, value)]
  | (bound, old) :: rest, name, value =>
    if bound = name then (bound, value) :: rest else (bound, old) :: assign rest name value

/-- The bindings that a list of assignments leaves behind. -/
def ofAssignments (assignments : List (String × α)) : Bindings α :=
  assignments.foldl (fun bindings item => assign bindings item.1 item.2) []

/-- The bindings of those names that have a value. -/
def present (entries : List (String × Option α)) : Bindings α :=
  entries.filterMap fun (name, value) => value.map (name, ·)

/-- The bindings without that of a name. -/
def erase (bindings : Bindings α) (name : String) : Bindings α :=
  bindings.filter fun binding => binding.1 ≠ name

/-- The bindings ordered by name. -/
def sorted (bindings : Bindings α) : Bindings α :=
  bindings.mergeSort fun a b => decide (a.1 ≤ b.1)

@[simp] theorem names_nil : names ([] : Bindings α) = [] := rfl

@[simp] theorem names_cons (binding : String × α) (rest : Bindings α) :
    names (binding :: rest) = binding.1 :: names rest := rfl

theorem binds_iff_mem_names {bindings : Bindings α} {name : String} :
    bindings.binds name = true ↔ name ∈ bindings.names := by
  induction bindings with
  | nil => simp [binds, lookup?]
  | cons binding rest ih =>
    obtain ⟨bound, value⟩ := binding
    by_cases same : bound = name
    · simp [binds, lookup?, same]
    · simpa [binds, lookup?, same, Ne.symm same] using ih

theorem lookup?_eq_none_iff {bindings : Bindings α} {name : String} :
    bindings.lookup? name = none ↔ name ∉ bindings.names := by
  rw [← binds_iff_mem_names, binds, Bool.not_eq_true, Option.isSome_eq_false_iff,
    Option.isNone_iff_eq_none]

theorem mem_of_lookup? {bindings : Bindings α} {name : String} {value : α}
    (found : bindings.lookup? name = some value) : (name, value) ∈ bindings := by
  induction bindings with
  | nil => cases found
  | cons binding rest ih =>
    obtain ⟨bound, first⟩ := binding
    rw [lookup?] at found
    split at found
    · next same =>
      cases found
      exact same ▸ List.mem_cons_self
    · exact List.mem_cons_of_mem _ (ih found)

/-- No name being bound twice, a binding is what is found under its name. -/
theorem lookup?_of_mem {bindings : Bindings α} (nodup : bindings.names.Nodup) {name : String}
    {value : α} (member : (name, value) ∈ bindings) : bindings.lookup? name = some value := by
  induction bindings with
  | nil => cases member
  | cons binding rest ih =>
    obtain ⟨bound, first⟩ := binding
    rw [names_cons, List.nodup_cons] at nodup
    rcases List.mem_cons.mp member with here | later
    · cases here
      rw [lookup?, if_pos rfl]
    · have differs : bound ≠ name := fun same =>
        nodup.1 (List.mem_map.mpr ⟨_, later, same.symm⟩)
      rw [lookup?, if_neg differs]
      exact ih nodup.2 later

/-- Of distinct names, each is bound to the value that it has. -/
theorem lookup?_present {entries : List (String × Option α)}
    (distinct : (entries.map (·.1)).Nodup) {name : String} {value : Option α}
    (member : (name, value) ∈ entries) : (present entries).lookup? name = value := by
  induction entries with
  | nil => cases member
  | cons entry rest ih =>
    obtain ⟨first, given⟩ := entry
    rw [List.map_cons, List.nodup_cons] at distinct
    rcases List.mem_cons.mp member with here | later
    · cases here
      cases value with
      | some value => simp [present, lookup?]
      | none =>
        have split : present ((name, none) :: rest) = present rest := by simp [present]
        rw [split, lookup?_eq_none_iff]
        intro bound
        apply distinct.1
        simp only [names, present, List.map_filterMap, List.mem_filterMap] at bound
        obtain ⟨⟨other, given⟩, isMember, same⟩ := bound
        cases given with
        | none => simp at same
        | some _ =>
          simp only [Option.map_some, Option.some.injEq] at same
          exact List.mem_map.mpr ⟨_, isMember, same⟩
    · have differs : first ≠ name := fun same =>
        distinct.1 (List.mem_map.mpr ⟨_, later, same.symm⟩)
      cases given with
      | none => exact ih distinct.2 later
      | some given =>
        refine Eq.trans ?_ (ih distinct.2 later)
        simp [present, lookup?, differs]

/-- Assigning a name the value that it has changes nothing. -/
theorem assign_eq_self {bindings : Bindings α} {name : String} {value : α}
    (bound : bindings.lookup? name = some value) : bindings.assign name value = bindings := by
  induction bindings with
  | nil => cases bound
  | cons binding rest ih =>
    obtain ⟨first, old⟩ := binding
    by_cases same : first = name
    · simp only [lookup?, same, if_true, Option.some.injEq] at bound
      simp [assign, same, bound]
    · simp only [lookup?, same, if_false] at bound
      simp [assign, same, ih bound]

/-- A name that is not bound yet comes behind all others. -/
theorem assign_eq_append {bindings : Bindings α} {name : String}
    (unbound : name ∉ bindings.names) (value : α) :
    bindings.assign name value = bindings ++ [(name, value)] := by
  induction bindings with
  | nil => rfl
  | cons binding rest ih =>
    obtain ⟨bound, old⟩ := binding
    rw [names_cons, List.mem_cons, not_or] at unbound
    rw [assign, if_neg (Ne.symm unbound.1), ih unbound.2, List.cons_append]

theorem eq_or_mem_of_mem_assign {bindings : Bindings α} {name : String} {value : α}
    {binding : String × α} (member : binding ∈ bindings.assign name value) :
    binding = (name, value) ∨ binding ∈ bindings := by
  induction bindings with
  | nil => exact Or.inl (List.mem_singleton.mp member)
  | cons first rest ih =>
    obtain ⟨bound, old⟩ := first
    rw [assign] at member
    split at member
    · next same =>
      rcases List.mem_cons.mp member with here | later
      · exact Or.inl (same ▸ here)
      · exact Or.inr (List.mem_cons_of_mem _ later)
    · rcases List.mem_cons.mp member with here | later
      · exact Or.inr (here ▸ List.mem_cons_self)
      · exact (ih later).imp id (List.mem_cons_of_mem _)

/-- A name that is assigned has the new value, every other one the value that it had. -/
theorem lookup?_assign (bindings : Bindings α) (name other : String) (value : α) :
    (bindings.assign name value).lookup? other
      = if name = other then some value else bindings.lookup? other := by
  induction bindings with
  | nil => rfl
  | cons binding rest ih =>
    obtain ⟨bound, old⟩ := binding
    by_cases same : bound = name
    · subst same
      by_cases here : bound = other <;> simp [assign, lookup?, here]
    · by_cases here : bound = other
      · subst here
        simp [assign, lookup?, same, Ne.symm same]
      · simp [assign, lookup?, same, here, ih]

/-- A name that is not bound yet comes behind all others; assigning a bound one moves nothing. -/
theorem names_assign (bindings : Bindings α) (name : String) (value : α) :
    (bindings.assign name value).names
      = if name ∈ bindings.names then bindings.names else bindings.names ++ [name] := by
  induction bindings with
  | nil => rfl
  | cons binding rest ih =>
    obtain ⟨bound, old⟩ := binding
    by_cases same : bound = name
    · simp [assign, same]
    · by_cases later : name ∈ names rest <;> simp [assign, same, Ne.symm same, later, ih]

theorem nodup_names_assign {bindings : Bindings α} (nodup : bindings.names.Nodup)
    (name : String) (value : α) : (bindings.assign name value).names.Nodup := by
  rw [names_assign]
  split
  · exact nodup
  next unbound =>
    rw [List.nodup_append]
    refine ⟨nodup, by simp, ?_⟩
    intro bound member other only
    rw [List.mem_singleton] at only
    subst only
    exact fun same => unbound (same ▸ member)

end Bindings

end Prerender
