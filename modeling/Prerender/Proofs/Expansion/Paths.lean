import Prerender.Proofs.Except
import Prerender.Proofs.Expansion.Ending
import Prerender.Proofs.Param

/-!
# Paths among the records of a run

Of the records at the end of a chain, those are paths that bind the parameters of the chain and
nothing else (`isComplete_iff`), without those that an earlier one is equal to as a mapping:
`distinctFrom_nil_eq` for which ones stay, `pathsOf_pairwise` for what they are then like.
-/

namespace Prerender

/-! ### Records that are equal as mappings -/

/-- Records that bind no name twice are the same mapping if every name is bound to the same value
in both. -/
theorem ParamRecord.sameBindings_iff {a b : ParamRecord} (nodupA : a.names.Nodup)
    (nodupB : b.names.Nodup) :
    a.sameBindings b = true ↔ ∀ name, a.lookup? name = b.lookup? name := by
  rw [sameBindings, Bool.and_eq_true, List.all_eq_true, List.all_eq_true]
  simp only [List.contains_iff_mem]
  constructor
  · rintro ⟨intoB, intoA⟩ name
    apply Option.ext
    intro value
    constructor
    · intro found
      exact Bindings.lookup?_of_mem nodupB (intoB _ (Bindings.mem_of_lookup? found))
    · intro found
      exact Bindings.lookup?_of_mem nodupA (intoA _ (Bindings.mem_of_lookup? found))
  · intro same
    constructor
    · rintro ⟨name, value⟩ member
      have found := Bindings.lookup?_of_mem nodupA member
      rw [same] at found
      exact Bindings.mem_of_lookup? found
    · rintro ⟨name, value⟩ member
      have found := Bindings.lookup?_of_mem nodupB member
      rw [← same] at found
      exact Bindings.mem_of_lookup? found

namespace Expansion

variable {σ ρ : Type} {tasks : TaskLibrary}

/-! ### Completeness -/

theorem isComplete_iff {owners : Owners σ} {record : ParamRecord} :
    isComplete owners record = true
      ↔ ∀ name, record.binds name = true ↔ owners.binds name = true := by
  rw [isComplete, Bool.and_eq_true, List.all_eq_true, List.all_eq_true]
  constructor
  · rintro ⟨all, only⟩ name
    exact ⟨fun bound => only name (Bindings.binds_iff_mem_names.mp bound),
      fun owned => all name (Bindings.binds_iff_mem_names.mp owned)⟩
  · intro same
    exact ⟨fun name owned => (same name).mpr (Bindings.binds_iff_mem_names.mpr owned),
      fun name bound => (same name).mp (Bindings.binds_iff_mem_names.mpr bound)⟩

/-! ### Repeated records -/

/-- Of equal records the first one stays. -/
theorem distinctFrom_eq (seen records : List ParamRecord) :
    distinctFrom seen records
      = (records.filter fun record => !seen.any record.sameBindings).eraseDupsBy
          ParamRecord.sameBindings := by
  induction records generalizing seen with
  | nil => rfl
  | cons record rest ih =>
    rw [distinctFrom]
    cases repeated : seen.any record.sameBindings with
    | true => rw [if_pos rfl, ih, List.filter_cons_of_neg (by simp [repeated])]
    | false =>
      rw [if_neg Bool.false_ne_true, ih, List.filter_cons_of_pos (by simp [repeated]),
        List.eraseDupsBy_cons, List.filter_filter]
      congr 2
      apply List.filter_congr
      intro later _
      rw [List.any_cons, Bool.not_or]
      cases later.sameBindings record <;> rfl

theorem distinctFrom_nil_eq (records : List ParamRecord) :
    distinctFrom [] records = records.eraseDupsBy ParamRecord.sameBindings := by
  rw [distinctFrom_eq]
  exact congrArg (List.eraseDupsBy _) (List.filter_eq_self.mpr fun _ _ => rfl)

theorem mem_of_mem_distinctFrom {seen records : List ParamRecord} {record : ParamRecord}
    (member : record ∈ distinctFrom seen records) :
    record ∈ records ∧ seen.any record.sameBindings = false := by
  induction records generalizing seen with
  | nil => cases member
  | cons first rest ih =>
    rw [distinctFrom] at member
    split at member
    · exact (ih member).imp_left (List.mem_cons_of_mem first)
    · next new =>
      rcases List.mem_cons.mp member with rfl | later
      · exact ⟨List.mem_cons_self, Bool.eq_false_iff.mpr new⟩
      · obtain ⟨inRest, unseen⟩ := ih later
        rw [List.any_cons, Bool.or_eq_false_iff] at unseen
        exact ⟨List.mem_cons_of_mem first inRest, unseen.2⟩

theorem distinctFrom_pairwise (seen records : List ParamRecord) :
    (distinctFrom seen records).Pairwise fun a b => b.sameBindings a = false := by
  induction records generalizing seen with
  | nil => exact .nil
  | cons record rest ih =>
    rw [distinctFrom]
    split
    · exact ih seen
    · refine .cons ?_ (ih (record :: seen))
      intro later member
      have unseen := (mem_of_mem_distinctFrom member).2
      rw [List.any_cons, Bool.or_eq_false_iff] at unseen
      exact unseen.1

/-! ### Paths -/

theorem mem_of_mem_pathsOf {owners : Owners σ} {records : List ParamRecord} {path : ParamRecord}
    (member : path ∈ pathsOf owners records) :
    path ∈ records ∧ isComplete owners path = true :=
  List.mem_filter.mp (mem_of_mem_distinctFrom member).1

/-- No two paths are equal as mappings, in whatever order they bind their names. -/
theorem pathsOf_pairwise {owners : Owners σ} {records : List ParamRecord}
    (nodup : ∀ record ∈ records, record.names.Nodup) :
    (pathsOf owners records).Pairwise fun a b => ∃ name, a.lookup? name ≠ b.lookup? name := by
  refine (distinctFrom_pairwise _ _).imp_of_mem ?_
  intro a b inA inB differ
  have nodupA := nodup a (mem_of_mem_pathsOf inA).1
  have nodupB := nodup b (mem_of_mem_pathsOf inB).1
  by_contra same
  push Not at same
  have equal := (ParamRecord.sameBindings_iff nodupB nodupA).mpr fun name => (same name).symm
  rw [differ] at equal
  cases equal

/-- The URL paths stand beside the paths that they were filled in from. -/
theorem pathnamesOf_eq_ok_iff {pathname : String} {paths : List ParamRecord}
    {pathnames : List String} : pathnamesOf (some pathname) paths = .ok pathnames
      ↔ List.Forall₂ (fun path url => Pathname.interpolate pathname path = .ok url)
          paths pathnames :=
  Except.mapM_eq_ok_iff

/-! ### Results -/

/-- An expansion ends before any call, and then without paths, or it runs down a chain that is
well declared and takes the paths from the records at the end. -/
theorem expand_cases {chain : List (SegmentWith σ)} {policy : ExpansionPolicy ρ}
    {pathname : Option String} {fallbackShells : Bool} {concurrency : Value} {calls log : List Call}
    {outcome : Except Raised (StaticPaths ρ)}
    (expanded : expand tasks chain policy pathname fallbackShells concurrency calls
      = (outcome, log)) :
    (log = calls ∧ ∀ result, outcome = .ok result → result.paths = [] ∧ result.pathnames = [])
      ∨ (WellDeclared chain
        ∧ log = (expandChain (tasks.overrun concurrency) (ownersOf chain) chain [[]] calls).2
        ∧ ∀ result, outcome = .ok result →
            ∃ records,
              (expandChain (tasks.overrun concurrency) (ownersOf chain) chain [[]] calls).1
                  = .ok records
              ∧ result.paths = pathsOf (ownersOf chain) records
              ∧ pathnamesOf pathname result.paths = .ok result.pathnames) := by
  have ends := expand_ends tasks chain policy pathname fallbackShells concurrency calls
  rw [expanded] at ends
  cases ends with
  | static _ =>
    refine Or.inl ⟨rfl, ?_⟩
    rintro _ ⟨⟩
    exact ⟨rfl, rfl⟩
  | undeclared _ => exact Or.inl ⟨rfl, by rintro _ ⟨⟩⟩
  | onRequest _ _ =>
    refine Or.inl ⟨rfl, ?_⟩
    rintro _ ⟨⟩
    exact ⟨rfl, rfl⟩
  | noCapacity _ => exact Or.inl ⟨rfl, by rintro _ ⟨⟩⟩
  | failed runs ran =>
    rw [ran]
    exact Or.inr ⟨runs.declared, rfl, by rintro _ ⟨⟩⟩
  | unfilled runs ran _ =>
    rw [ran]
    exact Or.inr ⟨runs.declared, rfl, by rintro _ ⟨⟩⟩
  | enumerated runs ran filled =>
    rw [ran]
    refine Or.inr ⟨runs.declared, rfl, ?_⟩
    rintro _ ⟨⟩
    exact ⟨_, rfl, rfl, filled⟩

theorem fallbackOf_eq_notFound_iff {policy : ExpansionPolicy ρ} {fallbackShells : Bool} :
    fallbackOf policy fallbackShells = .notFound ↔ policy.dynamicParams = false := by
  unfold fallbackOf
  cases policy.dynamicParams <;> cases fallbackShells <;> simp

theorem fallbackOf_eq_shell_iff {policy : ExpansionPolicy ρ} {fallbackShells : Bool} :
    fallbackOf policy fallbackShells = .shell
      ↔ policy.dynamicParams = true ∧ fallbackShells = true := by
  unfold fallbackOf
  cases policy.dynamicParams <;> cases fallbackShells <;> simp

/-- An expansion with a result has nothing to enumerate, or it has a fallback by the policy, no
paths if those are rendered on request, and a URL path for each path. -/
theorem result_cases {chain : List (SegmentWith σ)} {policy : ExpansionPolicy ρ}
    {pathname : String} {fallbackShells : Bool} {concurrency : Value} {calls log : List Call}
    {result : StaticPaths ρ}
    (expanded : expand tasks chain policy (some pathname) fallbackShells concurrency calls
      = (.ok result, log)) :
    result.revalidate = policy.revalidate
      ∧ ((∀ segment ∈ chain, segment.isDynamic = false)
          ∧ result.fallback = .notFound ∧ result.paths = [] ∧ result.pathnames = []
        ∨ (∃ segment ∈ chain, segment.isDynamic = true)
          ∧ result.fallback = fallbackOf policy fallbackShells
          ∧ (policy.mode = .forceDynamic → result.paths = [])
          ∧ result.paths.length = result.pathnames.length) := by
  have ends := expand_ends tasks chain policy (some pathname) fallbackShells concurrency calls
  rw [expanded] at ends
  cases ends with
  | static static => exact ⟨rfl, Or.inl ⟨static, rfl, rfl, rfl⟩⟩
  | onRequest dynamic demanded => exact ⟨rfl, Or.inr ⟨dynamic, rfl, fun _ => rfl, rfl⟩⟩
  | enumerated runs ran filled =>
    refine ⟨rfl, Or.inr ⟨runs.dynamic, rfl, fun demanded => absurd demanded runs.onRequest, ?_⟩⟩
    exact (pathnamesOf_eq_ok_iff.mp filled).length_eq

end Expansion

end Prerender
