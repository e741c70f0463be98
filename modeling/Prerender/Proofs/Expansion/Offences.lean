import Mathlib.Data.List.Induction
import Prerender.Proofs.Expansion.Ending

/-!
# Chains that are not well declared

A segment of a chain offends if it is dynamic without a parameter, or if it has the parameter of a
segment above it (`Offends`). A chain is well declared exactly if none of its segments offends
(`exists_firstOffends_iff`). Otherwise the first one that does decides how the expansion ends,
whatever stands below it, and before any call (`expand_refuses_first`).
-/

namespace Prerender

variable {σ ρ : Type}

namespace Expansion

/-- A segment offends below others, with the failure that this is. -/
inductive Offends (above : List (SegmentWith σ)) (segment : SegmentWith σ) : Failure → Prop where
  /-- It stands for a parameter and has none. -/
  | unnamed (dynamic : segment.isDynamic = true) (unnamed : segment.paramName? = none) :
    Offends above segment (.structural (.unnamedParam segment.describe))
  /-- Its parameter is that of a segment above, the first of those that have it. -/
  | repeated {name : String} {earlier between : List (SegmentWith σ)} {first : SegmentWith σ}
    (split : above = earlier ++ first :: between)
    (foremost : ∀ other ∈ earlier, other.paramName? ≠ some name)
    (declared : first.paramName? = some name) (again : segment.paramName? = some name) :
    Offends above segment (.conflict first.describe segment.describe
      (.declaredTwice name first.describe segment.describe))

/-- The first segment of a chain to offend does so with a failure: the segments above it are well
declared. -/
def FirstOffends (chain : List (SegmentWith σ)) (failure : Failure) : Prop :=
  ∃ above segment below, chain = above ++ segment :: below ∧ WellDeclared above
    ∧ Offends above segment failure

/-! ### One more segment -/

theorem Offends.isDynamic {above : List (SegmentWith σ)} {segment : SegmentWith σ}
    {failure : Failure} (offends : Offends above segment failure) : segment.isDynamic = true := by
  cases offends with
  | unnamed dynamic _ => exact dynamic
  | repeated _ _ _ again => exact SegmentWith.isDynamic_of_paramName? again

/-- Whoever has a parameter of the segments above offends. -/
theorem exists_offends_of_mem {above : List (SegmentWith σ)} {segment : SegmentWith σ}
    {name : String} (named : segment.paramName? = some name) (taken : name ∈ paramNames above) :
    ∃ failure, Offends above segment failure := by
  obtain ⟨owner, inAbove, owns⟩ := List.mem_filterMap.mp taken
  have some : (above.find? fun other => other.paramName? = some name).isSome = true :=
    List.find?_isSome.mpr ⟨owner, inAbove, decide_eq_true owns⟩
  obtain ⟨first, found⟩ := Option.isSome_iff_exists.mp some
  obtain ⟨isFirst, earlier, between, split, others⟩ := List.find?_eq_some_iff_append.mp found
  exact ⟨_, .repeated split (by simpa using others) (of_decide_eq_true isFirst) named⟩

/-- A chain with one more segment is well declared if it was so before and that segment does not
offend. -/
theorem wellDeclared_concat_iff {chain : List (SegmentWith σ)} {segment : SegmentWith σ} :
    WellDeclared (chain ++ [segment])
      ↔ WellDeclared chain ∧ ∀ failure, ¬Offends chain segment failure := by
  constructor
  · intro declared
    refine ⟨declared.of_append, ?_⟩
    intro failure offends
    cases offends with
    | unnamed dynamic unnamed =>
      have named := declared.named segment (by simp) dynamic
      rw [unnamed] at named
      cases named
    | @repeated name earlier between first split _ owns again =>
      have taken : name ∈ paramNames chain :=
        List.mem_filterMap.mpr ⟨first, split ▸ by simp, owns⟩
      have distinct := declared.distinct
      rw [paramNames_append, paramNames_singleton, again] at distinct
      exact (List.nodup_append.mp distinct).2.2 name taken name List.mem_cons_self rfl
  · rintro ⟨declared, sound⟩
    refine ⟨?_, ?_⟩
    · intro other member dynamic
      rcases List.mem_append.mp member with inChain | last
      · exact declared.named other inChain dynamic
      · obtain rfl := List.mem_singleton.mp last
        by_contra unnamed
        rw [Bool.not_eq_true, Option.isSome_eq_false_iff, Option.isNone_iff_eq_none] at unnamed
        exact sound _ (.unnamed dynamic unnamed)
    · rw [paramNames_append, paramNames_singleton, List.nodup_append]
      refine ⟨declared.distinct, by cases segment.paramName? <;> simp, ?_⟩
      rintro name taken _ last rfl
      obtain ⟨failure, offends⟩ := exists_offends_of_mem (Option.mem_toList.mp last) taken
      exact sound failure offends

/-- Some segment offends exactly if the chain is not well declared. -/
theorem exists_firstOffends_iff {chain : List (SegmentWith σ)} :
    (∃ failure, FirstOffends chain failure) ↔ ¬WellDeclared chain := by
  constructor
  · rintro ⟨failure, above, segment, below, rfl, -, offends⟩ declared
    have upTo : WellDeclared (above ++ [segment]) := by
      rw [List.append_cons] at declared
      exact declared.of_append
    exact (wellDeclared_concat_iff.mp upTo).2 failure offends
  · intro misdeclared
    induction chain using List.reverseRecOn with
    | nil => exact absurd ⟨fun _ member => absurd member List.not_mem_nil, .nil⟩ misdeclared
    | append_singleton chain segment ih =>
      by_cases declared : WellDeclared chain
      · rw [wellDeclared_concat_iff] at misdeclared
        push Not at misdeclared
        obtain ⟨failure, offends⟩ := misdeclared declared
        exact ⟨failure, chain, segment, [], rfl, declared, offends⟩
      · obtain ⟨failure, above, first, below, rfl, sound, offends⟩ := ih declared
        refine ⟨failure, above, first, below ++ [segment], ?_, sound, offends⟩
        rw [List.append_assoc, List.cons_append]

/-! ### The check -/

theorem ownersFrom_append (owners : Owners σ) (first second : List (SegmentWith σ)) :
    ownersFrom owners (first ++ second)
      = (ownersFrom owners first).bind fun owners => ownersFrom owners second := by
  induction first generalizing owners with
  | nil => rfl
  | cons segment rest ih =>
    rw [List.cons_append, ownersFrom, ownersFrom]
    split
    · rfl
    · split
      · rfl
      · exact ih _

/-- The check before an expansion ends at the first segment that offends. -/
theorem FirstOffends.ownersFrom_eq {chain : List (SegmentWith σ)} {failure : Failure}
    (offends : FirstOffends chain failure) :
    ownersFrom [] (chain.filter (·.isDynamic)) = .error failure := by
  obtain ⟨above, segment, below, rfl, declared, offends⟩ := offends
  rw [List.filter_append, ownersFrom_append, ownersFrom_filter_eq_ok_iff.mpr ⟨declared, rfl⟩,
    List.filter_cons_of_pos offends.isDynamic, Except.bind, ownersFrom]
  cases offends with
  | unnamed _ unnamed => rw [unnamed]
  | repeated split _ first again =>
    have owned := lookup?_ownersOf declared
      (split ▸ List.mem_append_right _ List.mem_cons_self) first
    simp only [again, owned]

end Expansion

open Expansion in
/-- A chain is refused exactly if it is not well declared, before any call and under every policy:
with what the first segment that offends does wrong. The check lets every other chain pass, and what
fails then is the run. Nothing is called, and there are no paths, if the chain has no dynamic
segment or if the policy demands rendering on request. -/
theorem expand_refuses_first (tasks : TaskLibrary) (chain : List (SegmentWith σ))
    (policy : ExpansionPolicy ρ) (pathname : Option String) (fallbackShells : Bool)
    (concurrency : Value) (calls : List Call) :
    ((∃ failure, FirstOffends chain failure) ↔ ¬WellDeclared chain)
      ∧ (∀ failure, FirstOffends chain failure →
          expand tasks chain policy pathname fallbackShells concurrency calls
            = (.error (.failure failure), calls))
      ∧ (WellDeclared chain →
          (∃ owners, ownersFrom [] (chain.filter (·.isDynamic)) = .ok owners)
            ∧ (∀ failure log, expand tasks chain policy pathname fallbackShells concurrency calls
                = (.error (.failure failure), log) →
                expandChain (tasks.overrun concurrency) (ownersOf chain) chain [[]] calls
                  = (.error (.failure failure), log))
            ∧ ((∀ segment ∈ chain, segment.isDynamic = false) ∨ policy.mode = .forceDynamic →
                ∃ result, expand tasks chain policy pathname fallbackShells concurrency calls
                    = (.ok result, calls)
                  ∧ result.paths = [] ∧ result.pathnames = [])) := by
  refine ⟨exists_firstOffends_iff, ?_, ?_⟩
  · intro failure offends
    have some : ¬(chain.filter (·.isDynamic)).isEmpty = true := by
      obtain ⟨above, segment, below, rfl, -, here⟩ := offends
      rw [filter_isDynamic_isEmpty_iff]
      intro static
      have dynamic := here.isDynamic
      rw [static segment (by simp)] at dynamic
      cases dynamic
    simp only [expand, if_neg some, offends.ownersFrom_eq]
  · intro declared
    have checked := ownersFrom_filter_eq_ok_iff.mpr ⟨declared, rfl⟩
    refine ⟨⟨_, checked⟩, ?_, ?_⟩
    · intro failure log failed
      have ends := expand_ends tasks chain policy pathname fallbackShells concurrency calls
      rw [failed] at ends
      cases ends with
      | undeclared refused =>
        rw [checked] at refused
        cases refused
      | failed _ ran => exact ran
    · intro idle
      unfold expand
      simp only
      split
      · exact ⟨_, rfl, rfl, rfl⟩
      · next dynamic =>
        have demanded : policy.mode = .forceDynamic :=
          idle.resolve_left (mt filter_isDynamic_isEmpty_iff.mpr dynamic)
        simp only [checked, if_pos demanded]
        exact ⟨_, rfl, rfl, rfl⟩

open Expansion in
theorem expand_refuses_first_languages :
    let root : SegmentWith Unit :=
      { name := "", generator := some (.callable ⟨"root", fun _ _ => .error (.crash .noCapacity)⟩) }
    let lang : SegmentWith Unit :=
      { name := "[lang]", role := .dynamic (some ⟨"lang", .single⟩), sourcePath := some "lang.py" }
    let again : SegmentWith Unit :=
      { name := "[...lang]", role := .dynamic (some ⟨"lang", .catchAll⟩) }
    let unnamed : SegmentWith Unit := { name := "[]", role := .dynamic none }
    let policy : ExpansionPolicy Unit := ⟨.forceDynamic, (), true⟩
    expand .standard [root, lang, again, unnamed] policy none false (.number (.int 0)) []
        = (.error (.failure (.conflict "'[lang]' (lang.py)" "'[...lang]'"
            (.declaredTwice "lang" "'[lang]' (lang.py)" "'[...lang]'"))), [])
      ∧ ∃ result, expand .standard [root, lang] policy none false (.number (.int 0)) []
          = (.ok result, [])
        ∧ result.paths = [] := by
  intro root lang again unnamed policy
  have declared : WellDeclared [root, lang] :=
    ⟨by simp [root, lang, SegmentWith.isDynamic, SegmentWith.paramName?, SegmentWith.param?],
      by decide +kernel⟩
  have offends : FirstOffends [root, lang, again, unnamed]
      (.conflict lang.describe again.describe
        (.declaredTwice "lang" lang.describe again.describe)) := by
    refine ⟨[root, lang], again, [unnamed], rfl, declared, ?_⟩
    exact .repeated (show [root, lang] = [root] ++ lang :: [] from rfl) (by decide) rfl rfl
  have described : lang.describe = "'[lang]' (lang.py)" ∧ again.describe = "'[...lang]'" := by
    decide +kernel
  rw [described.1, described.2] at offends
  obtain ⟨-, refuses, -⟩ := expand_refuses_first .standard [root, lang, again, unnamed] policy
    none false (.number (.int 0)) []
  obtain ⟨-, -, idle⟩ := expand_refuses_first .standard [root, lang] policy none false
    (.number (.int 0)) []
  obtain ⟨-, -, enumerates⟩ := idle declared
  obtain ⟨result, ran, none, -⟩ := enumerates (Or.inr rfl)
  exact ⟨refuses _ offends, result, ran, none⟩

end Prerender
