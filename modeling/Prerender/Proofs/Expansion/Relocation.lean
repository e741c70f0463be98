import Prerender.Proofs.Expansion.Admission
import Prerender.Proofs.Expansion.Answers
import Prerender.Proofs.Expansion.Merge
import Prerender.Proofs.Expansion.Stages

/-!
# Generators of dynamic segments on pages below

A dynamic segment may leave its generator to a segment behind it that is not dynamic. As long as
the items bind the segment's own parameter and nothing else, and no record binds it yet, the two
merges add the same (`dynamicEntries_eq_ok_iff_static`), so that the expansion has the same
result or none either way (`expand_generator_below`). Only the failures are attributed to another
segment.
-/

namespace Prerender

variable {σ ρ : Type} {overrun : Nat → Nat}

/-! ### Items for one parameter -/

namespace SegmentWith

/-- A value for an open parameter is taken from its own segment if it is taken from any other. -/
theorem dynamicEntries_eq_ok_iff_static {segment moved : SegmentWith σ} {own : String}
    {record : Entries} {owners : Owners σ} (unbound : record.lookup? (.text own) = none)
    (owned : owners.lookup? own = some segment) (value : Value) (additions : ParamRecord) :
    segment.dynamicEntries own record owners [(.text own, value)] = .ok additions
      ↔ moved.staticEntries record owners [(.text own, value)] = .ok additions := by
  have given : Entries.lookup? [(.text own, value)] (.text own) = some value := by
    simp [Entries.lookup?, Value.equals_text_iff]
  have single : moved.staticEntries record owners [(.text own, value)]
      = moved.staticAdditionStep record owners [] (.text own, value) :=
    bind_pure _
  rw [dynamicEntries_eq_ok_iff, given, single, staticAdditionStep_eq_ok_iff]
  simp only [accept_eq_ok_iff]
  constructor
  · rintro ⟨-, accepted, reading, rfl⟩
    exact Or.inr ⟨own, segment, accepted, rfl, unbound, owned, reading, rfl⟩
  · rintro (⟨resolved, bound, -⟩ | ⟨_, _, accepted, ⟨⟩, -, alsoOwned, reading, rfl⟩)
    · rw [unbound] at bound
      cases bound
    · cases owned.symm.trans alsoOwned
      exact ⟨List.forall_mem_singleton.mpr ⟨rfl, unbound⟩, accepted, reading, rfl⟩

/-- Items for one parameter give the same records at its own segment and at any segment that is
not dynamic. -/
theorem merge_eq_ok_iff_static {segment moved : SegmentWith σ} {param : SegmentParam}
    (carried : segment.param? = some param) (static : moved.isDynamic = false)
    {owners : Owners σ} (owned : owners.lookup? param.name = some segment)
    {record : ParamRecord} (unbound : record.lookup? param.name = none) {items : List Item}
    (single : ∀ item ∈ items, ∃ value, item = .ok [(.text param.name, value)])
    (children : List ParamRecord) :
    segment.merge record items owners = .ok children
      ↔ moved.merge record items owners = .ok children := by
  have named : segment.paramName? = some param.name := paramName?_of_param? carried
  have dynamic : segment.isDynamic = true := isDynamic_of_paramName? named
  have free : record.toEntries.lookup? (.text param.name) = none := by
    rw [ParamRecord.lookup?_toEntries, unbound, Option.map_none]
  rw [merge_eq_ok_iff, merge_eq_ok_iff]
  refine and_congr (by simp [static, named]) (forall₂_congr_of_mem ?_)
  intro item inItems child
  obtain ⟨value, rfl⟩ := single item inItems
  simp only [Adds, dynamic, static, if_true, Bool.false_eq_true, if_false, named,
    Option.some.injEq, exists_eq_left']
  exact exists_congr fun additions =>
    and_congr_left' (dynamicEntries_eq_ok_iff_static free owned value additions)

/-- Another segment merges the items that a segment gets for a record as that one does, up to
failures. -/
def MergedAlike (segment moved : SegmentWith σ) (owners : Owners σ) (record : ParamRecord) :
    Prop :=
  ∀ calls items log, segment.generate record calls = (.ok items, log) → ∀ children,
    segment.merge record items owners = .ok children
      ↔ moved.merge record items owners = .ok children

end SegmentWith

namespace Expansion

/-! ### Runs -/

variable {segment moved : SegmentWith σ} {owners : Owners σ}

/-- Two segments with one generator give the same for a record if they merge its items alike. -/
theorem expandRecord_eq_ok_iff_of_generator (same : moved.generator = segment.generator)
    {record : ParamRecord} (merged : segment.MergedAlike moved owners record) (calls : List Call)
    (children : List ParamRecord) (log : List Call) :
    expandRecord segment owners record calls = (.ok children, log)
      ↔ expandRecord moved owners record calls = (.ok children, log) := by
  have answers (items : List Item) : segment.generate record calls = (.ok items, log)
      ↔ moved.generate record calls = (.ok items, log) := by
    rw [SegmentWith.generate_eq_ok_iff, SegmentWith.generate_eq_ok_iff, same]
  simp only [expandRecord_eq_ok_iff, ← answers]
  exact exists_congr fun items => and_congr_right fun answer =>
    merged calls items log answer children

theorem expandLevel_eq_ok_iff_of_generator (overrun : Nat → Nat)
    (same : moved.generator = segment.generator)
    {records : List ParamRecord}
    (merged : ∀ record ∈ records, segment.MergedAlike moved owners record)
    (calls : List Call) (children : List ParamRecord) (log : List Call) :
    expandLevel overrun segment owners records calls = (.ok children, log)
      ↔ expandLevel overrun moved owners records calls = (.ok children, log) := by
  induction records generalizing calls children log with
  | nil => rfl
  | cons record rest ih =>
    rw [List.forall_mem_cons] at merged
    simp only [expandLevel_cons_eq_ok_iff, ih merged.2,
      expandRecord_eq_ok_iff_of_generator same merged.1]

/-- A run that comes to a level comes to the same end if the level's generator is one segment
further down. -/
theorem expandChain_eq_ok_iff_below {silent : SegmentWith σ}
    (withoutGenerator : silent.generator = none) (same : moved.generator = segment.generator)
    {records : List ParamRecord}
    (merged : ∀ record ∈ records, segment.MergedAlike moved owners record)
    (below : List (SegmentWith σ)) (calls : List Call) (final : List ParamRecord)
    (log : List Call) :
    expandChain overrun owners (segment :: below) records calls = (.ok final, log)
      ↔ expandChain overrun owners (silent :: moved :: below) records calls = (.ok final, log) := by
  rw [expandChain_cons_of_no_generator withoutGenerator]
  cases generates : segment.generator with
  | none =>
    rw [expandChain_cons_of_no_generator generates,
      expandChain_cons_of_no_generator (same.trans generates)]
  | some generator =>
    have level := expandLevel_eq_ok_iff_of_generator overrun same merged calls
    rw [expandChain_cons_of_generator generates,
      expandChain_cons_of_generator (same.trans generates)]
    generalize expandLevel overrun segment owners records calls = run at level ⊢
    generalize expandLevel overrun moved owners records calls = other at level ⊢
    obtain ⟨raised | children, between⟩ := run
    -- The failures may be different ones, but there is no result in either.
    · obtain ⟨otherRaised | others, otherLog⟩ := other
      · simp
      · cases (level others otherLog).mpr rfl
    · rw [(level children between).mp rfl]

end Expansion

open Expansion in
/-- The generator of a dynamic segment may live on a page below it: as long as no record that
reaches the segment binds its parameter, and every item binds just that, moving the generator to
a segment behind it that is not dynamic leaves an expansion with the same result, or without one
as before. -/
theorem expand_generator_below (tasks : TaskLibrary) (above below : List (SegmentWith σ))
    (segment moved : SegmentWith σ) (param : SegmentParam) (policy : ExpansionPolicy ρ)
    (pathname : Option String) (fallbackShells : Bool) (concurrency : Value) (calls : List Call)
    (carried : segment.param? = some param) (static : moved.isDynamic = false)
    (same : moved.generator = segment.generator)
    (unbound : ∀ record,
      Reaches (tasks.overrun concurrency) (above ++ segment :: below) above calls record →
        record.lookup? param.name = none)
    (single : ∀ record,
      Reaches (tasks.overrun concurrency) (above ++ segment :: below) above calls record →
        ∀ before items log, segment.generate record before = (.ok items, log) →
          ∀ item ∈ items, ∃ value, item = .ok [(.text param.name, value)])
    (result : StaticPaths ρ) (log : List Call) :
    expand tasks (above ++ segment :: below) policy pathname fallbackShells concurrency calls
        = (.ok result, log)
      ↔ expand tasks (above ++ { segment with generator := none } :: moved :: below) policy
            pathname fallbackShells concurrency calls
          = (.ok result, log) := by
  have alike : Alike (above ++ segment :: below)
      (above ++ { segment with generator := none } :: moved :: below) := by
    have sameRole : ({ segment with generator := none } : SegmentWith σ).isDynamic
        = segment.isDynamic := rfl
    have dynamic : segment.isDynamic = true :=
      SegmentWith.isDynamic_of_paramName? (SegmentWith.paramName?_of_param? carried)
    simp [Alike, static, sameRole, dynamic, SegmentWith.bare]
  rcases alike.expand_eq policy pathname fallbackShells concurrency with
    ⟨ended, early⟩ | ⟨runs, late⟩
  · rw [(early calls).1, (early calls).2]
  · rw [(late calls).1, (late calls).2, concluded_eq_ok_iff, concluded_eq_ok_iff]
    refine exists_congr fun final => and_congr_left' ?_
    -- The runs are the same down to the segment; from there on they agree on results only.
    rcases expandChain_append_cases (tasks.overrun concurrency)
        (ownersOf (above ++ segment :: below)) above [[]] calls with
      ⟨raised, between, -, failed⟩ | ⟨reached, between, first, whole⟩
    · rw [failed, failed]
    · rw [whole, whole]
      apply expandChain_eq_ok_iff_below rfl same
      intro record inReached before items after answer
      have reaches : Reaches (tasks.overrun concurrency) (above ++ segment :: below) above calls
          record :=
        ⟨reached, between, first, inReached⟩
      have owned := lookup?_ownersOf runs.declared (by simp)
        (SegmentWith.paramName?_of_param? carried)
      exact SegmentWith.merge_eq_ok_iff_static carried static owned (unbound record reaches)
        (single record reaches before items after answer)

open Expansion in
theorem expand_generator_below_languages :
    let shop : SegmentWith Unit :=
      { name := "[shop]", role := .dynamic (some ⟨"shop", .single⟩)
        generator := some (.callable ⟨"shops", fun _ _ => .ok (.list
          [.mapping [(.text "shop", .text "books")]])⟩) }
    let languages : Generator :=
      .callable ⟨"languages", fun _ _ => .ok (.tuple
        [.mapping [(.text "lang", .text "en")], .mapping [(.text "lang", .text "de")]])⟩
    let lang : SegmentWith Unit :=
      { name := "[lang]", role := .dynamic (some ⟨"lang", .single⟩), generator := some languages }
    let page : SegmentWith Unit := { name := "page", generator := some languages }
    ∃ result log, expand .standard [shop, { lang with generator := none }, page] ⟨.static, (), true⟩
        (some "/[shop]/[lang]") false (.number (.int 8)) [] = (.ok result, log)
      ∧ result.pathnames = ["/books/en", "/books/de"] := by
  intro shop languages lang page
  have ran : expand .standard [shop, lang] ⟨.static, (), true⟩ (some "/[shop]/[lang]") false
      (.number (.int 8)) []
        = (.ok
            { paths := [[("shop", .text "books"), ("lang", .text "en")],
                [("shop", .text "books"), ("lang", .text "de")]]
              fallback := .blocking, revalidate := ()
              pathnames := ["/books/en", "/books/de"] },
            [⟨"shops", .params []⟩, ⟨"languages", .params [("shop", .text "books")]⟩]) := by
    decide +kernel
  have shops : expandChain (TaskLibrary.standard.overrun (.number (.int 8)))
      (ownersOf [shop, lang]) [shop] [[]] []
      = (.ok [[("shop", .text "books")]], [⟨"shops", .params []⟩]) := by decide +kernel
  refine ⟨_, _, (expand_generator_below .standard [shop] [] lang page ⟨"lang", .single⟩ _ _ _ _ _
    rfl rfl rfl ?_ ?_ _ _).mp ran, rfl⟩
  · rintro record ⟨records, log, reached, member⟩
    cases shops.symm.trans reached
    cases List.mem_singleton.mp member
    decide
  · intro record _ before items log answer
    have offered : SegmentWith.generate lang record before
        = (.ok [.ok [(.text "lang", .text "en")], .ok [(.text "lang", .text "de")]], _) := rfl
    cases offered.symm.trans answer
    intro item member
    rcases List.mem_cons.mp member with rfl | later
    · exact ⟨.text "en", rfl⟩
    · cases List.mem_singleton.mp later
      exact ⟨.text "de", rfl⟩

end Prerender
