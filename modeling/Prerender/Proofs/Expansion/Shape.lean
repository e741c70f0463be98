import Prerender.Proofs.Expansion.Merge
import Prerender.Proofs.Expansion.Owners
import Prerender.Proofs.Expansion.Paths
import Prerender.Proofs.Expansion.Run

/-!
# The shape of paths

Whatever generators answer, the records of an expansion bind parameters of the chain only, each to
a value of the shape that its kind asks for (`ShapedBy`). Both merges keep this (`merge_shapedBy`),
so that it holds of every record that a generator is called for.

`expand_shapes_paths` says what follows for the result: each path binds all parameters of the
chain and no others, no two paths are the same mapping, and the URL paths are those of the paths.
-/

namespace Prerender

namespace Expansion

variable {σ ρ : Type}

/-- A record binds parameters of a chain, each of them once and to a value of the shape that its
kind asks for. -/
structure ShapedBy (chain : List (SegmentWith σ)) (record : ParamRecord) : Prop where
  nodup : record.names.Nodup
  shaped : ∀ name value, (name, value) ∈ record →
    ∃ segment ∈ chain, ∃ param, segment.param? = some param ∧ param.name = name
      ∧ value.Fits param.kind

/-- A record binds exactly the parameters of a chain, each to a value of the shape that its kind
asks for. -/
structure Fulfils (chain : List (SegmentWith σ)) (record : ParamRecord) : Prop where
  nodup : record.names.Nodup
  exact : ∀ name, record.binds name = true ↔ name ∈ paramNames chain
  fitting : ∀ segment ∈ chain, segment.isDynamic = true →
    ∃ param value, segment.param? = some param ∧ record.lookup? param.name = some value
      ∧ value.Fits param.kind

theorem shapedBy_nil (chain : List (SegmentWith σ)) : ShapedBy chain [] :=
  ⟨List.nodup_nil, fun _ _ member => absurd member List.not_mem_nil⟩

/-! ### Merging -/

/-- What a segment accepts has the shape that its parameter asks for. -/
theorem fits_of_accept {segment origin : SegmentWith σ} {given : Option Value} {name : String}
    {value : ParamValue} (named : segment.paramName? = some name)
    (accepted : segment.accept given origin = .ok value) :
    ∃ param, segment.param? = some param ∧ param.name = name ∧ value.Fits param.kind := by
  obtain ⟨param, carried, reading⟩ := SegmentWith.accept_eq_ok_iff.mp accepted
  rw [SegmentWith.paramName?, carried] at named
  exact ⟨param, carried, Option.some.inj named, reading.fits⟩

theorem shapedBy_extend {chain : List (SegmentWith σ)} {record additions : ParamRecord}
    (before : ShapedBy chain record)
    (added : ∀ name value, (name, value) ∈ additions →
      ∃ segment ∈ chain, ∃ param, segment.param? = some param ∧ param.name = name
        ∧ value.Fits param.kind) :
    ShapedBy chain (record.extend additions) := by
  refine ⟨ParamRecord.nodup_names_extend before.nodup, ?_⟩
  intro name value member
  rcases ParamRecord.mem_or_mem_of_mem_extend member with old | new
  · exact before.shaped name value old
  · exact added name value new

/-- Additions are parameters of the chain: the segment's own one, or those of owners. -/
theorem merge_shapedBy {chain : List (SegmentWith σ)} {segment : SegmentWith σ}
    (inChain : segment ∈ chain) :
    segment.MergeKeeps (ownersOf chain) (ShapedBy chain) := by
  intro record items merged before ok child member
  obtain ⟨-, each⟩ := SegmentWith.merge_eq_ok_iff.mp ok
  obtain ⟨item, -, additions, adds, rfl⟩ := exists_mem_of_forall₂ each member
  apply shapedBy_extend before
  intro name value added
  unfold SegmentWith.Adds at adds
  split at adds
  · obtain ⟨own, named, adds⟩ := adds
    obtain ⟨entries, -, adds⟩ := SegmentWith.dynamicAddition_eq_ok_iff.mp adds
    obtain ⟨-, own', accepted, rfl⟩ := SegmentWith.dynamicEntries_eq_ok_iff.mp adds
    cases List.mem_singleton.mp added
    exact ⟨segment, inChain, fits_of_accept named accepted⟩
  · obtain ⟨owner, given, owned, accepted⟩ :=
      (SegmentWith.staticAddition_opens adds).accepted _ added
    obtain ⟨ownerInChain, named⟩ := mem_of_lookup?_ownersOf owned
    exact ⟨owner, ownerInChain, fits_of_accept named accepted⟩

/-! ### Paths -/

/-- In a chain that is well declared, a complete record gives each dynamic segment a value. -/
theorem fulfils_of_isComplete {chain : List (SegmentWith σ)} (declared : WellDeclared chain)
    {record : ParamRecord} (shaped : ShapedBy chain record)
    (complete : isComplete (ownersOf chain) record = true) : Fulfils chain record := by
  have exact : ∀ name, record.binds name = true ↔ name ∈ paramNames chain := by
    intro name
    rw [isComplete_iff.mp complete name, Bindings.binds_iff_mem_names, names_ownersOf]
  refine ⟨shaped.nodup, exact, ?_⟩
  intro segment inChain dynamic
  obtain ⟨name, named⟩ := Option.isSome_iff_exists.mp (declared.named segment inChain dynamic)
  obtain ⟨param, carried, rfl⟩ := Option.map_eq_some_iff.mp named
  have bound := (exact param.name).mpr (List.mem_filterMap.mpr ⟨segment, inChain, named⟩)
  obtain ⟨value, found⟩ := Option.isSome_iff_exists.mp bound
  obtain ⟨other, otherInChain, otherParam, otherCarried, sameName, fits⟩ :=
    shaped.shaped param.name value (Bindings.mem_of_lookup? found)
  obtain rfl := eq_of_paramName? declared inChain otherInChain named
    (sameName ▸ SegmentWith.paramName?_of_param? otherCarried)
  cases carried.symm.trans otherCarried
  exact ⟨param, value, carried, found, fits⟩

end Expansion

open Expansion in
/-- Whatever the generators answer: they are called for records that bind parameters of the chain
only, to values of their shapes; each path of the result binds all parameters of the chain and no
others; no two paths are the same mapping; and a pathname is filled in from each of them. -/
theorem expand_shapes_paths {σ ρ : Type} (tasks : TaskLibrary) (chain : List (SegmentWith σ))
    (policy : ExpansionPolicy ρ) (pathname : Option String) (fallbackShells : Bool)
    (concurrency : Value) (calls : List Call) :
    Continues (ShapedBy chain) calls
        (expand tasks chain policy pathname fallbackShells concurrency calls).2
      ∧ ∀ result,
          (expand tasks chain policy pathname fallbackShells concurrency calls).1 = .ok result →
          (∀ path ∈ result.paths, Fulfils chain path)
          ∧ result.paths.Pairwise (fun a b => ∃ name, a.lookup? name ≠ b.lookup? name)
          ∧ ∀ text, pathname = some text →
              List.Forall₂ (fun path url => Pathname.interpolate text path = .ok url)
                result.paths result.pathnames := by
  have kept : ∀ segment ∈ chain, segment.MergeKeeps (ownersOf chain) (ShapedBy chain) :=
    fun segment inChain => merge_shapedBy inChain
  have root : ∀ record ∈ [([] : ParamRecord)], ShapedBy chain record :=
    List.forall_mem_singleton.mpr (shapedBy_nil chain)
  have within := expandChain_within (tasks.overrun concurrency) kept root calls
  generalize expanded : expand tasks chain policy pathname fallbackShells concurrency calls = run
  obtain ⟨outcome, log⟩ := run
  rcases expand_cases expanded with ⟨rfl, early⟩ | ⟨declared, rfl, late⟩
  · refine ⟨Continues.refl _, ?_⟩
    intro result ok
    obtain ⟨noPaths, noPathnames⟩ := early result ok
    rw [noPaths, noPathnames]
    exact ⟨fun _ member => absurd member List.not_mem_nil, .nil, fun _ _ => .nil⟩
  · refine ⟨within.log, ?_⟩
    intro result ok
    obtain ⟨records, ran, paths, filled⟩ := late result ok
    have shaped := within.records records ran
    refine ⟨?_, ?_, ?_⟩
    · intro path member
      rw [paths] at member
      obtain ⟨inRecords, complete⟩ := mem_of_mem_pathsOf member
      exact fulfils_of_isComplete declared (shaped path inRecords) complete
    · rw [paths]
      apply pathsOf_pairwise
      intro record member
      exact (shaped record member).nodup
    · intro text given
      rw [given] at filled
      exact pathnamesOf_eq_ok_iff.mp filled

open Expansion in
theorem expand_shapes_paths_optional :
    let root : SegmentWith Unit :=
      { name := ""
        generator := some (.callable ⟨"root", fun _ _ => .ok (.list
          [.mapping [(.text "lang", .text "en")]])⟩) }
    let lang : SegmentWith Unit :=
      { name := "[lang]", role := .dynamic (some ⟨"lang", .single⟩) }
    let rest : SegmentWith Unit :=
      { name := "[[...rest]]", role := .dynamic (some ⟨"rest", .optionalCatchAll⟩)
        generator := some (.callable ⟨"rest", fun _ _ => .ok (.tuple
          [.mapping [(.text "rest", .list [.text "a", .text "b"])], .mapping []])⟩) }
    ∃ result,
      (expand .standard [root, lang, rest] ⟨.static, (), true⟩ (some "/[lang]/[[...rest]]") false
        (.number (.int 8)) []).1 = .ok result
      ∧ result.pathnames = ["/en/a/b", "/en"]
      ∧ ∀ path ∈ result.paths, Fulfils [root, lang, rest] path := by
  intro root lang rest
  have ran : (expand .standard [root, lang, rest] ⟨.static, (), true⟩
      (some "/[lang]/[[...rest]]") false (.number (.int 8)) []).1
        = .ok
            { paths := [[("lang", .text "en"), ("rest", .parts ["a", "b"])],
                [("lang", .text "en"), ("rest", .absent)]]
              fallback := .blocking, revalidate := (), pathnames := ["/en/a/b", "/en"] } := by
    decide +kernel
  exact ⟨_, ran, rfl, ((expand_shapes_paths _ _ _ _ _ _ _).2 _ ran).1⟩

end Prerender
