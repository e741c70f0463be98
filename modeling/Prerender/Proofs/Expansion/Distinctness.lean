import Mathlib.Algebra.Group.Nat.Defs
import Mathlib.Data.List.Nodup
import Prerender.Proofs.Bindings
import Prerender.Proofs.Expansion.Merge
import Prerender.Proofs.Expansion.Paths
import Prerender.Proofs.Expansion.Stages

/-!
# Expansions that collapse nothing

In a chain whose dynamic segments have generators and whose other segments have none, each level
binds one more parameter, for every record the same (`Regular`). If no call returns two items that
are read as the same value, then the records of a level are different ones, each of them is a path
at the end of the chain, and there are as many as the last level has items
(`expand_collapses_nothing`).
-/

namespace Prerender

variable {σ ρ : Type} {overrun : Nat → Nat}

namespace SegmentWith

/-- The value that an item of a dynamic segment is read as; none if it is not accepted. -/
def reading? (segment : SegmentWith σ) (item : Item) : Option ParamValue :=
  match segment.paramName?, item with
  | some own, .ok entries => (segment.accept (entries.lookup? (.text own)) segment).toOption
  | _, _ => none

/-- The items that the generator of a segment returns for a record, behind some calls; none if the
call fails. -/
def itemsAt (segment : SegmentWith σ) (turn : ParamRecord × List Call) : List Item :=
  match (segment.generate turn.1 turn.2).1 with
  | .error _ => []
  | .ok items => items

variable {segment : SegmentWith σ} {own : String} {owners : Owners σ}

/-- A dynamic segment gives one record for each item: the old one, with the value that the item is
read as behind it. -/
theorem exists_values_of_merge (named : segment.paramName? = some own) {record : ParamRecord}
    (unbound : own ∉ record.names) {items : List Item} {children : List ParamRecord}
    (merged : segment.merge record items owners = .ok children) :
    ∃ values : List ParamValue, items.map segment.reading? = values.map some
      ∧ children = values.map fun value => record ++ [(own, value)] := by
  obtain ⟨-, each⟩ := merge_eq_ok_iff.mp merged
  clear merged
  induction each with
  | nil => exact ⟨[], rfl, rfl⟩
  | cons here _ ih =>
    obtain ⟨additions, adds, rfl⟩ := here
    obtain ⟨values, readings, rfl⟩ := ih
    rw [Adds, if_pos (isDynamic_of_paramName? named)] at adds
    obtain ⟨_, alsoNamed, adds⟩ := adds
    cases named.symm.trans alsoNamed
    obtain ⟨entries, rfl, adds⟩ := dynamicAddition_eq_ok_iff.mp adds
    obtain ⟨-, value, accepted, rfl⟩ := dynamicEntries_eq_ok_iff.mp adds
    refine ⟨value :: values, ?_, ?_⟩
    · have reading : segment.reading? (.ok entries) = some value := by
        simp only [reading?, named, accepted, Except.toOption]
      rw [List.map_cons, List.map_cons, readings, reading]
    · rw [List.map_cons]
      exact congrArg (· :: _) (Bindings.assign_eq_append unbound value)

end SegmentWith

namespace Expansion

/-! ### Turns -/

/-- What the generator of a segment is called for, one record after the other: each with the calls
that were made before. -/
def turns (segment : SegmentWith σ) :
    List ParamRecord → List Call → List (ParamRecord × List Call)
  | [], _ => []
  | record :: rest, calls =>
    (record, calls) :: turns segment rest (calls ++ segment.callFor record)

/-- In an expansion behind some calls, the generator of a segment behind the first part of the
chain is called for a record, behind the calls that were made before. -/
def TakesTurn (overrun : Nat → Nat) (chain above : List (SegmentWith σ)) (segment : SegmentWith σ)
    (calls : List Call) (turn : ParamRecord × List Call) : Prop :=
  ∃ below reached log, chain = above ++ segment :: below ∧ segment.generator.isSome = true
    ∧ expandChain overrun (ownersOf chain) above [[]] calls = (.ok reached, log)
    ∧ turn ∈ turns segment reached log

/-- A level that has a result has one for the first record, and one for the others behind it. -/
theorem expandLevel_cons_eq_ok {segment : SegmentWith σ} {owners : Owners σ}
    {record : ParamRecord} {rest : List ParamRecord} {calls log : List Call}
    {children : List ParamRecord}
    (ran : expandLevel overrun segment owners (record :: rest) calls = (.ok children, log)) :
    ∃ here behind, segment.merge record (segment.itemsAt (record, calls)) owners = .ok here
      ∧ expandLevel overrun segment owners rest (calls ++ segment.callFor record)
        = (.ok behind, log)
      ∧ children = here ++ behind := by
  obtain ⟨here, between, behind, first, later, rfl⟩ := expandLevel_cons_eq_ok_iff.mp ran
  obtain ⟨items, answer, merged⟩ := expandRecord_eq_ok_iff.mp first
  have called := segment.generate_snd record calls
  have taken : segment.itemsAt (record, calls) = items := by rw [SegmentWith.itemsAt, answer]
  rw [answer] at called
  obtain rfl : between = _ := called
  exact ⟨here, behind, taken.symm ▸ merged, later, rfl⟩

/-- A level gives as many records as its generator returns items. -/
theorem length_of_expandLevel {segment : SegmentWith σ} {owners : Owners σ}
    {records children : List ParamRecord} {calls log : List Call}
    (ran : expandLevel overrun segment owners records calls = (.ok children, log)) :
    children.length = ((turns segment records calls).flatMap segment.itemsAt).length := by
  induction records generalizing calls children with
  | nil =>
    cases ran
    rfl
  | cons record rest ih =>
    obtain ⟨here, behind, merged, later, rfl⟩ := expandLevel_cons_eq_ok ran
    obtain ⟨-, each⟩ := SegmentWith.merge_eq_ok_iff.mp merged
    rw [List.length_append, ih later, ← each.length_eq, turns, List.flatMap_cons,
      List.length_append]

theorem length_turns (segment : SegmentWith σ) (records : List ParamRecord) (calls : List Call) :
    (turns segment records calls).length = records.length := by
  induction records generalizing calls with
  | nil => rfl
  | cons record rest ih => rw [turns, List.length_cons, List.length_cons, ih]

/-! ### Levels -/

/-- The records of a level are different ones, and bind the parameters of the chain so far in its
order. -/
structure Regular (above : List (SegmentWith σ)) (records : List ParamRecord) : Prop where
  nodup : records.Nodup
  names : ∀ record ∈ records, record.names = paramNames above

/-- A level with one more parameter has different records for different ones if no call returns
two items that are read as the same value. -/
theorem nodup_of_expandLevel {segment : SegmentWith σ} {own : String} {owners : Owners σ}
    (named : segment.paramName? = some own) {records children : List ParamRecord}
    {calls log : List Call}
    (ran : expandLevel overrun segment owners records calls = (.ok children, log))
    (nodup : records.Nodup) (unbound : ∀ record ∈ records, own ∉ record.names)
    (distinct : ∀ turn ∈ turns segment records calls,
      ((segment.itemsAt turn).map segment.reading?).Nodup) :
    children.Nodup
      ∧ ∀ child ∈ children, ∃ record ∈ records, ∃ value, child = record ++ [(own, value)] := by
  induction records generalizing calls children with
  | nil =>
    cases ran
    exact ⟨List.nodup_nil, fun _ member => absurd member List.not_mem_nil⟩
  | cons record rest ih =>
    rw [List.forall_mem_cons] at unbound
    rw [turns, List.forall_mem_cons] at distinct
    obtain ⟨new, nodupRest⟩ := List.nodup_cons.mp nodup
    obtain ⟨here, behind, merged, later, rfl⟩ := expandLevel_cons_eq_ok ran
    obtain ⟨values, readings, rfl⟩ :=
      SegmentWith.exists_values_of_merge named unbound.1 merged
    obtain ⟨nodupBehind, extended⟩ := ih later nodupRest unbound.2 distinct.2
    -- What is known to be distinct are the readings, each of which is `some` value here.
    have nodupValues : values.Nodup := (readings ▸ distinct.1).of_map
    have nodupHere : (values.map fun value => record ++ [(own, value)]).Nodup :=
      nodupValues.map fun a b same => by simpa using same
    refine ⟨List.nodup_append.mpr ⟨nodupHere, nodupBehind, ?_⟩, ?_⟩
    -- Children of one record differ in the new value, those of two in what stands before it.
    · rintro child isHere other isBehind rfl
      obtain ⟨value, -, rfl⟩ := List.mem_map.mp isHere
      obtain ⟨parent, inRest, otherValue, same⟩ := extended _ isBehind
      exact new ((List.append_inj' same rfl).1 ▸ inRest)
    · intro child member
      rcases List.mem_append.mp member with isHere | isBehind
      · obtain ⟨value, -, rfl⟩ := List.mem_map.mp isHere
        exact ⟨record, List.mem_cons_self, value, rfl⟩
      · obtain ⟨parent, inRest, value, rfl⟩ := extended child isBehind
        exact ⟨parent, List.mem_cons_of_mem record inRest, value, rfl⟩

/-- At a segment the records stay regular. -/
theorem Regular.step {chain above below : List (SegmentWith σ)} {segment : SegmentWith σ}
    (declared : WellDeclared chain) (split : chain = above ++ segment :: below)
    (generating : segment.generator.isSome = segment.isDynamic)
    {reached children : List ParamRecord} {calls log : List Call}
    (ran : expandChain overrun (ownersOf chain) [segment] reached calls = (.ok children, log))
    (distinct : segment.generator.isSome = true → ∀ turn ∈ turns segment reached calls,
      ((segment.itemsAt turn).map segment.reading?).Nodup)
    (regular : Regular above reached) : Regular (above ++ [segment]) children := by
  have longer : paramNames (above ++ [segment])
      = paramNames above ++ segment.paramName?.toList := by
    rw [paramNames_append, paramNames_singleton]
  cases generates : segment.generator with
  | none =>
    rw [expandChain_cons_of_no_generator generates] at ran
    cases ran
    have unnamed : segment.paramName? = none := by
      cases named : segment.paramName? with
      | none => rfl
      | some own =>
        rw [generates, SegmentWith.isDynamic_of_paramName? named] at generating
        cases generating
    refine ⟨regular.nodup, ?_⟩
    rw [longer, unnamed, Option.toList_none, List.append_nil]
    exact regular.names
  | some generator =>
    rw [expandChain_singleton generates] at ran
    rw [generates] at generating distinct
    have inChain : segment ∈ chain := split ▸ by simp
    obtain ⟨own, named⟩ := Option.isSome_iff_exists.mp
      (declared.named segment inChain generating.symm)
    -- The parameters of the chain are distinct, so this one is not among those above.
    have new : own ∉ paramNames above := by
      have nodup := declared.distinct
      rw [split, paramNames, List.filterMap_append, List.filterMap_cons_some named] at nodup
      exact fun bound => List.disjoint_of_nodup_append nodup bound List.mem_cons_self
    obtain ⟨nodup, extended⟩ := nodup_of_expandLevel named ran regular.nodup
      (fun record member => (regular.names record member).symm ▸ new) (distinct rfl)
    refine ⟨nodup, ?_⟩
    intro child member
    obtain ⟨record, inReached, value, rfl⟩ := extended child member
    rw [longer, named, ← regular.names record inReached]
    exact List.map_append

/-- Regular records are different mappings. -/
theorem Regular.pairwise {above : List (SegmentWith σ)} {records : List ParamRecord}
    (regular : Regular above records) (distinct : (paramNames above).Nodup) :
    records.Pairwise fun a b => ∃ name, a.lookup? name ≠ b.lookup? name := by
  refine regular.nodup.imp_of_mem ?_
  intro a b inA inB differ
  by_contra same
  push Not at same
  have namesA := regular.names a inA
  have sameNames : a.names = b.names := namesA.trans (regular.names b inB).symm
  exact differ (Bindings.eq_of_lookup? sameNames (namesA ▸ distinct) same)

/-! ### Paths -/

theorem distinctFrom_eq_self {seen records : List ParamRecord}
    (unseen : ∀ record ∈ records, seen.any record.sameBindings = false)
    (differ : records.Pairwise fun a b => b.sameBindings a = false) :
    distinctFrom seen records = records := by
  induction records generalizing seen with
  | nil => rfl
  | cons record rest ih =>
    rw [List.forall_mem_cons] at unseen
    rw [List.pairwise_cons] at differ
    rw [distinctFrom, if_neg (by simp [unseen.1])]
    refine congrArg (record :: ·) (ih ?_ differ.2)
    intro later member
    rw [List.any_cons, Bool.or_eq_false_iff]
    exact ⟨differ.1 later member, unseen.2 later member⟩

/-- At the end of a chain, regular records are the paths. -/
theorem Regular.pathsOf_eq {chain : List (SegmentWith σ)} (declared : WellDeclared chain)
    {records : List ParamRecord} (regular : Regular chain records) :
    pathsOf (ownersOf chain) records = records := by
  have complete : records.filter (isComplete (ownersOf chain)) = records := by
    apply List.filter_eq_self.mpr
    intro record member
    rw [isComplete_iff]
    intro name
    rw [Bindings.binds_iff_mem_names, Bindings.binds_iff_mem_names, names_ownersOf,
      regular.names record member]
  rw [pathsOf, complete]
  apply distinctFrom_eq_self
  · exact fun _ _ => rfl
  · refine (regular.pairwise declared.distinct).imp_of_mem ?_
    rintro a b inA inB ⟨name, differ⟩
    have nodup : ∀ record ∈ records, record.names.Nodup :=
      fun record member => (regular.names record member).symm ▸ declared.distinct
    rw [Bool.eq_false_iff]
    intro same
    exact differ ((ParamRecord.sameBindings_iff (nodup b inB) (nodup a inA)).mp same name).symm

/-! ### Counts -/

/-- A generator that returns a fixed number of items multiplies the records by it. -/
theorem length_of_step {owners : Owners σ} {above : List (SegmentWith σ)}
    {segment : SegmentWith σ} (generating : segment.generator.isSome = segment.isDynamic)
    {reached children : List ParamRecord} {calls log : List Call}
    (ran : expandChain overrun owners [segment] reached calls = (.ok children, log))
    {count : Nat → Nat}
    (counted : segment.generator.isSome = true → ∀ turn ∈ turns segment reached calls,
      (segment.itemsAt turn).length = count (above.filter (·.isDynamic)).length)
    (before : reached.length
      = ((List.range (above.filter (·.isDynamic)).length).map count).prod) :
    children.length
      = ((List.range ((above ++ [segment]).filter (·.isDynamic)).length).map count).prod := by
  rw [List.filter_append, List.length_append]
  cases generates : segment.generator with
  | none =>
    rw [expandChain_cons_of_no_generator generates] at ran
    cases ran
    rw [generates] at generating
    rw [List.filter_cons_of_neg (by simp [← generating]), List.filter_nil]
    exact before
  | some generator =>
    rw [expandChain_singleton generates] at ran
    rw [generates] at generating counted
    rw [List.filter_cons_of_pos generating.symm, List.filter_nil, List.length_singleton,
      List.range_succ, List.map_append, List.prod_append, List.map_singleton, List.prod_singleton,
      ← before, length_of_expandLevel ran, List.length_flatMap,
      List.map_congr_left (counted rfl), List.map_const', List.sum_replicate_nat, length_turns]

/-! ### Runs -/

section Run

variable {chain : List (SegmentWith σ)} {records : List ParamRecord} {calls log : List Call}

/-- At each segment of a chain the records are regular. -/
theorem exists_regular (declared : WellDeclared chain)
    (generating : ∀ segment ∈ chain, segment.generator.isSome = segment.isDynamic)
    (ran : expandChain overrun (ownersOf chain) chain [[]] calls = (.ok records, log))
    (distinct : ∀ above segment turn, TakesTurn overrun chain above segment calls turn →
      ((segment.itemsAt turn).map segment.reading?).Nodup)
    (above below : List (SegmentWith σ)) (split : chain = above ++ below) :
    ∃ reached between, expandChain overrun (ownersOf chain) above [[]] calls
      = (.ok reached, between)
      ∧ expandChain overrun (ownersOf chain) below reached between = (.ok records, log)
      ∧ Regular above reached := by
  have root : Regular ([] : List (SegmentWith σ)) [[]] :=
    ⟨List.nodup_singleton [], List.forall_mem_singleton.mpr rfl⟩
  refine exists_reached ran root ?_ above below split
  intro above segment below split reached between children after first here regular
  refine regular.step declared split (generating segment (split ▸ by simp)) here ?_
  intro generates turn member
  exact distinct above segment turn ⟨below, reached, between, split, generates, first, member⟩

/-- There are as many records at the end of a chain as its last generator returns items. -/
theorem length_eq_items
    (generating : ∀ segment ∈ chain, segment.generator.isSome = segment.isDynamic)
    (ran : expandChain overrun (ownersOf chain) chain [[]] calls = (.ok records, log))
    {above below : List (SegmentWith σ)} {segment : SegmentWith σ}
    (split : chain = above ++ segment :: below) (isDynamic : segment.isDynamic = true)
    (last : ∀ later ∈ below, later.isDynamic = false) :
    ∃ reached between, expandChain overrun (ownersOf chain) above [[]] calls
      = (.ok reached, between)
      ∧ records.length = ((turns segment reached between).flatMap segment.itemsAt).length := by
  have whole : chain = above ++ ([segment] ++ below) := split
  generalize ownersOf chain = owners at ran ⊢
  rw [whole, expandChain_append_eq_ok_iff] at ran
  obtain ⟨reached, between, first, rest⟩ := ran
  obtain ⟨children, after, here, behind⟩ := expandChain_append_eq_ok_iff.mp rest
  have silent : ∀ later ∈ below, later.generator = none := by
    intro later inBelow
    have generatingLater := generating later (split ▸ by simp [inBelow])
    rwa [last later inBelow, Option.isSome_eq_false_iff, Option.isNone_iff_eq_none]
      at generatingLater
  rw [expandChain_of_no_generators silent] at behind
  cases behind
  obtain ⟨generator, generates⟩ := Option.isSome_iff_exists.mp
    ((generating segment (split ▸ by simp)).trans isDynamic)
  rw [expandChain_singleton generates] at here
  exact ⟨reached, between, first, length_of_expandLevel here⟩

/-- With a fixed number of items for each generator, there are as many records at the end of a
chain as the product of these numbers. -/
theorem length_eq_prod
    (generating : ∀ segment ∈ chain, segment.generator.isSome = segment.isDynamic)
    (ran : expandChain overrun (ownersOf chain) chain [[]] calls = (.ok records, log))
    {count : Nat → Nat}
    (counted : ∀ above segment turn, TakesTurn overrun chain above segment calls turn →
      (segment.itemsAt turn).length = count (above.filter (·.isDynamic)).length) :
    records.length = ((List.range (chain.filter (·.isDynamic)).length).map count).prod := by
  have reach := exists_reached ran
    (P := fun above reached => reached.length
      = ((List.range (above.filter (·.isDynamic)).length).map count).prod)
    rfl
    (by
      intro above segment below split reached between children after first here before
      refine length_of_step (generating segment (split ▸ by simp)) here ?_ before
      intro generates turn member
      exact counted above segment turn
        ⟨below, reached, between, split, generates, first, member⟩)
    chain [] (List.append_nil chain).symm
  obtain ⟨_, _, -, ⟨⟩, total⟩ := reach
  exact total

end Run

end Expansion

open Expansion in
/-- If the dynamic segments of a chain have generators and the others have none, and no call of an
expansion that succeeds returns two items that are read as the same value, then nothing is
collapsed: at each segment the records are different mappings, those at the end of the chain are
the paths, and there are as many of them as the generator of the last dynamic segment returns
items. With a fixed number of items for each generator, it is the product of these numbers. -/
theorem expand_collapses_nothing (tasks : TaskLibrary) (chain : List (SegmentWith σ))
    (policy : ExpansionPolicy ρ) (pathname : Option String) (fallbackShells : Bool)
    (concurrency : Value) (calls log : List Call) (result : StaticPaths ρ)
    (dynamic : ∃ segment ∈ chain, segment.isDynamic = true)
    (generating : ∀ segment ∈ chain, segment.generator.isSome = segment.isDynamic)
    (onRequest : policy.mode ≠ .forceDynamic)
    (expanded : expand tasks chain policy pathname fallbackShells concurrency calls
      = (.ok result, log))
    (distinct : ∀ above segment turn,
      TakesTurn (tasks.overrun concurrency) chain above segment calls turn →
        ((segment.itemsAt turn).map segment.reading?).Nodup) :
    (∀ above below, chain = above ++ below → ∃ reached between,
        expandChain (tasks.overrun concurrency) (ownersOf chain) above [[]] calls
            = (.ok reached, between)
          ∧ reached.Pairwise fun a b => ∃ name, a.lookup? name ≠ b.lookup? name)
      ∧ expandChain (tasks.overrun concurrency) (ownersOf chain) chain [[]] calls
        = (.ok result.paths, log)
      ∧ (∀ above segment below, chain = above ++ segment :: below → segment.isDynamic = true →
          (∀ later ∈ below, later.isDynamic = false) → ∃ reached between,
            expandChain (tasks.overrun concurrency) (ownersOf chain) above [[]] calls
                = (.ok reached, between)
              ∧ result.paths.length
                = ((turns segment reached between).flatMap segment.itemsAt).length)
      ∧ ∀ count : Nat → Nat,
          (∀ above segment turn,
            TakesTurn (tasks.overrun concurrency) chain above segment calls turn →
              (segment.itemsAt turn).length = count (above.filter (·.isDynamic)).length) →
          result.paths.length
            = ((List.range (chain.filter (·.isDynamic)).length).map count).prod := by
  obtain ⟨declared, records, ran, paths⟩ := enumerated_of_expand dynamic onRequest expanded
  have reach := exists_regular declared generating ran distinct
  have regular : Regular chain records := by
    obtain ⟨_, _, -, ⟨⟩, regular⟩ := reach chain [] (List.append_nil chain).symm
    exact regular
  rw [regular.pathsOf_eq declared] at paths
  rw [paths]
  refine ⟨?_, ran, ?_, fun count counted => length_eq_prod generating ran counted⟩
  · intro above below split
    obtain ⟨reached, between, first, -, regularHere⟩ := reach above below split
    have distinctNames : (paramNames above).Nodup := by
      have nodup := declared.distinct
      rw [split, paramNames, List.filterMap_append] at nodup
      exact nodup.of_append_left
    exact ⟨reached, between, first, regularHere.pairwise distinctNames⟩
  · intro above segment below split isDynamic last
    exact length_eq_items generating ran split isDynamic last

open Expansion in
theorem expand_collapses_nothing_languages :
    let lang : SegmentWith Unit :=
      { name := "[lang]", role := .dynamic (some ⟨"lang", .single⟩)
        generator := some (.callable ⟨"languages", fun _ _ => .ok (.list
          [.mapping [(.text "lang", .text "en")], .mapping [(.text "lang", .text "de")]])⟩) }
    let layout : SegmentWith Unit := { name := "layout" }
    let rest : SegmentWith Unit :=
      { name := "[[...rest]]", role := .dynamic (some ⟨"rest", .optionalCatchAll⟩)
        generator := some (.callable ⟨"rest", fun _ _ => .ok (.tuple
          [.mapping [], .mapping [(.text "rest", .list [.text "a"])]])⟩) }
    ∃ result log, expand .standard [lang, layout, rest] ⟨.static, (), true⟩ none false
        (.number (.int 8)) [] = (.ok result, log)
      ∧ result.paths.length = 2 * 2 := by
  intro lang layout rest
  have succeeds : (expand .standard [lang, layout, rest] ⟨.static, (), true⟩ none false
      (.number (.int 8)) []).1.isOk = true := by decide +kernel
  generalize expanded : expand .standard [lang, layout, rest] ⟨.static, (), true⟩ none false
    (.number (.int 8)) [] = run at succeeds ⊢
  obtain ⟨raised | result, log⟩ := run
  · cases succeeds
  have taken : ∀ above segment turn, TakesTurn (TaskLibrary.standard.overrun (.number (.int 8)))
      [lang, layout, rest] above segment [] turn →
      segment = lang ∨ segment = rest := by
    rintro above segment turn ⟨below, reached, between, split, generates, -, -⟩
    have inChain : segment ∈ [lang, layout, rest] := split ▸ by simp
    rcases List.mem_cons.mp inChain with isLang | later
    · exact Or.inl isLang
    rcases List.mem_cons.mp later with rfl | last
    · cases generates
    · exact Or.inr (List.mem_singleton.mp last)
  have distinct : ∀ above segment turn, TakesTurn (TaskLibrary.standard.overrun (.number (.int 8)))
      [lang, layout, rest] above segment [] turn →
      ((segment.itemsAt turn).map segment.reading?).Nodup := by
    intro above segment turn takes
    rcases taken above segment turn takes with rfl | rfl
    · have items : lang.itemsAt turn
          = [.ok [(.text "lang", .text "en")], .ok [(.text "lang", .text "de")]] := rfl
      rw [items]
      decide +kernel
    · have items : rest.itemsAt turn = [.ok [], .ok [(.text "rest", .list [.text "a"])]] := rfl
      rw [items]
      decide +kernel
  obtain ⟨-, -, -, product⟩ := expand_collapses_nothing .standard [lang, layout, rest]
    ⟨.static, (), true⟩ none false (.number (.int 8)) [] log result
    ⟨lang, List.mem_cons_self, rfl⟩ (by decide) (by decide) expanded distinct
  refine ⟨result, log, rfl, product (fun _ => 2) ?_⟩
  intro above segment turn takes
  rcases taken above segment turn takes with rfl | rfl <;> rfl

end Prerender
