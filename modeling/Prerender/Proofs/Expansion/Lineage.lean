import Prerender.Proofs.Expansion.Merge
import Prerender.Proofs.Expansion.Paths

/-!
# Records and those that they come from

A merge keeps what a record binds, with one exception (`Overwrites`): an item without any key, from
a segment whose parameter is an optional catch-all, sets that parameter to nothing even if the
record binds it already. `merge_keeps_iff` says so for one merge.

`traceChain` is a run that keeps beside each record what it was merged from (`traceChain_erase`).
`expand_keeps_lineage_iff` says for the whole of it that a path agrees with every record on its
lineage exactly if nothing on it was overwritten.
-/

namespace Prerender

variable {σ ρ : Type} {overrun : Nat → Nat}

/-- A record binds all that an earlier one binds, to the same values. -/
def ParamRecord.Keeps (record earlier : ParamRecord) : Prop :=
  ∀ name value, earlier.lookup? name = some value → record.lookup? name = some value

namespace ParamRecord

theorem Keeps.trans {last record first : ParamRecord} (later : last.Keeps record)
    (sooner : record.Keeps first) : last.Keeps first := by
  intro name value found
  exact later name value (sooner name value found)

/-- Binding a name keeps a record that does not bind it to another value. -/
theorem keeps_assign {record : ParamRecord} {name : String} {value : ParamValue}
    (agrees : ∀ old, record.lookup? name = some old → value = old) :
    Keeps (record.assign name value) record := by
  intro other old found
  rw [Bindings.lookup?_assign]
  split
  · next same =>
    subst same
    exact congrArg some (agrees old found)
  · exact found

/-- Additions keep a record that binds none of their names. -/
theorem keeps_extend {record additions : ParamRecord}
    (unbound : ∀ binding ∈ additions, record.lookup? binding.1 = none) :
    (record.extend additions).Keeps record := by
  intro name value found
  rw [lookup?_extend_of_not_mem, found]
  intro added
  obtain ⟨binding, member, rfl⟩ := List.mem_map.mp added
  rw [unbound binding member] at found
  cases found

end ParamRecord

namespace SegmentWith

/-- An item without any key, for an optional catch-all that a record binds to something. -/
def Overwrites (segment : SegmentWith σ) (record : ParamRecord) (item : Item) : Prop :=
  item = .ok [] ∧ ∃ name value, segment.param? = some ⟨name, .optionalCatchAll⟩
    ∧ record.lookup? name = some value ∧ value ≠ .absent

theorem not_overwrites_of_static {segment : SegmentWith σ} (static : ¬segment.isDynamic = true)
    (record : ParamRecord) (item : Item) : ¬segment.Overwrites record item := by
  rintro ⟨-, name, _, carried, -⟩
  exact static (isDynamic_of_paramName? (paramName?_of_param? carried))

/-- What an item adds keeps the record, or it overwrites an optional catch-all with nothing. -/
theorem keeps_or_overwrites {segment : SegmentWith σ} {owners : Owners σ} {record : ParamRecord}
    {item : Item} {additions : ParamRecord} (adds : segment.Adds owners record item additions) :
    (record.extend additions).Keeps record ∧ ¬segment.Overwrites record item
      ∨ segment.Overwrites record item ∧ ∃ name, segment.paramName? = some name
        ∧ record.extend additions = record.assign name .absent := by
  unfold Adds at adds
  split at adds
  · obtain ⟨own, named, adds⟩ := adds
    obtain ⟨entries, rfl, adds⟩ := dynamicAddition_eq_ok_iff.mp adds
    obtain ⟨checked, value, accepted, rfl⟩ := dynamicEntries_eq_ok_iff.mp adds
    have extended : record.extend [(own, value)] = record.assign own value := rfl
    rw [extended]
    cases entries with
    | cons entry rest =>
      obtain ⟨isOwn, unbound⟩ := checked entry List.mem_cons_self
      rw [isOwn, ParamRecord.lookup?_toEntries, Option.map_eq_none_iff] at unbound
      left
      constructor
      · apply ParamRecord.keeps_assign
        intro old found
        rw [unbound] at found
        cases found
      · rintro ⟨⟨⟩, -⟩
    | nil =>
      obtain ⟨⟨name, kind⟩, carried, reading⟩ := accept_eq_ok_iff.mp accepted
      rw [paramName?, carried] at named
      cases named
      cases reading with
      | missing =>
        by_cases overwrites : segment.Overwrites record (.ok [])
        · exact Or.inr ⟨overwrites, name, paramName?_of_param? carried, rfl⟩
        · refine Or.inl ⟨?_, overwrites⟩
          apply ParamRecord.keeps_assign
          intro old found
          by_contra differs
          exact overwrites ⟨rfl, name, old, carried, found, Ne.symm differs⟩
  · next static =>
    left
    constructor
    · exact ParamRecord.keeps_extend (staticAddition_opens adds).unbound
    · exact not_overwrites_of_static static record item

/-- What an item overwrites is bound to nothing afterwards. -/
theorem absent_of_overwrites {segment : SegmentWith σ} {owners : Owners σ} {record : ParamRecord}
    {item : Item} {additions : ParamRecord} (adds : segment.Adds owners record item additions)
    (overwrites : segment.Overwrites record item) :
    ∃ name value, record.lookup? name = some value ∧ value ≠ .absent
      ∧ (record.extend additions).lookup? name = some .absent := by
  rcases keeps_or_overwrites adds with ⟨-, spared⟩ | ⟨-, name, named, extended⟩
  · exact absurd overwrites spared
  · obtain ⟨-, own, value, carried, found, differs⟩ := overwrites
    cases (paramName?_of_param? carried).symm.trans named
    refine ⟨own, value, found, differs, ?_⟩
    rw [extended, Bindings.lookup?_assign, if_pos rfl]

/-- A merge keeps the record in exactly those of its results that nothing was overwritten for. -/
theorem keeps_iff_not_overwrites {segment : SegmentWith σ} {owners : Owners σ}
    {record : ParamRecord} {item : Item} {additions : ParamRecord}
    (adds : segment.Adds owners record item additions) :
    (record.extend additions).Keeps record ↔ ¬segment.Overwrites record item := by
  constructor
  · intro keeps overwrites
    obtain ⟨name, value, found, differs, absent⟩ := absent_of_overwrites adds overwrites
    have kept := keeps name value found
    rw [absent] at kept
    exact differs (Option.some.inj kept).symm
  · intro spared
    rcases keeps_or_overwrites adds with ⟨keeps, -⟩ | ⟨overwrites, -⟩
    · exact keeps
    · exact absurd overwrites spared

/-- A parameter that a record binds to nothing stays so. -/
theorem lookup?_extend_of_absent {segment : SegmentWith σ} {owners : Owners σ}
    {record : ParamRecord} {item : Item} {additions : ParamRecord}
    (adds : segment.Adds owners record item additions) {name : String}
    (absent : record.lookup? name = some .absent) :
    (record.extend additions).lookup? name = some .absent := by
  rcases keeps_or_overwrites adds with ⟨keeps, -⟩ | ⟨-, own, -, extended⟩
  · exact keeps name .absent absent
  · rw [extended, Bindings.lookup?_assign, absent, ite_self]

/-- Each result of a merge keeps the record, unless its item overwrites something. -/
theorem merge_keeps_iff {segment : SegmentWith σ} {owners : Owners σ} {record : ParamRecord}
    {items : List Item} {merged : List ParamRecord}
    (ok : segment.merge record items owners = .ok merged) :
    List.Forall₂ (fun item child => child.Keeps record ↔ ¬segment.Overwrites record item)
      items merged := by
  refine (merge_eq_ok_iff.mp ok).2.imp ?_
  rintro item _ ⟨additions, adds, rfl⟩
  exact keeps_iff_not_overwrites adds

end SegmentWith

namespace Expansion

/-! ### Lineages -/

/-- A segment's generator was called for a record, and one of the items that it returned was merged
into that record. -/
structure Descent (σ : Type) where
  segment : SegmentWith σ
  record : ParamRecord
  item : Item

/-- The item overwrote something that the record binds. -/
def Descent.Overwrites (descent : Descent σ) : Prop :=
  descent.segment.Overwrites descent.record descent.item

/-- A record, and how it was merged from the first one. -/
structure Traced (σ : Type) where
  record : ParamRecord := []
  lineage : List (Descent σ) := []

/-- Every record on a lineage was merged from the one before. -/
inductive Descends (owners : Owners σ) : Traced σ → Prop where
  | root : Descends owners {}
  | merged {traced : Traced σ} {segment : SegmentWith σ} {item : Item} {additions : ParamRecord}
      (descends : Descends owners traced)
      (adds : segment.Adds owners traced.record item additions) :
    Descends owners
      ⟨traced.record.extend additions, traced.lineage ++ [⟨segment, traced.record, item⟩]⟩

/-- What was overwritten on a lineage is bound to nothing at its end. -/
theorem Descends.lookup?_of_overwrites {owners : Owners σ} {traced : Traced σ}
    (descends : Descends owners traced) {descent : Descent σ} (member : descent ∈ traced.lineage)
    (overwrites : descent.Overwrites) :
    ∃ name value, descent.record.lookup? name = some value ∧ value ≠ .absent
      ∧ traced.record.lookup? name = some .absent := by
  induction descends with
  | root => cases member
  | @merged traced segment item additions _ adds ih =>
    rcases List.mem_append.mp member with earlier | last
    · obtain ⟨name, value, found, differs, absent⟩ := ih earlier
      exact ⟨name, value, found, differs, SegmentWith.lookup?_extend_of_absent adds absent⟩
    · cases List.mem_singleton.mp last
      exact SegmentWith.absent_of_overwrites adds overwrites

/-- The end of a lineage agrees with all records on it exactly if nothing was overwritten. -/
theorem Descends.keeps_iff {owners : Owners σ} {traced : Traced σ}
    (descends : Descends owners traced) :
    (∀ descent ∈ traced.lineage, traced.record.Keeps descent.record)
      ↔ ∀ descent ∈ traced.lineage, ¬descent.Overwrites := by
  constructor
  · -- What was overwritten on the way cannot come back: a parameter bound to nothing stays so.
    intro keeps descent member overwrites
    obtain ⟨name, value, found, differs, absent⟩ :=
      descends.lookup?_of_overwrites member overwrites
    have kept := keeps descent member name value found
    rw [absent] at kept
    exact differs (Option.some.inj kept).symm
  · intro spared
    induction descends with
    | root => exact fun _ member => absurd member List.not_mem_nil
    | @merged traced segment item additions _ adds ih =>
      rw [List.forall_mem_append] at spared
      have last := (SegmentWith.keeps_iff_not_overwrites adds).mpr
        (spared.2 _ (List.mem_singleton.mpr rfl))
      rw [List.forall_mem_append]
      refine ⟨fun descent member => last.trans (ih spared.1 descent member), ?_⟩
      exact List.forall_mem_singleton.mpr last

/-! ### Runs that keep lineages -/

/-- The records that a segment's generator gives for one record, each with its lineage. -/
def traceRecord (segment : SegmentWith σ) (owners : Owners σ) (traced : Traced σ)
    (calls : List Call) : Except Raised (List (Traced σ)) × List Call :=
  match segment.generate traced.record calls with
  | (.error raised, calls) => (.error raised, calls)
  | (.ok items, calls) =>
    (((segment.merge traced.record items owners).mapError Raised.leaving).map fun children =>
      (items.zip children).map fun (item, child) =>
        ⟨child, traced.lineage ++ [⟨segment, traced.record, item⟩]⟩, calls)

/-- The records that a segment's generator gives for several records, each with its lineage. -/
def traceLevel (overrun : Nat → Nat) (segment : SegmentWith σ) (owners : Owners σ) :
    List (Traced σ) → List Call → Except Raised (List (Traced σ)) × List Call
  | [], calls => (.ok [], calls)
  | traced :: rest, calls =>
    match traceRecord segment owners traced calls with
    | (.error raised, calls) =>
      let further := (rest.take (overrun rest.length)).map (·.record)
      let (crashes, calls) := expandFurther segment owners further calls
      (.error (groupEnd raised crashes), calls)
    | (.ok here, calls) =>
      match traceLevel overrun segment owners rest calls with
      | (.error raised, calls) => (.error raised, calls)
      | (.ok behind, calls) => (.ok (here ++ behind), calls)

/-- The records at the end of a chain, each with its lineage. -/
def traceChain (overrun : Nat → Nat) (owners : Owners σ) :
    List (SegmentWith σ) → List (Traced σ) → List Call →
      Except Raised (List (Traced σ)) × List Call
  | [], records, calls => (.ok records, calls)
  | segment :: rest, records, calls =>
    match segment.generator with
    | none => traceChain overrun owners rest records calls
    | some _ =>
      match traceLevel overrun segment owners records calls with
      | (.error raised, calls) => (.error raised, calls)
      | (.ok records, calls) => traceChain overrun owners rest records calls

/-- A run without the lineages. -/
def erase (run : Except Raised (List (Traced σ)) × List Call) :
    Except Raised (List ParamRecord) × List Call :=
  (run.1.map (·.map (·.record)), run.2)

theorem traceRecord_erase (segment : SegmentWith σ) (owners : Owners σ) (traced : Traced σ)
    (calls : List Call) : erase (traceRecord segment owners traced calls)
      = expandRecord segment owners traced.record calls := by
  unfold traceRecord expandRecord
  obtain ⟨raised | items, log⟩ := segment.generate traced.record calls
  · rfl
  · refine Prod.ext ?_ rfl
    cases merged : segment.merge traced.record items owners with
    | error raised => simp only [merged, Except.mapError]; rfl
    | ok children =>
      have lengths := (SegmentWith.merge_eq_ok_iff.mp merged).2.length_eq
      simp only [erase, merged, Except.map, Except.mapError, List.map_map]
      exact congrArg Except.ok (List.map_snd_zip (Nat.le_of_eq lengths.symm))

theorem traceLevel_erase (overrun : Nat → Nat) (segment : SegmentWith σ) (owners : Owners σ)
    (records : List (Traced σ)) (calls : List Call) :
    erase (traceLevel overrun segment owners records calls)
      = expandLevel overrun segment owners (records.map (·.record)) calls := by
  induction records generalizing calls with
  | nil => rfl
  | cons traced rest ih =>
    rw [traceLevel, List.map_cons, expandLevel, ← traceRecord_erase]
    obtain ⟨raised | here, between⟩ := traceRecord segment owners traced calls
    · simp only [erase, Except.map, List.map_take, List.length_map]
    · simp only [erase, Except.map]
      rw [← ih between]
      obtain ⟨raised | behind, log⟩ := traceLevel overrun segment owners rest between
      · rfl
      · simp only [erase, Except.map, List.map_append]

/-- Without the lineages, a run is the one that it is instead of. -/
theorem traceChain_erase (overrun : Nat → Nat) (owners : Owners σ) (chain : List (SegmentWith σ))
    (records : List (Traced σ)) (calls : List Call) :
    erase (traceChain overrun owners chain records calls)
      = expandChain overrun owners chain (records.map (·.record)) calls := by
  induction chain generalizing records calls with
  | nil => rfl
  | cons segment rest ih =>
    rw [traceChain, expandChain]
    cases segment.generator with
    | none => exact ih records calls
    | some generator =>
      simp only
      rw [← traceLevel_erase]
      obtain ⟨raised | children, between⟩ := traceLevel overrun segment owners records calls
      · rfl
      · exact ih children between

/-! ### Lineages of runs -/

theorem traceRecord_descends {segment : SegmentWith σ} {owners : Owners σ} {traced : Traced σ}
    (descends : Descends owners traced) {calls : List Call} {children : List (Traced σ)}
    (ran : (traceRecord segment owners traced calls).1 = .ok children) :
    ∀ child ∈ children, Descends owners child := by
  unfold traceRecord at ran
  generalize segment.generate traced.record calls = answer at ran
  obtain ⟨raised | items, log⟩ := answer
  · cases ran
  · obtain ⟨merged, ok, rfl⟩ := Except.map_eq_ok_iff.mp ran
    rw [Except.mapError_eq_ok_iff] at ok
    intro child member
    obtain ⟨⟨item, record⟩, zipped, rfl⟩ := List.mem_map.mp member
    obtain ⟨additions, adds, rfl⟩ :=
      List.forall₂_zip (SegmentWith.merge_eq_ok_iff.mp ok).2 zipped
    exact .merged descends adds

theorem traceLevel_descends {segment : SegmentWith σ} {owners : Owners σ}
    {records children : List (Traced σ)} (descend : ∀ traced ∈ records, Descends owners traced)
    {calls : List Call} (ran : (traceLevel overrun segment owners records calls).1 = .ok children) :
    ∀ child ∈ children, Descends owners child := by
  induction records generalizing calls children with
  | nil =>
    cases ran
    exact descend
  | cons traced rest ih =>
    rw [List.forall_mem_cons] at descend
    rw [traceLevel] at ran
    generalize first : traceRecord segment owners traced calls = run at ran
    obtain ⟨raised | here, between⟩ := run
    · cases ran
    · simp only at ran
      generalize second : traceLevel overrun segment owners rest between = run at ran
      obtain ⟨raised | behind, log⟩ := run
      · cases ran
      · cases ran
        rw [List.forall_mem_append]
        exact ⟨traceRecord_descends descend.1 (congrArg Prod.fst first),
          ih descend.2 (congrArg Prod.fst second)⟩

theorem traceChain_descends {owners : Owners σ} {chain : List (SegmentWith σ)}
    {records finals : List (Traced σ)} (descend : ∀ traced ∈ records, Descends owners traced)
    {calls : List Call} (ran : (traceChain overrun owners chain records calls).1 = .ok finals) :
    ∀ final ∈ finals, Descends owners final := by
  induction chain generalizing records calls with
  | nil =>
    cases ran
    exact descend
  | cons segment rest ih =>
    rw [traceChain] at ran
    cases generator : segment.generator with
    | none =>
      rw [generator] at ran
      exact ih descend ran
    | some _ =>
      simp only [generator] at ran
      generalize level : traceLevel overrun segment owners records calls = run at ran
      obtain ⟨raised | children, between⟩ := run
      · cases ran
      · exact ih (traceLevel_descends descend (congrArg Prod.fst level)) ran

end Expansion

open Expansion in
/-- A merge keeps what a record binds exactly if it does not set an optional catch-all to nothing
that the record binds already. Each path of an expansion stands at the end of a lineage of the
same run, and the end of a lineage agrees with all records on it exactly if nothing on it was
overwritten so. -/
theorem expand_keeps_lineage_iff (tasks : TaskLibrary) (chain : List (SegmentWith σ))
    (policy : ExpansionPolicy ρ) (pathname : Option String) (fallbackShells : Bool)
    (concurrency : Value) (calls : List Call) :
    (∀ segment ∈ chain, ∀ record items merged,
        segment.merge record items (ownersOf chain) = .ok merged →
          List.Forall₂ (fun item child => child.Keeps record ↔ ¬segment.Overwrites record item)
            items merged)
      ∧ ∀ result log,
          expand tasks chain policy pathname fallbackShells concurrency calls = (.ok result, log) →
            ∀ path ∈ result.paths, ∃ finals,
              traceChain (tasks.overrun concurrency) (ownersOf chain) chain [{}] calls
                  = (.ok finals, log)
                ∧ (∃ final ∈ finals, final.record = path)
                ∧ ∀ final ∈ finals,
                    (∀ descent ∈ final.lineage, final.record.Keeps descent.record)
                      ↔ ∀ descent ∈ final.lineage, ¬descent.Overwrites := by
  refine ⟨fun segment _ record items merged ok => SegmentWith.merge_keeps_iff ok, ?_⟩
  intro result log expanded path isPath
  rcases expand_cases expanded with ⟨-, early⟩ | ⟨-, rfl, late⟩
  · rw [(early result rfl).1] at isPath
    cases isPath
  · obtain ⟨records, ran, paths, -⟩ := late result rfl
    rw [paths] at isPath
    have reached := (mem_of_mem_pathsOf isPath).1
    have erased : erase
          (traceChain (tasks.overrun concurrency) (ownersOf chain) chain [{}] calls)
        = expandChain (tasks.overrun concurrency) (ownersOf chain) chain [[]] calls :=
      traceChain_erase _ _ _ _ _
    rw [← erased] at ran ⊢
    generalize traced :
      traceChain (tasks.overrun concurrency) (ownersOf chain) chain [{}] calls = run at ran ⊢
    obtain ⟨outcome, log⟩ := run
    obtain ⟨finals, rfl, rfl⟩ := Except.map_eq_ok_iff.mp ran
    obtain ⟨final, inFinals, rfl⟩ := List.mem_map.mp reached
    refine ⟨finals, rfl, ⟨final, inFinals, rfl⟩, ?_⟩
    intro other isFinal
    have descends := traceChain_descends (List.forall_mem_singleton.mpr .root)
      (congrArg Prod.fst traced) other isFinal
    exact descends.keeps_iff

/-- The generator of an optional catch-all is called with its parameter resolved already, and
replaces it by returning an item without keys. -/
theorem expand_overwrites_resolved :
    let root : SegmentWith Unit :=
      { name := ""
        generator := some (.callable ⟨"root", fun _ _ => .ok (.list
          [.mapping [(.text "rest", .list [.text "a"])]])⟩) }
    let rest : SegmentWith Unit :=
      { name := "[[...rest]]", role := .dynamic (some ⟨"rest", .optionalCatchAll⟩)
        generator := some (.callable ⟨"rest", fun _ _ => .ok (.list [.mapping []])⟩) }
    ∃ result, expand .standard [root, rest] ⟨.static, (), true⟩ none false (.number (.int 8)) []
        = (.ok result, [⟨"root", .params []⟩, ⟨"rest", .params [("rest", .parts ["a"])]⟩])
      ∧ ∃ path ∈ result.paths, ¬path.Keeps [("rest", .parts ["a"])] := by
  intro root rest
  have ran : expand .standard [root, rest] ⟨.static, (), true⟩ none false (.number (.int 8)) []
      = (.ok { paths := [[("rest", .absent)]], fallback := .blocking, revalidate := () },
          [⟨"root", .params []⟩, ⟨"rest", .params [("rest", .parts ["a"])]⟩]) := by rfl
  refine ⟨_, ran, [("rest", .absent)], List.mem_singleton.mpr rfl, ?_⟩
  intro keeps
  have kept := keeps "rest" (.parts ["a"]) rfl
  cases kept

end Prerender
