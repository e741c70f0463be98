import Prerender.Proofs.Expansion.Admission
import Prerender.Proofs.Expansion.Answers
import Prerender.Proofs.Expansion.Shape
import Prerender.Proofs.Expansion.Stages
import Prerender.Proofs.Expansion.StaticItems
import Prerender.Proofs.Expansion.Visibility

/-!
# Generators that repeat the record

A generator of a segment that is not dynamic may answer with values that the record has already.
In whatever way it spells them (`ParamValue.Spelled`), they are read as what they were, because a
record binds parameters of the chain only, each to a value of its kind; so nothing is added
(`staticAddition_restated`). Wherever a segment with such a generator stands in a chain, it does
not show in the outcome (`expand_restated`), unless another generator answers by its calls.
-/

namespace Prerender

variable {σ ρ : Type}

/-- How a generator may spell a value that it was given: the parts of a path as a list or as a
tuple, and no parts also as nothing. -/
inductive ParamValue.Spelled : ParamValue → Value → Prop where
  | text (content : String) : Spelled (.text content) (.text content)
  | list (parts : List String) : Spelled (.parts parts) (.list (parts.map .text))
  | tuple (parts : List String) : Spelled (.parts parts) (.tuple (parts.map .text))
  | nothing : Spelled .absent .none
  | emptyList : Spelled .absent (.list [])
  | emptyTuple : Spelled .absent (.tuple [])

/-- An item repeats some of the bindings of a record. -/
def Item.Restates (item : Item) (record : ParamRecord) : Prop :=
  ∃ entries, item = .ok entries ∧ ∀ entry ∈ entries, ∃ name value, (name, value) ∈ record
    ∧ entry.1 = .text name ∧ value.Spelled entry.2

/-- For each record that it is called for, a function answers with one item, which repeats some of
the bindings of that record. -/
def UserFunction.Reaffirms (function : UserFunction) : Prop :=
  ∀ record calls, ∃ answer item, function.run calls (.params record) = .ok answer
    ∧ answer.Offers [item] ∧ item.Restates record

/-! ### Values -/

/-- A value is read as what it is, in whatever way it is spelled. -/
theorem ParamValue.Spelled.reading {value : ParamValue} {given : Value}
    (spelled : value.Spelled given) {kind : ParamKind} (fits : value.Fits kind) :
    Reading kind (some given) value := by
  have texts (parts : List String) : Value.texts? (parts.map .text) = some parts :=
    Value.texts?_eq_some_iff.mpr rfl
  cases spelled with
  | text content =>
    cases kind with
    | single => exact .text content
    | catchAll => exact fits.elim
    | optionalCatchAll => exact fits.elim
  | list parts =>
    have many : kind ≠ .single := by
      rintro rfl
      exact fits.elim
    obtain ⟨part, rest, rfl⟩ := List.exists_cons_of_ne_nil (parts_ne_nil_of_fits fits)
    exact .parts many (texts (part :: rest))
  | tuple parts =>
    have many : kind ≠ .single := by
      rintro rfl
      exact fits.elim
    obtain ⟨part, rest, rfl⟩ := List.exists_cons_of_ne_nil (parts_ne_nil_of_fits fits)
    exact .parts many (texts (part :: rest))
  | nothing =>
    obtain rfl := optionalCatchAll_of_fits_absent fits
    exact .nothing
  | emptyList =>
    obtain rfl := optionalCatchAll_of_fits_absent fits
    exact .empty (texts [])
  | emptyTuple =>
    obtain rfl := optionalCatchAll_of_fits_absent fits
    exact .empty (texts [])

/-! ### Records -/

open Expansion

namespace SegmentWith

variable {page : SegmentWith σ} {chain : List (SegmentWith σ)} {record : ParamRecord}

/-- An entry that repeats a binding is taken and adds nothing. -/
theorem staticAdditionStep_restated (declared : WellDeclared chain)
    (shaped : ShapedBy chain record) {name : String} {value : ParamValue}
    (bound : (name, value) ∈ record) {given : Value} (spelled : value.Spelled given)
    (additions : ParamRecord) :
    page.staticAdditionStep record.toEntries (ownersOf chain) additions (.text name, given)
      = .ok additions := by
  have found := Bindings.lookup?_of_mem shaped.nodup bound
  obtain ⟨owner, inChain, param, carried, rfl, fits⟩ := shaped.shaped name value bound
  have owned := lookup?_ownersOf declared inChain (paramName?_of_param? carried)
  have read : owner.accept (some given) page = .ok value :=
    accept_eq_ok_iff.mpr ⟨param, carried, spelled.reading fits⟩
  rw [staticAdditionStep_of_bound found owned, read]
  exact if_pos rfl

/-- An item that repeats bindings of a record adds nothing to it. -/
theorem staticAddition_restated (declared : WellDeclared chain) (shaped : ShapedBy chain record)
    {item : Item} (restates : item.Restates record) :
    page.staticAddition record.toEntries (ownersOf chain) item = .ok [] := by
  obtain ⟨entries, rfl, restates⟩ := restates
  refine staticAddition_eq_ok_iff.mpr ⟨entries, rfl, ?_⟩
  unfold staticEntries
  induction entries with
  | nil => rfl
  | cons entry rest ih =>
    obtain ⟨key, given⟩ := entry
    obtain ⟨⟨name, value, bound, rfl, spelled⟩, behind⟩ := List.forall_mem_cons.mp restates
    rw [List.foldlM_cons, staticAdditionStep_restated declared shaped bound spelled]
    exact ih behind

theorem merge_restated (static : page.isDynamic = false) (declared : WellDeclared chain)
    (shaped : ShapedBy chain record) {item : Item} (restates : item.Restates record) :
    page.merge record [item] (ownersOf chain) = .ok [record] := by
  refine merge_eq_ok_iff.mpr ⟨by simp [static], .cons ⟨[], ?_, rfl⟩ .nil⟩
  rw [Adds, if_neg (by simp [static])]
  exact staticAddition_restated declared shaped restates

end SegmentWith

/-! ### Runs -/

namespace Expansion

variable {page : SegmentWith σ} {function : UserFunction} {chain : List (SegmentWith σ)}
  {overrun : Nat → Nat}

theorem expandRecord_restated (static : page.isDynamic = false)
    (generates : page.generator = some (.callable function)) (reaffirms : function.Reaffirms)
    (declared : WellDeclared chain) {record : ParamRecord} (shaped : ShapedBy chain record)
    (calls : List Call) :
    expandRecord page (ownersOf chain) record calls
      = (.ok [record], calls ++ [⟨function.name, .params record⟩]) := by
  obtain ⟨answer, item, ran, offers, restates⟩ := reaffirms record calls
  exact expandRecord_eq_ok_iff.mpr
    ⟨[item], SegmentWith.generate_eq_ok_iff.mpr ⟨function, answer, generates, ran, offers, rfl⟩,
      SegmentWith.merge_restated static declared shaped restates⟩

/-- A level with a generator that repeats the records hands them on, having called for each. -/
theorem expandLevel_restated (static : page.isDynamic = false)
    (generates : page.generator = some (.callable function)) (reaffirms : function.Reaffirms)
    (declared : WellDeclared chain) {records : List ParamRecord}
    (shaped : ∀ record ∈ records, ShapedBy chain record) (calls : List Call) :
    expandLevel overrun page (ownersOf chain) records calls
      = (.ok records,
          calls ++ records.map fun record => ⟨function.name, .params record⟩) := by
  induction records generalizing calls with
  | nil => simp [expandLevel]
  | cons record rest ih =>
    rw [List.forall_mem_cons] at shaped
    rw [expandLevel, expandRecord_restated static generates reaffirms declared shaped.1]
    simp [ih shaped.2]

end Expansion

open Expansion in
/-- A generator that repeats the record is invisible: wherever a segment that is not dynamic is
put into a chain, if its generator answers each record with one item that repeats some of its
bindings, however they are spelled, the result or the error of an expansion stays the same. The
generators below it must not answer by whether it was called. -/
theorem expand_restated (tasks : TaskLibrary) (above below : List (SegmentWith σ))
    (page : SegmentWith σ)
    (function : UserFunction) (policy : ExpansionPolicy ρ) (pathname : Option String)
    (fallbackShells : Bool) (concurrency : Value) (calls : List Call)
    (static : page.isDynamic = false) (generates : page.generator = some (.callable function))
    (reaffirms : function.Reaffirms)
    (unseen : ∀ segment ∈ below, AnswersBy (fun call => call.function ≠ function.name) segment) :
    (expand tasks (above ++ page :: below) policy pathname fallbackShells concurrency calls).1
      = (expand tasks (above ++ below) policy pathname fallbackShells concurrency calls).1 := by
  have alike : Alike (above ++ below) (above ++ page :: below) := by simp [Alike, static]
  rcases alike.expand_eq policy pathname fallbackShells concurrency with
    ⟨ended, early⟩ | ⟨runs, late⟩
  · rw [(early calls).1, (early calls).2]
  · rw [(late calls).1, (late calls).2]
    apply concluded_fst
    have within : Within (ShapedBy (above ++ below)) calls
        (expandChain (tasks.overrun concurrency) (ownersOf (above ++ below)) above [[]] calls) :=
      expandChain_within _
        (fun segment inAbove => merge_shapedBy (List.mem_append_left below inAbove))
        (List.forall_mem_singleton.mpr (shapedBy_nil _)) calls
    -- The runs are the same down to the new segment. That hands the records on, and the calls
    -- that it adds to the log are hidden from all that is below.
    rcases expandChain_append_cases (tasks.overrun concurrency) (ownersOf (above ++ below)) above
        [[]] calls with
      ⟨raised, log, -, failed⟩ | ⟨reached, log, first, whole⟩
    · rw [failed, failed]
    · rw [whole, whole, expandChain_cons_of_generator generates]
      have shaped := within.records reached (congrArg Prod.fst first)
      rw [expandLevel_restated static generates reaffirms runs.declared shaped]
      refine (expandChain_agreesOn unseen _ _ reached ?_).outcome
      simp [List.filter_append]

open Expansion in
theorem expand_restated_absent :
    let rest : SegmentWith Unit :=
      { name := "[[...rest]]", role := .dynamic (some ⟨"rest", .optionalCatchAll⟩)
        generator := some (.callable ⟨"rest", fun _ _ => .ok (.list
          [.mapping [], .mapping [(.text "rest", .tuple [.text "a", .text "b"])]])⟩) }
    let spell : ParamValue → Value := fun value => match value with
      | .text content => .text content
      | .parts parts => .list (parts.map .text)
      | .absent => .tuple []
    let layout : SegmentWith Unit :=
      { name := "layout"
        generator := some (.callable ⟨"layout", fun _ arguments => match arguments with
          | .params record =>
            .ok (.list [.mapping (record.map fun (name, value) => (.text name, spell value))])
          | .locales _ _ => .ok .none⟩) }
    let page : SegmentWith Unit :=
      { name := "[page]", role := .dynamic (some ⟨"page", .single⟩)
        generator := some (.callable ⟨"pages", fun _ _ => .ok (.tuple
          [.mapping [(.text "page", .text "index")]])⟩) }
    (expand .standard [rest, layout, page] ⟨.static, (), true⟩ none false (.number (.int 8)) []).1
      = .ok
          { paths := [[("rest", .absent), ("page", .text "index")],
              [("rest", .parts ["a", "b"]), ("page", .text "index")]]
            fallback := .blocking, revalidate := (), pathnames := [] } := by
  intro rest spell layout page
  have ran : (expand .standard [rest, page] ⟨.static, (), true⟩ none false (.number (.int 8)) []).1
      = .ok
          { paths := [[("rest", .absent), ("page", .text "index")],
              [("rest", .parts ["a", "b"]), ("page", .text "index")]]
            fallback := .blocking, revalidate := (), pathnames := [] } := by decide +kernel
  refine (expand_restated .standard [rest] [page] layout _ _ none false (.number (.int 8)) []
    rfl rfl ?_ ?_).trans ran
  · intro record calls
    refine ⟨_, .ok _, rfl, .list rfl, _, rfl, ?_⟩
    intro entry member
    obtain ⟨⟨name, value⟩, bound, rfl⟩ := List.mem_map.mp member
    refine ⟨name, value, bound, rfl, ?_⟩
    cases value with
    | text content => exact .text content
    | parts parts => exact .list parts
    | absent => exact .emptyTuple
  · intro segment below function called record calls
    cases List.mem_singleton.mp below
    cases called
    rfl

end Prerender
