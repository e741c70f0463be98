import Prerender.Pathname.Unchecked
import Prerender.Proofs.Expansion.Merge
import Prerender.Proofs.PagePaths.Entries
import Prerender.Proofs.Pathname.FilledIn

/-!
# Values of a mapping entry

A mapping entry gives values of any shape. Each of them is accepted as a generated one is
(`readParam_eq_ok_iff`), and where they are read as a record (`ReadAs`), nothing is left of their
shapes: that record is what the entry amounts to (`ReadAs.readParams_eq`), and what is filled in
from the values is filled in from it (`ReadAs.interpolateUnchecked_eq`).
-/

namespace Prerender

/-! ### One value -/

theorem Value.eq_list_or_eq_tuple {given : Value} {texts : List String}
    (spelled : given.sequence?.bind Value.texts? = some texts) :
    given = .list (texts.map .text) ∨ given = .tuple (texts.map .text) := by
  obtain ⟨items, isSequence, read⟩ := Option.bind_eq_some_iff.mp spelled
  obtain rfl := Value.texts?_eq_some_iff.mp read
  exact Value.sequence?_eq_some_iff.mp isSequence

namespace Reading

variable {kind : ParamKind} {given : Value} {value : ParamValue}

/-- What is read as a value is filled in as that. -/
theorem encodeUnchecked_eq (reading : Reading kind (some given) value) :
    Pathname.encodeUnchecked given = .ok (Pathname.encodeValue value) := by
  cases reading with
  | text content => rfl
  | @parts _ _ part parts many spelled =>
    have written := Pathname.encodeUnchecked_toValue (.parts (part :: parts))
    obtain rfl | rfl := Value.eq_list_or_eq_tuple spelled
    · exact written
    · exact written
  | nothing => rfl
  | empty spelled => obtain rfl | rfl := Value.eq_list_or_eq_tuple spelled <;> rfl

theorem afterReading_eq (reading : Reading kind (some given) value) :
    given.afterReading = given := by
  cases reading with
  | text content => rfl
  | parts many spelled => obtain rfl | rfl := Value.eq_list_or_eq_tuple spelled <;> rfl
  | nothing => rfl
  | empty spelled => obtain rfl | rfl := Value.eq_list_or_eq_tuple spelled <;> rfl

end Reading

namespace PagePaths

theorem readParts_eq_ok_iff {page : ListedPage} {param : SegmentParam} {given : Value}
    {value : ParamValue} :
    readParam.readParts page param given = .ok value
      ↔ (∃ part parts, given.sequence?.bind Value.texts? = some (part :: parts)
            ∧ value = .parts (part :: parts))
          ∨ param.kind = .optionalCatchAll ∧ given.sequence?.bind Value.texts? = some []
            ∧ value = .absent := by
  unfold readParam.readParts
  cases given.sequence?.bind Value.texts? with
  | none => simp
  | some texts =>
    cases texts with
    | nil =>
      by_cases optional : param.kind = .optionalCatchAll
      · simp [optional, eq_comm]
      · simp [optional]
    | cons part parts => simp [eq_comm]

theorem readParam_eq_readParts {page : ListedPage} {param : SegmentParam} {given : Value}
    (many : param.kind ≠ .single) (something : given ≠ .none) :
    readParam page param (some given) = readParam.readParts page param given := by
  obtain ⟨name, kind⟩ := param
  cases kind with
  | single => exact absurd rfl many
  | catchAll => rfl
  | optionalCatchAll => cases given <;> first | exact absurd rfl something | rfl

/-- An entry's value is accepted as a generated one is. -/
theorem readParam_eq_ok_iff {page : ListedPage} {param : SegmentParam} {given : Option Value}
    {value : ParamValue} :
    readParam page param given = .ok value ↔ Reading param.kind given value := by
  obtain ⟨name, kind⟩ := param
  constructor
  · intro ok
    rcases given with _ | given
    · cases kind <;> cases ok
      exact .missing
    by_cases single : kind = .single
    · subst single
      cases given <;> cases ok
      exact .text _
    by_cases nothing : given = .none
    · subst nothing
      cases kind <;> cases ok
      exact .nothing
    rw [readParam_eq_readParts single nothing] at ok
    rcases readParts_eq_ok_iff.mp ok with ⟨part, parts, spelled, rfl⟩ | ⟨optional, spelled, rfl⟩
    · exact .parts single spelled
    · cases optional
      exact .empty spelled
  · intro reading
    cases reading with
    | text content => rfl
    | parts many spelled =>
      rw [readParam_eq_readParts many (by rintro rfl; cases spelled)]
      exact readParts_eq_ok_iff.mpr (Or.inl ⟨_, _, spelled, rfl⟩)
    | missing => rfl
    | nothing => rfl
    | empty spelled =>
      rw [readParam_eq_readParts (by rintro ⟨⟩) (by rintro rfl; cases spelled)]
      exact readParts_eq_ok_iff.mpr (Or.inr ⟨rfl, spelled, rfl⟩)

/-! ### All values -/

/-- Values of any shape are read as a record: under the name of each parameter stands what is read
as the value that the record has for it. -/
def ReadAs (values : Bindings Value) (record : ParamRecord) (params : List SegmentParam) : Prop :=
  ∀ param ∈ params, ∃ given value, values.lookup? param.name = some given
    ∧ record.lookup? param.name = some value ∧ Reading param.kind (some given) value

namespace ReadAs

variable {values : Bindings Value} {record : ParamRecord}

/-- An entry with values that are read as a record amounts to that, cut down to the parameters. -/
theorem readParams_eq {entries : Entries} {params : List SegmentParam}
    (readAs : ReadAs entries.named record params) (page : ListedPage) {before : ParamRecord}
    (distinct : (before.names ++ params.map (·.name)).Nodup) :
    readParams page (.ok entries) before params
      = .ok (before ++ record.restrictTo (params.map (·.name))) := by
  induction params generalizing before with
  | nil => exact congrArg Except.ok (List.append_nil before).symm
  | cons param rest ih =>
    obtain ⟨⟨given, value, stands, found, reading⟩, readBehind⟩ := List.forall_mem_cons.mp readAs
    rw [List.map_cons] at distinct ⊢
    have unbound : param.name ∉ before.names := fun bound =>
      (List.nodup_append.mp distinct).2.2 _ bound _ List.mem_cons_self rfl
    have distinctBehind : ((before ++ [(param.name, value)]).names ++ rest.map (·.name)).Nodup := by
      simpa [Bindings.names] using distinct
    have readOn : before ++ record.restrictTo (param.name :: rest.map (·.name))
        = before ++ [(param.name, value)] ++ record.restrictTo (rest.map (·.name)) := by
      simp [ParamRecord.restrictTo, found]
    rw [readOn, ← ih readBehind distinctBehind, ← Bindings.assign_eq_append unbound value]
    simp only [readParams, bind, Except.bind, stands, readParam_eq_ok_iff.mpr reading]

theorem fillUnchecked_eq {components : List Pathname.Component}
    (readAs : ReadAs values record (Pathname.placeholders components)) :
    Pathname.fillUnchecked values components
      = .ok (components.flatMap (Pathname.Component.encoded record)) := by
  induction components with
  | nil => rfl
  | cons component rest ih =>
    cases component with
    | literal text =>
      rw [Pathname.fillUnchecked, ih readAs]
      rfl
    | placeholder param =>
      obtain ⟨⟨given, value, stands, found, reading⟩, readBehind⟩ :=
        List.forall_mem_cons.mp readAs
      rw [Pathname.fillUnchecked, stands]
      simp only [reading.encodeUnchecked_eq, reading.afterReading_eq,
        Bindings.assign_eq_self stands, ih readBehind, List.flatMap_cons,
        Pathname.Component.encoded, found]
      rfl

/-- What is filled in from values that are read as a record is filled in from that. -/
theorem interpolateUnchecked_eq {pathname : String}
    (readAs : ReadAs values record (Pathname.placeholders (Pathname.pattern pathname))) :
    Pathname.interpolateUnchecked pathname values = .ok (Pathname.fillIn pathname record) := by
  rw [Pathname.interpolateUnchecked, readAs.fillUnchecked_eq]
  rfl

end ReadAs

end PagePaths

end Prerender
