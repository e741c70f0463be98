import Prerender.Pathname

/-!
# Parameters, their values and records

What statements on parameters and records speak of:

* `SegmentParam.parseAs?_eq_some_iff`: which components declare a parameter; all of them stand in
  brackets (`isBracketed_of_parse?`), and `SegmentParam.Readable` says that what stands in brackets
  does;
* `ParamValue.Fits`: the shape that a value has by the kind of its parameter;
* `ParamRecord.restrictTo`: a record cut down to some names, said through `lookup?`
  (`lookup?_restrictTo`).
-/

namespace Prerender

/-! ### Components that declare a parameter -/

namespace SegmentParam

theorem isWord_newline : Text.isWord '\n' = false := by
  decide +kernel

/-- A component declares a parameter of some kind if it is a name in the brackets of that kind. -/
theorem parseAs?_eq_some_iff {kind : ParamKind} {component : String} {param : SegmentParam} :
    parseAs? kind component = some param
      ↔ param.kind = kind ∧ ∃ inner, paramName? inner = some param.name
          ∧ Text.dropFinalNewline component.toList
            = (brackets kind).1 ++ inner ++ (brackets kind).2 := by
  obtain ⟨name, paramKind⟩ := param
  simp only [parseAs?, bind, Option.bind_eq_some_iff, Text.between?_eq_some_iff, pure,
    Option.some.injEq, SegmentParam.mk.injEq]
  constructor
  · rintro ⟨inner, stands, _, named, rfl, rfl⟩
    exact ⟨rfl, inner, named, stands⟩
  · rintro ⟨rfl, inner, named, stands⟩
    exact ⟨inner, stands, name, named, rfl, rfl⟩

theorem newline_not_mem_of_paramName? {inner : List Char} {name : String}
    (named : paramName? inner = some name) : '\n' ∉ inner := by
  unfold paramName? at named
  split at named
  · next isName =>
    intro newline
    have isWord := List.all_eq_true.mp isName.2 '\n' newline
    rw [isWord_newline] at isWord
    cases isWord
  · cases named

/-- Whatever declares a parameter stands in brackets. -/
theorem isBracketed_of_parse? {component : String} {param : SegmentParam}
    (declares : parse? component = some param) : isBracketed component = true := by
  have bracketed : ∀ {inner : List Char}, '\n' ∉ inner →
      Text.dropFinalNewline component.toList = ['['] ++ inner ++ [']'] →
        isBracketed component = true := by
    intro inner oneLine stands
    rw [isBracketed, Text.between?_eq_some_iff.mpr stands]
    simpa using oneLine
  obtain ⟨kind, declares⟩ : ∃ kind, parseAs? kind component = some param := by
    simp only [parse?, Option.orElse_eq_orElse, Option.orElse_eq_or, Option.or_eq_some_iff]
      at declares
    rcases declares with optional | ⟨-, many | ⟨-, single⟩⟩
    · exact ⟨_, optional⟩
    · exact ⟨_, many⟩
    · exact ⟨_, single⟩
  obtain ⟨-, inner, named, stands⟩ := parseAs?_eq_some_iff.mp declares
  have oneLine := newline_not_mem_of_paramName? named
  cases kind with
  | single => exact bracketed oneLine stands
  | catchAll =>
    have oneLine : '\n' ∉ ['.', '.', '.'] ++ inner := by simpa using oneLine
    exact bracketed oneLine stands
  | optionalCatchAll =>
    have oneLine : '\n' ∉ ['[', '.', '.', '.'] ++ inner ++ [']'] := by simpa using oneLine
    exact bracketed oneLine (stands.trans (by simp [brackets]))

theorem parse?_eq_none {component : String} (literal : ¬isBracketed component = true) :
    parse? component = none := by
  cases declares : parse? component with
  | none => rfl
  | some param => exact absurd (isBracketed_of_parse? declares) literal

theorem parse?_empty : parse? "" = none := by
  decide

/-- A component can be read: brackets around it declare a parameter. -/
def Readable (component : String) : Prop :=
  isBracketed component = true → ∃ param, parse? component = some param

end SegmentParam

/-! ### Shapes of values -/

/-- A value has the shape that the kind of its parameter asks for: one text, one component or
more, or, for an optional catch-all, possibly nothing. -/
def ParamValue.Fits (value : ParamValue) (kind : ParamKind) : Prop :=
  match kind, value with
  | .single, .text _ => True
  | .catchAll, .parts components => components ≠ []
  | .optionalCatchAll, .parts components => components ≠ []
  | .optionalCatchAll, .absent => True
  | _, _ => False

instance (value : ParamValue) (kind : ParamKind) : Decidable (value.Fits kind) :=
  match kind, value with
  | .single, .text _ => .isTrue trivial
  | .single, .parts _ => .isFalse id
  | .single, .absent => .isFalse id
  | .catchAll, .text _ => .isFalse id
  | .catchAll, .parts components => inferInstanceAs (Decidable (components ≠ []))
  | .catchAll, .absent => .isFalse id
  | .optionalCatchAll, .text _ => .isFalse id
  | .optionalCatchAll, .parts components => inferInstanceAs (Decidable (components ≠ []))
  | .optionalCatchAll, .absent => .isTrue trivial

namespace ParamValue

/-- The texts that a value consists of. -/
def texts : ParamValue → List String
  | .text content => [content]
  | .parts components => components
  | .absent => []

theorem eq_text_of_fits {value : ParamValue} (fits : value.Fits .single) :
    ∃ content, value = .text content := by
  cases value with
  | text content => exact ⟨content, rfl⟩
  | parts components => exact fits.elim
  | absent => exact fits.elim

/-- Only an optional catch-all may be given nothing. -/
theorem texts_ne_nil_of_fits {value : ParamValue} {kind : ParamKind} (fits : value.Fits kind)
    (required : kind ≠ .optionalCatchAll) : value.texts ≠ [] := by
  cases kind with
  | single =>
    obtain ⟨content, rfl⟩ := eq_text_of_fits fits
    exact List.cons_ne_nil _ _
  | catchAll =>
    cases value with
    | text content => exact fits.elim
    | parts components => exact fits
    | absent => exact fits.elim
  | optionalCatchAll => exact absurd rfl required

/-- The value of a catch-all of either kind is given back by its components. -/
theorem parts_ne_nil_of_fits {parts : List String} {kind : ParamKind}
    (fits : (ParamValue.parts parts).Fits kind) : parts ≠ [] := by
  cases kind with
  | single => exact fits.elim
  | catchAll => exact fits
  | optionalCatchAll => exact fits

theorem optionalCatchAll_of_fits_absent {kind : ParamKind} (fits : ParamValue.absent.Fits kind) :
    kind = .optionalCatchAll := by
  cases kind with
  | single => exact fits.elim
  | catchAll => exact fits.elim
  | optionalCatchAll => rfl

theorem capturedParts_texts {value : ParamValue} {kind : ParamKind} (fits : value.Fits kind)
    (many : kind ≠ .single) : Pathname.capturedParts value.texts = value := by
  cases value with
  | text content =>
    cases kind with
    | single => exact absurd rfl many
    | catchAll => exact fits.elim
    | optionalCatchAll => exact fits.elim
  | parts components =>
    have some : components ≠ [] := by
      cases kind with
      | single => exact fits.elim
      | catchAll => exact fits
      | optionalCatchAll => exact fits
    cases components with
    | nil => exact absurd rfl some
    | cons first rest => rfl
  | absent => rfl

end ParamValue

/-! ### Records cut down -/

namespace ParamRecord

/-- What a record binds the given names to, in the order of the names. -/
def restrictTo (record : ParamRecord) (names : List String) : ParamRecord :=
  names.filterMap fun name => (record.lookup? name).map (name, ·)

theorem lookup?_restrictTo (record : ParamRecord) (names : List String) (name : String) :
    (record.restrictTo names).lookup? name
      = if name ∈ names then record.lookup? name else none := by
  induction names with
  | nil => rfl
  | cons first rest ih =>
    by_cases same : first = name
    · subst same
      cases found : record.lookup? first with
      | none =>
        have later : (record.restrictTo rest).lookup? first = none := by
          rw [ih, found]
          exact ite_self none
        simpa [restrictTo, found] using later
      | some value => simp [restrictTo, found, Bindings.lookup?]
    · have later : (record.restrictTo (first :: rest)).lookup? name
          = (record.restrictTo rest).lookup? name := by
        cases found : record.lookup? first <;>
          simp [restrictTo, found, Bindings.lookup?, same]
      rw [later, ih]
      simp [Ne.symm same]

/-- A record that binds all of the names binds each of them once they are cut out. -/
theorem names_restrictTo {record : ParamRecord} {names : List String}
    (bound : ∀ name ∈ names, record.binds name = true) :
    (record.restrictTo names).names = names := by
  induction names with
  | nil => rfl
  | cons first rest ih =>
    obtain ⟨value, found⟩ := Option.isSome_iff_exists.mp (bound first List.mem_cons_self)
    have later := ih fun name member => bound name (List.mem_cons_of_mem first member)
    have split : record.restrictTo (first :: rest) = (first, value) :: record.restrictTo rest := by
      simp [restrictTo, found]
    rw [split, Bindings.names_cons, later]

end ParamRecord

end Prerender
