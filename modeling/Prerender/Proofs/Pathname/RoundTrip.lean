import Mathlib.Data.List.Basic
import Prerender.Proofs.Param
import Prerender.Proofs.Pathname.Components

/-!
# Matching undoes interpolation

`captures?_interpolate`: a pathname with at most one catch-all gives every URL path filled in from
it back to the values that it was filled in with.

Both directions meet in the texts that a component spells (`Component.spelled`). Filling in
encodes them one by one (`fillAll_eq_encoded`), and reading a URL path against the pathname takes
them up again (`capture_spelled`): behind the only catch-all, each component of the pathname
spells a single text, so that counting from the end finds where the catch-all stops.
-/

namespace Prerender

namespace Pathname

/-- The parameters that components of a pathname stand for, in order. -/
def placeholders (components : List Component) : List SegmentParam :=
  components.filterMap fun
    | .literal _ => none
    | .placeholder param => some param

@[simp] theorem placeholders_nil : placeholders [] = [] := rfl

@[simp] theorem placeholders_literal (text : String) (rest : List Component) :
    placeholders (.literal text :: rest) = placeholders rest := rfl

@[simp] theorem placeholders_placeholder (param : SegmentParam) (rest : List Component) :
    placeholders (.placeholder param :: rest) = param :: placeholders rest := rfl

/-- The texts that a component spells under values of the parameters, one for each component of
the URL path. -/
def Component.spelled (params : ParamRecord) : Component → List String
  | .literal text => [text]
  | .placeholder param =>
    match params.lookup? param.name with
    | some value => value.texts
    | none => []

theorem Component.spelled_placeholder {params : ParamRecord} {param : SegmentParam}
    {value : ParamValue} (found : params.lookup? param.name = some value) :
    Component.spelled params (.placeholder param) = value.texts := by
  rw [Component.spelled, found]

/-- A component as it stands in a URL path: a literal one as it is, values encoded. -/
def Component.encoded (params : ParamRecord) : Component → List String
  | .literal text => [text]
  | .placeholder param =>
    match params.lookup? param.name with
    | some value => encodeValue value
    | none => []

/-! ### Filling in -/

theorem encodeValue_eq_map_texts (value : ParamValue) :
    encodeValue value = value.texts.map encodeComponent := by
  cases value <;> rfl

/-- Filling in succeeds if every parameter has a value. -/
theorem fillAll_eq_encoded {params : ParamRecord} {components : List Component}
    (bound : ∀ param ∈ placeholders components, (params.lookup? param.name).isSome) :
    fillAll params components = .ok (components.flatMap (Component.encoded params)) := by
  induction components with
  | nil => rfl
  | cons component rest ih =>
    cases component with
    | literal text =>
      rw [placeholders_literal] at bound
      rw [fillAll, Component.fill, ih bound]
      rfl
    | placeholder param =>
      rw [placeholders_placeholder] at bound
      obtain ⟨value, found⟩ := Option.isSome_iff_exists.mp (bound param List.mem_cons_self)
      have behind := ih fun other member => bound other (List.mem_cons_of_mem param member)
      rw [fillAll, Component.fill, found, behind, List.flatMap_cons, Component.encoded, found]
      rfl

instance (components : List Component) :
    Decidable (∀ text, .literal text ∈ components → decodeComponent text = text) :=
  decidable_of_iff
    (∀ component ∈ components, (match component with
      | .literal text => decide (decodeComponent text = text)
      | .placeholder _ => true) = true)
    ⟨fun all text member => of_decide_eq_true (all _ member), fun literals component member => by
      cases component with
      | literal text => exact decide_eq_true (literals text member)
      | placeholder param => rfl⟩

/-- The components of a filled in URL path spell, decoded, what those of the pathname do. -/
theorem map_decodeComponent_encoded {params : ParamRecord} {components : List Component}
    (literals : ∀ text, .literal text ∈ components → decodeComponent text = text) :
    (components.flatMap (Component.encoded params)).map decodeComponent
      = components.flatMap (Component.spelled params) := by
  rw [List.map_flatMap]
  apply List.flatMap_congr
  intro component member
  cases component with
  | literal text =>
    rw [Component.encoded, Component.spelled, List.map_singleton, literals text member]
  | placeholder param =>
    simp only [Component.encoded, Component.spelled]
    cases params.lookup? param.name with
    | none => rfl
    | some value =>
      simp only [encodeValue_eq_map_texts, List.map_map, Function.comp_def,
        decodeComponent_encodeComponent, List.map_id']

/-! ### Reading back -/

theorem capture_single {param : SegmentParam} (single : param.kind = .single)
    (rest : List Component) (text : String) (behind : List String) (record : ParamRecord) :
    capture (.placeholder param :: rest) (text :: behind) record
      = capture rest behind (record.assign param.name (.text text)) := by
  rw [capture]
  exact single

/-- A catch-all takes what is too much for the components behind it. -/
theorem capture_many {param : SegmentParam} (many : param.kind ≠ .single)
    (rest : List Component) {taken behind : List String} (record : ParamRecord)
    (fits : behind.length = rest.length) (enough : param.kind = .catchAll → taken ≠ []) :
    capture (.placeholder param :: rest) (taken ++ behind) record
      = capture rest behind (record.assign param.name (capturedParts taken)) := by
  have takes : (taken ++ behind).length - rest.length = taken.length := by
    rw [List.length_append]
    omega
  have covers : ¬ (taken ++ behind).length
      < if param.kind = .catchAll then rest.length + 1 else rest.length := by
    rw [List.length_append]
    split
    · next required =>
      have := List.length_pos_iff.mpr (enough required)
      omega
    · omega
  rw [capture]
  · simp only [if_neg covers, takes, List.drop_left, List.take_left]
  · exact fun single _ => many single
  · exact fun _ _ single _ => many single

/-- Values suit a pathname if each of its parameters has one of its kind. -/
def Suits (params : ParamRecord) (components : List Component) : Prop :=
  ∀ param ∈ placeholders components, ∃ value,
    params.lookup? param.name = some value ∧ value.Fits param.kind

theorem Suits.rest {params : ParamRecord} {component : Component} {rest : List Component}
    (suits : Suits params (component :: rest)) : Suits params rest := by
  intro param member
  cases component with
  | literal text => exact suits param member
  | placeholder other => exact suits param (List.mem_cons_of_mem other member)

theorem Suits.bound {params : ParamRecord} {components : List Component}
    (suits : Suits params components) :
    ∀ param ∈ placeholders components, (params.lookup? param.name).isSome := by
  intro param member
  obtain ⟨value, found, -⟩ := suits param member
  rw [found]
  rfl

/-- Values fill a pathname if each of its parameters has one of its kind, of texts that are not
empty. -/
def Fills (params : ParamRecord) (components : List Component) : Prop :=
  ∀ param ∈ placeholders components, ∃ value,
    params.lookup? param.name = some value ∧ value.Fits param.kind ∧ ∀ text ∈ value.texts, text ≠ ""

instance (params : ParamRecord) (components : List Component) :
    Decidable (Fills params components) :=
  decidable_of_iff
    (∀ param ∈ placeholders components, ((params.lookup? param.name).any fun value =>
      decide (value.Fits param.kind ∧ ∀ text ∈ value.texts, text ≠ "")) = true)
    (forall₂_congr fun param _ => by cases params.lookup? param.name <;> simp)

theorem Fills.rest {params : ParamRecord} {component : Component} {rest : List Component}
    (fills : Fills params (component :: rest)) : Fills params rest := by
  intro param member
  cases component with
  | literal text => exact fills param member
  | placeholder other => exact fills param (List.mem_cons_of_mem other member)

theorem Fills.suits {params : ParamRecord} {components : List Component}
    (fills : Fills params components) : Suits params components := by
  intro param member
  obtain ⟨value, found, fits, -⟩ := fills param member
  exact ⟨value, found, fits⟩

/-- Where no parameter is a catch-all, each component of the pathname spells one text. -/
theorem length_spelled {params : ParamRecord} {components : List Component}
    (suits : Suits params components)
    (singles : (placeholders components).filter (·.isCatchAll) = []) :
    (components.flatMap (Component.spelled params)).length = components.length := by
  induction components with
  | nil => rfl
  | cons component rest ih =>
    have one : (component.spelled params).length = 1 := by
      cases component with
      | literal text => rfl
      | placeholder param =>
        obtain ⟨value, found, fits⟩ := suits param List.mem_cons_self
        have single : param.kind = .single := by
          have := List.filter_eq_nil_iff.mp singles param List.mem_cons_self
          simpa [SegmentParam.isCatchAll] using this
        obtain ⟨content, rfl⟩ := ParamValue.eq_text_of_fits (single ▸ fits)
        exact congrArg List.length (Component.spelled_placeholder found)
    have singlesBehind : (placeholders rest).filter (·.isCatchAll) = [] := by
      rw [List.filter_eq_nil_iff] at singles ⊢
      intro param member
      cases component with
      | literal text => exact singles param member
      | placeholder other => exact singles param (List.mem_cons_of_mem other member)
    rw [List.flatMap_cons, List.length_append, one, ih suits.rest singlesBehind, List.length_cons,
      Nat.add_comm]

/-- The texts that a pathname spells are read back as the values of its parameters, in order. -/
theorem capture_spelled_of_suits {params record : ParamRecord} {components : List Component}
    (suits : Suits params components)
    (one : ((placeholders components).filter (·.isCatchAll)).length ≤ 1)
    (distinct : (record.names ++ (placeholders components).map (·.name)).Nodup) :
    capture components (components.flatMap (Component.spelled params)) record
      = some (record ++ params.restrictTo ((placeholders components).map (·.name))) := by
  induction components generalizing record with
  | nil =>
    rw [List.flatMap_nil, capture]
    exact congrArg some (List.append_nil record).symm
  | cons component rest ih =>
    cases component with
    | literal text =>
      rw [placeholders_literal] at one distinct ⊢
      rw [List.flatMap_cons, Component.spelled, List.singleton_append, capture, if_pos rfl]
      exact ih suits.rest one distinct
    | placeholder param =>
      obtain ⟨value, found, fits⟩ := suits param List.mem_cons_self
      rw [placeholders_placeholder] at one distinct ⊢
      rw [List.map_cons] at distinct ⊢
      have unbound : param.name ∉ record.names := fun bound =>
        (List.nodup_append.mp distinct).2.2 _ bound _ List.mem_cons_self rfl
      have assigned := Bindings.assign_eq_append unbound value
      have distinctBehind : ((record ++ [(param.name, value)]).names
          ++ (placeholders rest).map (·.name)).Nodup := by
        simpa [Bindings.names] using distinct
      have readOn : record ++ params.restrictTo (param.name :: (placeholders rest).map (·.name))
          = record ++ [(param.name, value)]
            ++ params.restrictTo ((placeholders rest).map (·.name)) := by
        simp [ParamRecord.restrictTo, found]
      rw [List.flatMap_cons, Component.spelled_placeholder found, readOn]
      by_cases single : param.kind = .single
      · obtain ⟨content, rfl⟩ := ParamValue.eq_text_of_fits (single ▸ fits)
        have oneBehind : ((placeholders rest).filter (·.isCatchAll)).length ≤ 1 := by
          rw [List.filter_cons] at one
          split at one
          · exact Nat.le_of_succ_le one
          · exact one
        rw [ParamValue.texts, List.singleton_append, capture_single single, assigned]
        exact ih suits.rest oneBehind distinctBehind
      · have noneBehind : (placeholders rest).filter (·.isCatchAll) = [] := by
          rw [List.filter_cons_of_pos (by simpa [SegmentParam.isCatchAll] using single)] at one
          exact List.length_eq_zero_iff.mp (Nat.le_zero.mp (Nat.le_of_succ_le_succ one))
        have enough : param.kind = .catchAll → value.texts ≠ [] := fun required =>
          ParamValue.texts_ne_nil_of_fits fits (by rw [required]; decide)
        rw [capture_many single rest record (length_spelled suits.rest noneBehind) enough,
          ParamValue.capturedParts_texts fits single, assigned]
        exact ih suits.rest (by rw [noneBehind]; exact Nat.zero_le 1) distinctBehind

theorem capture_spelled {params record : ParamRecord} {components : List Component}
    (fills : Fills params components)
    (one : ((placeholders components).filter (·.isCatchAll)).length ≤ 1)
    (distinct : (record.names ++ (placeholders components).map (·.name)).Nodup) :
    capture components (components.flatMap (Component.spelled params)) record
      = some (record ++ params.restrictTo ((placeholders components).map (·.name))) :=
  capture_spelled_of_suits fills.suits one distinct

/-! ### The round trip -/

theorem isComponent_of_literal_mem_pattern {pathname text : String}
    (member : .literal text ∈ pattern pathname) : IsComponent text := by
  obtain ⟨component, inPathname, read⟩ := List.mem_map.mp member
  have same : component = text := by
    unfold Component.ofText at read
    split at read
    · cases read
    · exact Component.literal.inj read
  exact same ▸ isComponent_of_mem_components inPathname

/-- What stands in a filled in URL path are components. -/
theorem isComponent_of_mem_encoded {pathname : String} {params : ParamRecord}
    (fills : Fills params (pattern pathname)) {text : String}
    (member : text ∈ (pattern pathname).flatMap (Component.encoded params)) :
    IsComponent text := by
  obtain ⟨component, inPattern, encoded⟩ := List.mem_flatMap.mp member
  cases component with
  | literal literal =>
    rw [Component.encoded, List.mem_singleton] at encoded
    exact encoded ▸ isComponent_of_literal_mem_pattern inPattern
  | placeholder param =>
    have isParam : param ∈ placeholders (pattern pathname) :=
      List.mem_filterMap.mpr ⟨_, inPattern, rfl⟩
    obtain ⟨value, found, -, filled⟩ := fills param isParam
    simp only [Component.encoded, found, encodeValue_eq_map_texts] at encoded
    obtain ⟨given, inValue, rfl⟩ := List.mem_map.mp encoded
    exact isComponent_encodeComponent (filled given inValue)

/-- A pathname with at most one catch-all reads every URL path that was filled in from it as the
values that it was filled in with: those of its parameters, in order, and no others. -/
theorem captures?_interpolate (pathname : String) (params : ParamRecord)
    (distinct : ((placeholders (pattern pathname)).map (·.name)).Nodup)
    (one : ((placeholders (pattern pathname)).filter (·.isCatchAll)).length ≤ 1)
    (literals : ∀ text, .literal text ∈ pattern pathname → decodeComponent text = text)
    (fills : Fills params (pattern pathname)) :
    ∃ url captured, interpolate pathname params = .ok url
      ∧ captures? pathname url = some captured
      ∧ captured.names = (placeholders (pattern pathname)).map (·.name)
      ∧ ∀ name, captured.lookup? name
          = if name ∈ (placeholders (pattern pathname)).map (·.name) then params.lookup? name
            else none := by
  have bound : ∀ param ∈ placeholders (pattern pathname), (params.lookup? param.name).isSome := by
    intro param member
    obtain ⟨value, found, -⟩ := fills param member
    rw [found]
    rfl
  have filled := fillAll_eq_encoded bound
  have components := components_joinSlashes fun _ => isComponent_of_mem_encoded fills
  refine ⟨joinSlashes ((pattern pathname).flatMap (Component.encoded params)),
    params.restrictTo ((placeholders (pattern pathname)).map (·.name)), ?_, ?_, ?_, ?_⟩
  · rw [interpolate, filled]
    rfl
  · rw [captures?, components, map_decodeComponent_encoded literals]
    exact capture_spelled fills one distinct
  · apply ParamRecord.names_restrictTo
    intro name member
    obtain ⟨param, isParam, rfl⟩ := List.mem_map.mp member
    exact bound param isParam
  · exact ParamRecord.lookup?_restrictTo params _

theorem captures?_interpolate_between_literals :
    ∃ url captured,
      interpolate "/docs/[...path]/at/[day]"
          [("day", .text "100%"), ("path", .parts ["a/b", "[é]"]), ("other", .absent)] = .ok url
        ∧ captures? "/docs/[...path]/at/[day]" url = some captured
        ∧ captured.lookup? "path" = some (.parts ["a/b", "[é]"])
        ∧ captured.lookup? "day" = some (.text "100%")
        ∧ captured.lookup? "other" = none := by
  have read : pattern "/docs/[...path]/at/[day]"
      = [.literal "docs", .placeholder ⟨"path", .catchAll⟩, .literal "at",
          .placeholder ⟨"day", .single⟩] := by decide +kernel
  obtain ⟨url, captured, filled, matched, -, bound⟩ :=
    captures?_interpolate "/docs/[...path]/at/[day]"
      [("day", .text "100%"), ("path", .parts ["a/b", "[é]"]), ("other", .absent)]
      (by rw [read]; decide) (by rw [read]; decide)
      (by
        rw [read]
        intro text member
        simp only [List.mem_cons, Component.literal.injEq, reduceCtorEq, List.not_mem_nil, or_false,
          false_or] at member
        rcases member with rfl | rfl <;> decide +kernel)
      (by
        rw [read]
        intro param member
        simp only [placeholders_literal, placeholders_placeholder, placeholders_nil, List.mem_cons,
          List.not_mem_nil, or_false] at member
        rcases member with rfl | rfl
        · exact ⟨.parts ["a/b", "[é]"], rfl, List.cons_ne_nil _ _, by decide⟩
        · exact ⟨.text "100%", rfl, trivial, by decide⟩)
  rw [read] at bound
  exact ⟨url, captured, filled, matched, bound "path", bound "day", bound "other"⟩

end Pathname

end Prerender
