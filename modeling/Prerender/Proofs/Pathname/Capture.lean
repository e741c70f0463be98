import Prerender.Proofs.Pathname.FilledIn

/-!
# What is read off a URL path

`captures?_canonical`: whatever is read off a URL path gives each parameter of the pathname a value
of its kind, and filled in again it spells the same components as the URL path did, so that it is
read off once more. How the URL path writes them (repeated slashes, escapes that are not needed or
malformed) is lost.

A catch-all takes as many texts as leave one for each component behind it. That is all that
`capture_placeholder_eq_some_iff` has to know of the counting: each component of the pathname takes
texts from the front of those that are given, and none is left at the end (`spelled_of_capture`),
for any number of catch-alls.
-/

namespace Prerender

namespace Pathname

/-! ### One component -/

theorem texts_capturedParts (taken : List String) : (capturedParts taken).texts = taken := by
  cases taken <;> rfl

theorem fits_capturedParts {kind : ParamKind} (many : kind ≠ .single) {taken : List String}
    (enough : kind = .catchAll → taken ≠ []) : (capturedParts taken).Fits kind := by
  cases taken with
  | nil =>
    cases kind with
    | single => exact absurd rfl many
    | catchAll => exact absurd rfl (enough rfl)
    | optionalCatchAll => exact trivial
  | cons first others =>
    cases kind with
    | single => exact absurd rfl many
    | catchAll => exact List.cons_ne_nil _ _
    | optionalCatchAll => exact List.cons_ne_nil _ _

theorem capture_literal_eq_some_iff {text : String} {rest : List Component} {given : List String}
    {record captured : ParamRecord} :
    capture (.literal text :: rest) given record = some captured
      ↔ ∃ behind, given = text :: behind ∧ capture rest behind record = some captured := by
  cases given with
  | nil => simp [capture]
  | cons first behind =>
    rw [capture, Option.ite_none_right_eq_some]
    constructor
    · rintro ⟨rfl, matched⟩
      exact ⟨behind, rfl, matched⟩
    · rintro ⟨_, same, matched⟩
      cases same
      exact ⟨rfl, matched⟩

/-- A placeholder takes the texts of a value of its kind. If it is a catch-all, it leaves one text
to each component behind it. -/
theorem capture_placeholder_eq_some_iff {param : SegmentParam} {rest : List Component}
    {given : List String} {record captured : ParamRecord} :
    capture (.placeholder param :: rest) given record = some captured
      ↔ ∃ value behind, given = value.texts ++ behind ∧ value.Fits param.kind
          ∧ (param.kind ≠ .single → behind.length = rest.length)
          ∧ capture rest behind (record.assign param.name value) = some captured := by
  by_cases single : param.kind = .single
  · constructor
    · intro matched
      cases given with
      | nil =>
        rw [capture] at matched
        · cases matched
        · exact single
      | cons text behind =>
        rw [capture_single single] at matched
        exact ⟨.text text, behind, rfl, single ▸ trivial, absurd single, matched⟩
    · rintro ⟨value, behind, rfl, fits, -, matched⟩
      obtain ⟨content, rfl⟩ := ParamValue.eq_text_of_fits (single ▸ fits)
      rw [ParamValue.texts, List.singleton_append, capture_single single]
      exact matched
  · constructor
    · intro matched
      rw [capture] at matched
      · simp only [Option.ite_none_left_eq_some, Nat.not_lt] at matched
        obtain ⟨covers, matched⟩ := matched
        refine ⟨_, given.drop (given.length - rest.length), ?_, fits_capturedParts single ?_, ?_,
          matched⟩
        · rw [texts_capturedParts, List.take_append_drop]
        · intro required
          rw [if_pos required] at covers
          rw [← List.length_pos_iff, List.length_take]
          omega
        · intro _
          rw [List.length_drop]
          split at covers <;> omega
      · exact fun isSingle _ => single isSingle
      · exact fun _ _ isSingle _ => single isSingle
    · rintro ⟨value, behind, rfl, fits, leaves, matched⟩
      rw [capture_many single rest record (leaves single)
        fun required => ParamValue.texts_ne_nil_of_fits fits (by rw [required]; decide),
        ParamValue.capturedParts_texts fits single]
      exact matched

/-! ### All components -/

/-- Parameters of other components keep their values. -/
theorem lookup?_of_capture {components : List Component} {given : List String}
    {record captured : ParamRecord} (matched : capture components given record = some captured)
    {name : String} (other : name ∉ (placeholders components).map (·.name)) :
    captured.lookup? name = record.lookup? name := by
  induction components generalizing given record with
  | nil =>
    cases given with
    | nil =>
      cases matched
      rfl
    | cons _ _ => cases matched
  | cons component rest ih =>
    cases component with
    | literal text =>
      obtain ⟨behind, -, onward⟩ := capture_literal_eq_some_iff.mp matched
      exact ih onward other
    | placeholder param =>
      rw [placeholders_placeholder, List.map_cons, List.mem_cons, not_or] at other
      obtain ⟨value, behind, -, -, -, onward⟩ := capture_placeholder_eq_some_iff.mp matched
      rw [ih onward other.2, Bindings.lookup?_assign, if_neg (Ne.symm other.1)]

/-- The parameters are bound in the order of their components. -/
theorem names_of_capture {components : List Component} {given : List String}
    {record captured : ParamRecord} (matched : capture components given record = some captured)
    (distinct : (record.names ++ (placeholders components).map (·.name)).Nodup) :
    captured.names = record.names ++ (placeholders components).map (·.name) := by
  induction components generalizing given record with
  | nil =>
    cases given with
    | nil =>
      cases matched
      exact (List.append_nil _).symm
    | cons _ _ => cases matched
  | cons component rest ih =>
    cases component with
    | literal text =>
      obtain ⟨behind, -, onward⟩ := capture_literal_eq_some_iff.mp matched
      exact ih onward distinct
    | placeholder param =>
      obtain ⟨value, behind, -, -, -, onward⟩ := capture_placeholder_eq_some_iff.mp matched
      rw [placeholders_placeholder, List.map_cons] at distinct ⊢
      have unbound : param.name ∉ record.names := fun bound =>
        (List.nodup_append.mp distinct).2.2 _ bound _ List.mem_cons_self rfl
      have longer : (record.assign param.name value).names = record.names ++ [param.name] := by
        rw [Bindings.names_assign, if_neg unbound]
      have split : (record.assign param.name value).names ++ (placeholders rest).map (·.name)
          = record.names ++ param.name :: (placeholders rest).map (·.name) := by
        rw [longer, List.append_assoc, List.singleton_append]
      rw [ih onward (split ▸ distinct), split]

/-- No text is left out and none is taken twice: the components spell the texts that were given. -/
theorem spelled_of_capture {components : List Component} {given : List String}
    {record captured : ParamRecord} (matched : capture components given record = some captured)
    (distinct : ((placeholders components).map (·.name)).Nodup) :
    components.flatMap (Component.spelled captured) = given := by
  induction components generalizing given record with
  | nil =>
    cases given with
    | nil => rfl
    | cons _ _ => cases matched
  | cons component rest ih =>
    cases component with
    | literal text =>
      obtain ⟨behind, rfl, onward⟩ := capture_literal_eq_some_iff.mp matched
      rw [List.flatMap_cons, Component.spelled, ih onward distinct, List.singleton_append]
    | placeholder param =>
      obtain ⟨value, behind, rfl, -, -, onward⟩ := capture_placeholder_eq_some_iff.mp matched
      rw [placeholders_placeholder, List.map_cons, List.nodup_cons] at distinct
      have bound : captured.lookup? param.name = some value := by
        rw [lookup?_of_capture onward distinct.1, Bindings.lookup?_assign, if_pos rfl]
      rw [List.flatMap_cons, Component.spelled_placeholder bound, ih onward distinct.2]

/-- What is read off texts that are not empty gives each parameter a value of its kind, of texts
that are not empty. -/
theorem fills_of_capture {components : List Component} {given : List String}
    {record captured : ParamRecord} (matched : capture components given record = some captured)
    (distinct : ((placeholders components).map (·.name)).Nodup)
    (filled : ∀ text ∈ given, text ≠ "") : Fills captured components := by
  induction components generalizing given record with
  | nil => exact fun param member => absurd member List.not_mem_nil
  | cons component rest ih =>
    cases component with
    | literal text =>
      obtain ⟨behind, rfl, onward⟩ := capture_literal_eq_some_iff.mp matched
      exact ih onward distinct (List.forall_mem_cons.mp filled).2
    | placeholder param =>
      obtain ⟨value, behind, rfl, fits, -, onward⟩ := capture_placeholder_eq_some_iff.mp matched
      rw [placeholders_placeholder, List.map_cons, List.nodup_cons] at distinct
      obtain ⟨here, there⟩ := List.forall_mem_append.mp filled
      intro other member
      rcases List.mem_cons.mp member with rfl | later
      · refine ⟨value, ?_, fits, here⟩
        rw [lookup?_of_capture onward distinct.1, Bindings.lookup?_assign, if_pos rfl]
      · exact ih onward distinct.2 there other later

/-! ### Reading off what was read off -/

theorem decoded_ne_empty {url text : String}
    (member : text ∈ (components url).map decodeComponent) : text ≠ "" := by
  obtain ⟨component, inUrl, rfl⟩ := List.mem_map.mp member
  rw [Ne, decodeComponent_eq_empty_iff]
  exact (isComponent_of_mem_components inUrl).1

/-- What is read off a URL path, with any number of catch-alls in the pathname: it binds the
parameters of the pathname, in order, each to a value of its kind, of texts that are not empty.
Filled in again it gives a URL path that spells the same components, and is read off that one,
too. -/
theorem captures?_canonical (pathname url : String) (params : ParamRecord)
    (distinct : ((placeholders (pattern pathname)).map (·.name)).Nodup)
    (literals : ∀ text, .literal text ∈ pattern pathname → decodeComponent text = text)
    (matched : captures? pathname url = some params) :
    params.names = (placeholders (pattern pathname)).map (·.name)
      ∧ Fills params (pattern pathname)
      ∧ ∃ canonical, interpolate pathname params = .ok canonical
          ∧ (components canonical).map decodeComponent = (components url).map decodeComponent
          ∧ captures? pathname canonical = some params := by
  have fills := fills_of_capture matched distinct fun _ => decoded_ne_empty
  have same : (components (fillIn pathname params)).map decodeComponent
      = (components url).map decodeComponent :=
    (map_decodeComponent_fillIn literals fills).trans (spelled_of_capture matched distinct)
  refine ⟨names_of_capture matched distinct, fills, _, interpolate_eq_fillIn fills.suits, same, ?_⟩
  rw [captures?, same]
  exact matched

theorem captures?_canonical_malformed :
    let url := "//docs/100%25/%zz/a%2fb//at/%FF/"
    ∃ params canonical, captures? "/docs/[...path]/at/[[...rest]]" url = some params
      ∧ params = [("path", .parts ["100%", "%zz", "a/b"]), ("rest", .parts ["\uFFFD"])]
      ∧ interpolate "/docs/[...path]/at/[[...rest]]" params = .ok canonical
      ∧ (components canonical).map decodeComponent = (components url).map decodeComponent
      ∧ captures? "/docs/[...path]/at/[[...rest]]" canonical = some params := by
  intro url
  have matched : captures? "/docs/[...path]/at/[[...rest]]" url
      = some [("path", .parts ["100%", "%zz", "a/b"]), ("rest", .parts ["\uFFFD"])] := by
    decide +kernel
  obtain ⟨-, -, canonical, filled, same, again⟩ :=
    captures?_canonical _ _ _ (by decide +kernel) (by decide +kernel) matched
  exact ⟨_, canonical, matched, rfl, filled, same, again⟩

end Pathname

end Prerender
