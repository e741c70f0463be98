import Prerender.Proofs.Pathname.Capture

/-!
# URL paths that are recognised

A pathname may have several catch-alls. Only the first one has a choice: it leaves one component of
the URL path to each component behind it, so that these are read off from the end, one by one
(`isSome_capture_iff_of_length`). It does so before the components behind it are looked at, and does
not go back if one of them is a literal that does not fit.

Hence a URL path that was filled in is recognised if no literal stands between two catch-alls; where
one does, it is recognised exactly if that literal stands as far from the end of the URL path as
from the end of the pathname (`captures?_interpolate_isSome`).
-/

namespace Prerender

namespace Pathname

/-- The components behind the first catch-all of a pathname. -/
def behindCatchAll : List Component → List Component
  | [] => []
  | .literal _ :: rest => behindCatchAll rest
  | .placeholder param :: rest => if param.isCatchAll then rest else behindCatchAll rest

/-- How many components a pathname asks of a URL path: one for each component of its own, but for
its first catch-all if that is optional. -/
def demand : List Component → Nat
  | [] => 0
  | .literal _ :: rest => demand rest + 1
  | .placeholder param :: rest =>
    match param.kind with
    | .single => demand rest + 1
    | .catchAll => rest.length + 1
    | .optionalCatchAll => rest.length

/-- Counted from the end, each literal among some components stands where its text is. -/
def MeetsFromEnd : List Component → List String → Prop
  | [], _ => True
  | .literal text :: rest, given =>
    given.reverse[rest.length]? = some text ∧ MeetsFromEnd rest given
  | .placeholder _ :: rest, given => MeetsFromEnd rest given

/-- No literal component stands between two catch-alls. -/
def LiteralsOutside (components : List Component) : Prop :=
  ∀ before text after, components = before ++ .literal text :: after →
    (placeholders before).filter (·.isCatchAll) = []
      ∨ (placeholders after).filter (·.isCatchAll) = []

/-! ### Counting from the end -/

theorem getElem?_reverse_append {front given : List String} {position : Nat}
    (inside : position < given.length) :
    (front ++ given).reverse[position]? = given.reverse[position]? := by
  rw [List.reverse_append, List.getElem?_append_left (by rwa [List.length_reverse])]

/-- What stands in front of the texts that literals are compared with does not matter. -/
theorem meetsFromEnd_append_iff {components : List Component} (front : List String)
    {given : List String} (enough : components.length ≤ given.length) :
    MeetsFromEnd components (front ++ given) ↔ MeetsFromEnd components given := by
  induction components with
  | nil => exact Iff.rfl
  | cons component rest ih =>
    rw [List.length_cons] at enough
    have behind := ih (Nat.le_of_succ_le enough)
    cases component with
    | literal text => rw [MeetsFromEnd, MeetsFromEnd, getElem?_reverse_append enough, behind]
    | placeholder param => exact behind

theorem MeetsFromEnd.append {components : List Component} {given : List String}
    (meets : MeetsFromEnd components given) (front : List String) :
    MeetsFromEnd components (front ++ given) := by
  induction components with
  | nil => exact trivial
  | cons component rest ih =>
    cases component with
    | literal text =>
      obtain ⟨stands, meets⟩ := meets
      have inside : rest.length < given.length := by
        simpa using (List.getElem?_eq_some_iff.mp stands).1
      exact ⟨(getElem?_reverse_append inside).trans stands, ih meets⟩
    | placeholder param => exact ih meets

/-- Components that are given one text each are read off if the literals among them are. -/
theorem isSome_capture_iff_of_length {components : List Component} {given : List String}
    (same : given.length = components.length) (record : ParamRecord) :
    (capture components given record).isSome = true ↔ MeetsFromEnd components given := by
  induction components generalizing given record with
  | nil =>
    obtain rfl := List.length_eq_zero_iff.mp same
    exact iff_of_true rfl trivial
  | cons component rest ih =>
    obtain ⟨text, behind, rfl⟩ := List.exists_cons_of_length_eq_add_one same
    have sameBehind : behind.length = rest.length := Nat.succ.inj same
    have onward : MeetsFromEnd rest (text :: behind) ↔ MeetsFromEnd rest behind :=
      meetsFromEnd_append_iff [text] (Nat.le_of_eq sameBehind.symm)
    cases component with
    | literal literal =>
      have last : (text :: behind).reverse[rest.length]? = some text := by
        simp [← sameBehind]
      rw [MeetsFromEnd, onward, last, ← ih sameBehind record, capture, Option.some.injEq]
      split
      · next stands => rw [and_iff_right stands]
      · next differs => exact iff_of_false (by rintro ⟨⟩) fun both => differs both.1
    | placeholder param =>
      rw [MeetsFromEnd, onward]
      by_cases single : param.kind = .single
      · rw [capture_single single]
        exact ih sameBehind _
      · have some : param.kind = .catchAll → [text] ≠ [] := fun _ => List.cons_ne_nil text []
        rw [show text :: behind = [text] ++ behind from rfl,
          capture_many single rest record sameBehind some]
        exact ih sameBehind _

/-! ### Texts that a pathname spells -/

theorem length_behindCatchAll_le (components : List Component) :
    (behindCatchAll components).length ≤ demand components := by
  induction components with
  | nil => exact Nat.le_refl 0
  | cons component rest ih =>
    cases component with
    | literal text => exact Nat.le_succ_of_le ih
    | placeholder param =>
      obtain ⟨name, kind⟩ := param
      cases kind with
      | single => exact Nat.le_succ_of_le ih
      | catchAll => exact Nat.le_succ rest.length
      | optionalCatchAll => exact Nat.le_refl rest.length

/-- The texts that a pathname spells are recognised, if there are as many as it asks for, exactly if
the literals behind its first catch-all meet their texts from the end. -/
theorem isSome_capture_spelled_iff {params : ParamRecord} {components : List Component}
    (fills : Fills params components)
    (room : demand components ≤ (components.flatMap (Component.spelled params)).length)
    (record : ParamRecord) :
    (capture components (components.flatMap (Component.spelled params)) record).isSome = true
      ↔ MeetsFromEnd (behindCatchAll components)
          (components.flatMap (Component.spelled params)) := by
  induction components generalizing record with
  | nil => exact iff_of_true rfl trivial
  | cons component rest ih =>
    -- A component that takes one text is as far from the first catch-all as those behind it.
    have onward : ∀ text, demand rest ≤ (rest.flatMap (Component.spelled params)).length →
        (MeetsFromEnd (behindCatchAll rest) (text :: rest.flatMap (Component.spelled params))
          ↔ MeetsFromEnd (behindCatchAll rest) (rest.flatMap (Component.spelled params))) :=
      fun text room => meetsFromEnd_append_iff [text]
        (Nat.le_trans (length_behindCatchAll_le rest) room)
    cases component with
    | literal text =>
      rw [List.flatMap_cons, Component.spelled, List.singleton_append] at room ⊢
      have room := Nat.le_of_succ_le_succ room
      rw [capture, if_pos rfl, behindCatchAll, onward text room]
      exact ih fills.rest room record
    | placeholder param =>
      obtain ⟨value, found, fits, -⟩ := fills param List.mem_cons_self
      rw [List.flatMap_cons, Component.spelled_placeholder found] at room ⊢
      by_cases single : param.kind = .single
      · obtain ⟨content, rfl⟩ := ParamValue.eq_text_of_fits (single ▸ fits)
        rw [ParamValue.texts, List.singleton_append] at room ⊢
        rw [demand, single] at room
        have room := Nat.le_of_succ_le_succ room
        have passed : ¬param.isCatchAll = true := by simp [SegmentParam.isCatchAll, single]
        rw [capture_single single, behindCatchAll, if_neg passed, onward content room]
        exact ih fills.rest room _
      · have first : param.isCatchAll = true := by simpa [SegmentParam.isCatchAll] using single
        generalize value.texts ++ rest.flatMap (Component.spelled params) = given at room ⊢
        have covers : rest.length ≤ given.length
            ∧ (param.kind = .catchAll → rest.length < given.length) := by
          obtain ⟨name, kind⟩ := param
          cases kind with
          | single => exact absurd rfl single
          | catchAll => exact ⟨Nat.le_of_succ_le room, fun _ => room⟩
          | optionalCatchAll => exact ⟨room, by rintro ⟨⟩⟩
        have split : given = given.take (given.length - rest.length)
            ++ given.drop (given.length - rest.length) := (List.take_append_drop _ _).symm
        have leaves : (given.drop (given.length - rest.length)).length = rest.length := by
          rw [List.length_drop]
          omega
        have enough : param.kind = .catchAll → given.take (given.length - rest.length) ≠ [] := by
          intro required
          have := covers.2 required
          rw [← List.length_pos_iff, List.length_take]
          omega
        rw [behindCatchAll, if_pos first, split, capture_many single rest record leaves enough,
          meetsFromEnd_append_iff _ (Nat.le_of_eq leaves.symm)]
        exact isSome_capture_iff_of_length leaves _

/-- Components without an optional catch-all among them spell a text each, or more. -/
theorem length_le_length_spelled {params : ParamRecord} {components : List Component}
    (fills : Fills params components)
    (required : ∀ param ∈ placeholders components, param.kind ≠ .optionalCatchAll) :
    components.length ≤ (components.flatMap (Component.spelled params)).length := by
  induction components with
  | nil => exact Nat.le_refl 0
  | cons component rest ih =>
    have behind : rest.length ≤ (rest.flatMap (Component.spelled params)).length := by
      apply ih fills.rest
      intro param member
      cases component with
      | literal text => exact required param member
      | placeholder other => exact required param (List.mem_cons_of_mem other member)
    have here : 1 ≤ (component.spelled params).length := by
      cases component with
      | literal text => exact Nat.le_refl 1
      | placeholder param =>
        obtain ⟨value, found, fits, -⟩ := fills param List.mem_cons_self
        have some := ParamValue.texts_ne_nil_of_fits fits (required param List.mem_cons_self)
        rw [Component.spelled_placeholder found]
        exact List.length_pos_iff.mpr some
    rw [List.length_cons, List.flatMap_cons, List.length_append]
    omega

/-- Where no optional catch-all stands behind the first catch-all, a pathname spells as many texts
as it asks for. -/
theorem demand_le_length_spelled {params : ParamRecord} {components : List Component}
    (fills : Fills params components)
    (required : ∀ param ∈ placeholders (behindCatchAll components),
      param.kind ≠ .optionalCatchAll) :
    demand components ≤ (components.flatMap (Component.spelled params)).length := by
  induction components with
  | nil => exact Nat.le_refl 0
  | cons component rest ih =>
    cases component with
    | literal text => exact Nat.succ_le_succ (ih fills.rest required)
    | placeholder param =>
      obtain ⟨value, found, fits, -⟩ := fills param List.mem_cons_self
      have some := ParamValue.texts_ne_nil_of_fits fits
      rw [List.flatMap_cons, Component.spelled_placeholder found, List.length_append]
      obtain ⟨name, kind⟩ := param
      cases kind with
      | single =>
        have here := List.length_pos_iff.mpr (some (by rintro ⟨⟩))
        have behind := ih fills.rest required
        change demand rest + 1 ≤ _
        omega
      | catchAll =>
        have here := List.length_pos_iff.mpr (some (by rintro ⟨⟩))
        have behind := length_le_length_spelled fills.rest required
        change rest.length + 1 ≤ _
        omega
      | optionalCatchAll =>
        have behind := length_le_length_spelled fills.rest required
        exact Nat.le_add_left_of_le behind

theorem LiteralsOutside.rest {component : Component} {rest : List Component}
    (outside : LiteralsOutside (component :: rest)) : LiteralsOutside rest := by
  intro before text after split
  rcases outside (component :: before) text after (by rw [split, List.cons_append]) with
    none | none
  · left
    rw [List.filter_eq_nil_iff] at none ⊢
    intro param member
    cases component with
    | literal other => exact none param member
    | placeholder other => exact none param (List.mem_cons_of_mem other member)
  · exact Or.inr none

/-- Literals with no catch-all behind them stand where their texts are. -/
theorem meetsFromEnd_spelled {params : ParamRecord} {components : List Component}
    (fills : Fills params components)
    (last : ∀ before text after, components = before ++ .literal text :: after →
      (placeholders after).filter (·.isCatchAll) = []) :
    MeetsFromEnd components (components.flatMap (Component.spelled params)) := by
  induction components with
  | nil => exact trivial
  | cons component rest ih =>
    have behind : MeetsFromEnd rest (rest.flatMap (Component.spelled params)) := by
      apply ih fills.rest
      intro before text after split
      exact last (component :: before) text after (by rw [split, List.cons_append])
    rw [List.flatMap_cons]
    cases component with
    | literal text =>
      refine ⟨?_, behind.append _⟩
      have same := length_spelled fills.rest.suits (last [] text rest rfl)
      simp [Component.spelled, ← same]
    | placeholder param => exact behind.append _

/-- Of literals that do not stand between two catch-alls, those behind the first one stand where
their texts are. -/
theorem meetsFromEnd_behind_spelled {params : ParamRecord} {components : List Component}
    (fills : Fills params components) (outside : LiteralsOutside components) :
    MeetsFromEnd (behindCatchAll components)
      (components.flatMap (Component.spelled params)) := by
  induction components with
  | nil => exact trivial
  | cons component rest ih =>
    rw [List.flatMap_cons]
    cases component with
    | literal text => exact (ih fills.rest outside.rest).append _
    | placeholder param =>
      rw [behindCatchAll]
      split
      · next first =>
        apply (meetsFromEnd_spelled fills.rest ?_).append
        intro before text after split
        rcases outside (.placeholder param :: before) text after (by rw [split, List.cons_append])
          with none | none
        · exact absurd first (List.filter_eq_nil_iff.mp none param List.mem_cons_self)
        · exact none
      · exact (ih fills.rest outside.rest).append _

/-! ### URL paths that were filled in -/

/-- A pathname with any number of catch-alls, filled in with values of their kinds. If the URL path
has as many components as the pathname asks for, it is recognised exactly if the literals behind the
first catch-all are the components that stand as far from the end. They are if no literal stands
between two catch-alls; and there are as many components if no catch-all behind the first one is
optional. -/
theorem captures?_interpolate_isSome (pathname : String) (params : ParamRecord)
    (literals : ∀ text, .literal text ∈ pattern pathname → decodeComponent text = text)
    (fills : Fills params (pattern pathname)) :
    ∃ url, interpolate pathname params = .ok url
      ∧ (demand (pattern pathname) ≤ (components url).length →
          ((captures? pathname url).isSome = true
            ↔ MeetsFromEnd (behindCatchAll (pattern pathname))
                ((components url).map decodeComponent)))
      ∧ (LiteralsOutside (pattern pathname) →
          demand (pattern pathname) ≤ (components url).length →
            (captures? pathname url).isSome = true)
      ∧ ((∀ param ∈ placeholders (behindCatchAll (pattern pathname)),
            param.kind ≠ .optionalCatchAll) →
          ((captures? pathname url).isSome = true
            ↔ MeetsFromEnd (behindCatchAll (pattern pathname))
                ((components url).map decodeComponent))) := by
  have spelled := map_decodeComponent_fillIn literals fills
  refine ⟨_, interpolate_eq_fillIn fills.suits, ?_, ?_, ?_⟩
  · intro room
    rw [← List.length_map decodeComponent, spelled] at room
    rw [captures?, spelled]
    exact isSome_capture_spelled_iff fills room []
  · intro outside room
    rw [← List.length_map decodeComponent, spelled] at room
    rw [captures?, spelled, isSome_capture_spelled_iff fills room]
    exact meetsFromEnd_behind_spelled fills outside
  · intro required
    rw [captures?, spelled]
    exact isSome_capture_spelled_iff fills (demand_le_length_spelled fills required) []

/-- The first catch-all leaves one component to each component behind it, wherever the literal
stands. -/
theorem captures?_literal_between_catchAlls :
    let pathname := "/[...a]/x/[...b]"
    let params : ParamRecord := [("a", .parts ["p"]), ("b", .parts ["r", "s"])]
    ((placeholders (pattern pathname)).map (·.name)).Nodup
      ∧ (∀ text, .literal text ∈ pattern pathname → decodeComponent text = text)
      ∧ Fills params (pattern pathname)
      ∧ interpolate pathname params = .ok "/p/x/r/s"
      ∧ captures? pathname "/p/x/r/s" = none := by
  exact ⟨by decide +kernel, by decide +kernel, by decide +kernel, by decide +kernel,
    by decide +kernel⟩

theorem captures?_interpolate_isSome_absent :
    ∃ url, interpolate "/[[...a]]/[...b]/x" [("a", .absent), ("b", .parts ["p", "q"])] = .ok url
      ∧ (captures? "/[[...a]]/[...b]/x" url).isSome = true
      ∧ MeetsFromEnd (behindCatchAll (pattern "/[[...a]]/[...b]/x"))
          ((components url).map decodeComponent) := by
  have read : pattern "/[[...a]]/[...b]/x"
      = [.placeholder ⟨"a", .optionalCatchAll⟩, .placeholder ⟨"b", .catchAll⟩, .literal "x"] := by
    decide +kernel
  have outside : LiteralsOutside (pattern "/[[...a]]/[...b]/x") := by
    rw [read]
    intro before text after split
    right
    rcases before with _ | ⟨_, _ | ⟨_, _ | ⟨_, before⟩⟩⟩
    · cases split
    · cases split
    · cases split
      rfl
    · simp at split
  obtain ⟨url, filled, -, recognised, exactly⟩ :=
    captures?_interpolate_isSome "/[[...a]]/[...b]/x" [("a", .absent), ("b", .parts ["p", "q"])]
      (by decide +kernel) (by decide +kernel)
  have written : interpolate "/[[...a]]/[...b]/x" [("a", .absent), ("b", .parts ["p", "q"])]
      = .ok "/p/q/x" := by decide +kernel
  obtain rfl : url = "/p/q/x" := Except.ok.inj (filled.symm.trans written)
  have found := recognised outside (by rw [read]; decide +kernel)
  exact ⟨"/p/q/x", written, found, (exactly (by decide +kernel)).mp found⟩

end Pathname

end Prerender
