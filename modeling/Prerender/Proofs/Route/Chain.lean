import Prerender.Proofs.Except
import Prerender.Proofs.Expansion.Owners
import Prerender.Proofs.Expansion.Padding
import Prerender.Proofs.Pathname.Filling
import Prerender.Route.Chain

/-!
# The parameters of a chain

Steps have a chain if their names and the exports behind them can be read
(`RouteStep.chain_isOk_iff`). The parameters of a
route's chain are those that the names of its steps declare (`Route.paramsOf_chain`), whatever
modules stand behind the steps, and every dynamic segment of it has one (`Route.named_of_chain`).
-/

namespace Prerender

/-- The parameters that the segments of a chain stand for, in order. -/
def Expansion.paramsOf {σ : Type} (chain : List (SegmentWith σ)) : List SegmentParam :=
  chain.filterMap (·.param?)

theorem Expansion.paramNames_eq_map_paramsOf {σ : Type} (chain : List (SegmentWith σ)) :
    paramNames chain = (paramsOf chain).map (·.name) := by
  rw [paramNames, paramsOf, List.map_filterMap]
  rfl

namespace RouteStep

/-! ### One step -/

/-- A step gives a segment exactly if its name declares a parameter or is not in brackets. The
segment then has that parameter. -/
theorem role_eq_ok_iff {routeId name : String} {role : SegmentRole} :
    RouteStep.role routeId name = .ok role
      ↔ (∃ param, SegmentParam.parse? name = some param ∧ role = .dynamic (some param))
        ∨ isBracketed name = false ∧ role = .static := by
  unfold RouteStep.role
  cases bracketed : isBracketed name with
  | false =>
    have none : SegmentParam.parse? name = none :=
      SegmentParam.parse?_eq_none (Bool.not_eq_true _ ▸ bracketed)
    simp [none, eq_comm]
  | true =>
    cases SegmentParam.parse? name with
    | none => simp
    | some param => simp [eq_comm]

/-- The exports of the module behind a step can be read, if there is one. -/
def ExportsReadable (step : RouteStep) : Prop :=
  ∀ backing, step.backing = some backing → Exports.raised? backing.exports = none

/-- A step that gives a segment has a role, and either no module behind it or one whose exports can
be read. -/
theorem segment_eq_ok_iff {routeId : String} {step : RouteStep} {segment : Segment} :
    step.segment routeId = .ok segment
      ↔ ∃ role, RouteStep.role routeId step.name = .ok role
        ∧ ((step.backing = none ∧ segment = { name := step.name, role })
          ∨ ∃ backing, step.backing = some backing ∧ Exports.raised? backing.exports = none
            ∧ segment = RouteStep.backedSegment step.name role backing) := by
  simp only [RouteStep.segment, Except.bind_eq_ok_iff, Except.mapError_eq_ok_iff]
  refine exists_congr fun role => and_congr_right fun _ => ?_
  cases step.backing with
  | none => simp [pure, Except.pure, eq_comm]
  | some backing =>
    cases unread : Exports.raised? backing.exports with
    | none => simp [unread, pure, Except.pure, eq_comm]
    | some raised => simp [unread, throw, throwThe, MonadExceptOf.throw]

theorem role_backedSegment (name : String) (role : SegmentRole) (backing : LoadedModule) :
    (RouteStep.backedSegment name role backing).role = role := by
  unfold RouteStep.backedSegment
  split <;> rfl

theorem role_of_segment {routeId : String} {step : RouteStep} {segment : Segment}
    (made : step.segment routeId = .ok segment) :
    RouteStep.role routeId step.name = .ok segment.role := by
  obtain ⟨role, hasRole, ⟨-, rfl⟩ | ⟨backing, -, -, rfl⟩⟩ := segment_eq_ok_iff.mp made
  · exact hasRole
  · rw [hasRole, role_backedSegment]

/-- The settings of a segment are read from the exports of the module behind its step. -/
theorem config?_of_segment {routeId : String} {step : RouteStep} {segment : Segment}
    (made : step.segment routeId = .ok segment) {config : SegmentConfig}
    (configured : segment.config = some config) :
    ∃ exports, SegmentConfig.parse? exports = some config := by
  obtain ⟨role, -, ⟨-, rfl⟩ | ⟨backing, -, -, rfl⟩⟩ := segment_eq_ok_iff.mp made
  · cases configured
  · unfold RouteStep.backedSegment at configured
    split at configured
    · cases configured
    · obtain ⟨exports, -, parsed⟩ := Option.bind_eq_some_iff.mp configured
      exact ⟨exports, parsed⟩

theorem isSome_paramName?_of_segment {routeId : String} {step : RouteStep} {segment : Segment}
    (made : step.segment routeId = .ok segment) (dynamic : segment.isDynamic = true) :
    segment.paramName?.isSome = true := by
  rcases role_eq_ok_iff.mp (role_of_segment made) with ⟨param, -, role⟩ | ⟨-, role⟩
  · simp [SegmentWith.paramName?, SegmentWith.param?, role]
  · simp [SegmentWith.isDynamic, role] at dynamic

/-- Steps let an exception out: the first one without a segment has a name that can be read, and
reading the exports of the module behind it raises something. -/
inductive Escapes (steps : List RouteStep) : Crash → Prop where
  | intro {before after : List RouteStep} {step : RouteStep} {backing : LoadedModule}
      {raised : Raised} {crash : Crash} (split : steps = before ++ step :: after)
      (read : ∀ earlier ∈ before, SegmentParam.Readable earlier.name ∧ earlier.ExportsReadable)
      (named : SegmentParam.Readable step.name) (stands : step.backing = some backing)
      (unread : Exports.raised? backing.exports = some raised)
      (letsOut : raised.leaving = .crash crash) : Escapes steps crash

/-- Every segment of a chain is that of a step. -/
theorem exists_step_of_mem_chain {routeId : String} {steps : List RouteStep} {chain : List Segment}
    (collected : RouteStep.chain routeId steps = .ok chain) {segment : Segment}
    (inChain : segment ∈ chain) : ∃ step ∈ steps, step.segment routeId = .ok segment := by
  obtain ⟨segments, made, same⟩ := Except.bind_eq_ok_iff.mp collected
  cases same
  exact exists_mem_of_forall₂ (Except.mapM_eq_ok_iff.mp made) (List.mem_filter.mp inChain).1

/-- Every dynamic segment of a chain has a parameter. -/
theorem named_of_chain {routeId : String} {steps : List RouteStep} {chain : List Segment}
    (collected : RouteStep.chain routeId steps = .ok chain) {segment : Segment}
    (inChain : segment ∈ chain) (dynamic : segment.isDynamic = true) :
    segment.paramName?.isSome = true := by
  obtain ⟨step, -, here⟩ := exists_step_of_mem_chain collected inChain
  exact isSome_paramName?_of_segment here dynamic

/-- The settings of a chain's segments are read from exports. -/
theorem config?_of_chain {routeId : String} {steps : List RouteStep} {chain : List Segment}
    (collected : RouteStep.chain routeId steps = .ok chain) {segment : Segment}
    (inChain : segment ∈ chain) {config : SegmentConfig}
    (configured : segment.config = some config) :
    ∃ exports, SegmentConfig.parse? exports = some config := by
  obtain ⟨step, -, here⟩ := exists_step_of_mem_chain collected inChain
  exact config?_of_segment here configured

theorem map_name_endingIn (module : LoadedModule) (names : List String) :
    (endingIn module names).map (·.name) = names := by
  induction names with
  | nil => rfl
  | cons name rest ih =>
    cases rest with
    | nil => rfl
    | cons next rest => exact congrArg (name :: ·) ih

end RouteStep

/-! ### Routes -/

namespace Route

/-- The names of the steps of a route that has a chain: the pieces of a handler's pathname behind
the first slash, or the levels of a page tree. -/
def stepNames : Route → List String
  | .handler target => (Pathname.pieces target.pathname).drop 1
  | .page target => target.root.primarySteps.map (·.name)
  | .listed _ => []
  | .unknown .. => []

/-- A route leads from its root to its leaf by some steps. -/
inductive HasSteps : Route → List RouteStep → Prop where
  | handler {target : Handler} {steps : List RouteStep} (taken : target.steps = .ok steps) :
    HasSteps (.handler target) steps
  | page (target : Page) : HasSteps (.page target) target.root.primarySteps

/-- The chain of a route comes from steps of these names. -/
theorem exists_steps_of_chain {route : Route} {chain : List Segment}
    (collected : route.chain = .ok chain) :
    ∃ routeId steps, RouteStep.chain routeId steps = .ok chain
      ∧ steps.map (·.name) = route.stepNames := by
  cases route with
  | handler target =>
    obtain ⟨steps, taken, collected⟩ := Except.bind_eq_ok_iff.mp collected
    rw [Except.mapError_eq_ok_iff] at taken
    refine ⟨target.routeId, steps, collected, ?_⟩
    unfold Handler.steps at taken
    split at taken
    · cases taken
    · cases taken
      exact RouteStep.map_name_endingIn _ _
  | page target => exact ⟨target.routeId, target.root.primarySteps, collected, rfl⟩
  | listed target => cases collected
  | unknown pathname object => cases collected

theorem named_of_chain {route : Route} {chain : List Segment}
    (collected : route.chain = .ok chain) :
    ∀ segment ∈ chain, segment.isDynamic = true → segment.paramName?.isSome = true := by
  obtain ⟨routeId, steps, collected, -⟩ := exists_steps_of_chain collected
  exact fun _ inChain dynamic => RouteStep.named_of_chain collected inChain dynamic

/-! ### Pathnames -/

/-- The pathname of a route has the parameters that the names of its steps declare, in the same
order. -/
def Coherent (route : Route) : Prop :=
  Pathname.placeholders (Pathname.pattern route.pathname)
    = route.stepNames.filterMap SegmentParam.parse?

section Handler

variable {target : Handler} {rest : List Char}

/-- The steps of a handler whose pathname starts with a slash are the pieces behind it. -/
theorem pieces_eq_cons_stepNames (slash : target.pathname.toList = '/' :: rest) :
    Pathname.pieces target.pathname = "" :: (Route.handler target).stepNames := by
  rw [stepNames, Pathname.pieces, slash, Pathname.splitSlashes, if_pos rfl, List.map_cons,
    List.drop_one, List.tail_cons]

theorem coherent_handler (slash : target.pathname.toList = '/' :: rest) :
    (Route.handler target).Coherent := by
  rw [Coherent, pathname, Pathname.placeholders_pattern, pieces_eq_cons_stepNames slash,
    List.filterMap_cons, SegmentParam.parse?_empty]

end Handler

end Route

end Prerender
