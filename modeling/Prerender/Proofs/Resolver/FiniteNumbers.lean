import Prerender.Proofs.Json.Standard
import Prerender.Proofs.Policy.Finite
import Prerender.Proofs.Resolver.Filing
import Prerender.Proofs.Resolver.ManifestText
import Prerender.Proofs.Resolver.Resolution

/-!
# Routes with finite policies

The numbers in the JSON form of a resolved route are those of its policy
(`ResolvedRoute.numbers_toJson`), and those of a manifest the numbers of all its routes. None of
them is negative or undefined (`Route.isNonnegative_of_resolve`), so the only name that the text of
a manifest may use for a number is that of infinity. It is standard JSON exactly if all numbers are
finite (`Loader.manifest_isJson_iff`), and those of a route are unless its chain leaves one of them
without a bound (`Route.Unbounded`).
-/

namespace Prerender

open Json (IsJson)

/-! ### Numbers in the JSON form -/

@[simp] theorem ParamValue.numbers_toJson (value : ParamValue) : value.toJson.numbers = [] := by
  cases value <;> simp [toJson, List.flatMap_map]

@[simp] theorem ParamRecord.numbers_toJson (record : ParamRecord) : record.toJson.numbers = [] := by
  simp [toJson, List.flatMap_map]

@[simp] theorem Region.numbers_toJson (region : Region) : region.toJson.numbers = [] := by
  cases region <;> simp [toJson, List.flatMap_map]

@[simp] theorem Fallback.numbers_toJson (fallback : Fallback) : fallback.toJson.numbers = [] := by
  cases fallback <;> rfl

@[simp] theorem Revalidate.numbers_toJson (setting : Revalidate) :
    setting.toJson.numbers = setting.seconds?.toList := by
  cases setting <;> rfl

@[simp] theorem Json.numbers_orNull {α : Type} (toJson : α → Json) (given : Option α) :
    (Json.orNull toJson given).numbers
      = given.toList.flatMap fun value => (toJson value).numbers := by
  cases given with
  | none => rfl
  | some value => rw [orNull, Option.toList_some, List.flatMap_singleton]

/-- The numbers in the JSON form of a route are those of its policy. -/
@[simp] theorem ResolvedRoute.numbers_toJson (resolved : ResolvedRoute) :
    resolved.toJson.numbers = resolved.policy.numbers := by
  have silent : ∀ {α : Type} (values : List α), (values.flatMap fun _ => ([] : List Number)) = [] :=
    fun _ => List.flatMap_eq_nil_iff.mpr fun _ _ => rfl
  simp [toJson, Policy.numbers, List.flatMap_map, silent]

/-! ### Manifests -/

namespace Manifest

theorem mem_numbers_toJson_iff {manifest : Manifest} {number : Number} :
    number ∈ manifest.toJson.numbers
      ↔ number = .int 1 ∨ ∃ filed ∈ manifest.routes, number ∈ filed.2.policy.numbers := by
  have sorted : ∀ {filed : String × ResolvedRoute},
      filed ∈ manifest.routes.sorted ↔ filed ∈ manifest.routes :=
    List.mem_mergeSort
  simp [toJson, List.flatMap_map, sorted]

/-- Whatever number of blanks a text is indented by, its layout is blank. -/
theorem isBlank_of_layoutOf {indent : Value} {layout : Json.Layout}
    (noText : ∀ unit, indent ≠ .text unit) (isLayout : layoutOf indent = .ok layout) :
    layout.IsBlank := by
  unfold layoutOf at isLayout
  split at isLayout
  · cases isLayout
    trivial
  · next unit => exact absurd rfl (noText unit)
  · split at isLayout
    · split at isLayout
      · cases isLayout
        intro c member
        rw [String.toList_ofList] at member
        exact .inl (List.eq_of_mem_replicate member)
      · cases isLayout
    · cases isLayout

variable {manifest : Manifest} {layout : Json.Layout}

/-- The text of a manifest is standard JSON exactly if all policies in it are finite. -/
theorem isJson_text_iff (blank : layout.IsBlank) :
    IsJson [] (manifest.text layout).toList
      ↔ ∀ filed ∈ manifest.routes, ∀ number ∈ filed.2.policy.numbers, number.IsFinite := by
  rw [text, Json.isJson_render_iff blank]
  simp only [mem_numbers_toJson_iff, or_imp, forall_and, forall_eq, forall_exists_index, and_imp]
  rw [and_iff_right (show Number.IsFinite (.int 1) from trivial)]
  exact ⟨fun finite filed isFiled number member => finite number filed isFiled member,
    fun finite number filed isFiled member => finite filed isFiled number member⟩

/-- No name but that of infinity is in the text of a manifest whose numbers are zero or more. -/
theorem isJson_text (blank : layout.IsBlank)
    (nonnegative : ∀ filed ∈ manifest.routes, ∀ number ∈ filed.2.policy.numbers,
      number.isNonnegative = true) :
    IsJson ["Infinity"] (manifest.text layout).toList := by
  refine Json.isJson_renderAt blank manifest.toJson 0 fun number member => ?_
  rcases mem_numbers_toJson_iff.mp member with rfl | ⟨filed, isFiled, member⟩
  · exact .inl trivial
  · by_cases finite : number.IsFinite
    · exact .inl finite
    · rw [Number.eq_infinite_of_isNonnegative (nonnegative filed isFiled number member) finite]
      exact .inr List.mem_cons_self

end Manifest

/-! ### Resolved routes -/

namespace Route

/-- A route has a chain, which leaves a number of its policy without a finite bound. -/
def Unbounded (route : Route) : Prop :=
  ∃ chain, route.chain = .ok chain ∧ Policy.Unbounded chain

theorem nonnegative_of_chain {route : Route} {chain : List Segment}
    (collected : route.chain = .ok chain) : Policy.Nonnegative chain := by
  obtain ⟨routeId, steps, collected, -⟩ := exists_steps_of_chain collected
  intro segment inChain config configured number member
  obtain ⟨exports, parsed⟩ := RouteStep.config?_of_chain collected inChain configured
  exact SegmentConfig.isNonnegative_of_parse? parsed member

variable {route : Route} {tasks : TaskLibrary} {config : ResolverConfig} {calls : List Call}
  {resolved : ResolvedRoute}

/-- The policy of a resolved route is that of its chain, or that of a listing. -/
theorem policy_of_resolve (isResolved : (route.resolve tasks config calls).1 = .ok resolved) :
    (∃ chain ppr, route.chain = .ok chain ∧ resolved.policy = Policy.ofChain ppr chain)
      ∨ (∀ chain, route.chain ≠ .ok chain) ∧ resolved.policy.numbers = [] := by
  rcases resolve_cases route with ⟨chain, kind, routeId, hasChain⟩ | ⟨page, params, rfl, declared⟩
    | ⟨failure, refused⟩
  · rw [hasChain.resolve_eq] at isResolved
    obtain ⟨staticPaths, -, rfl⟩ := Except.map_eq_ok_iff.mp isResolved
    exact .inl ⟨chain, _, hasChain.collected, rfl⟩
  · rw [resolve_listed, declared] at isResolved
    obtain ⟨staticPaths, -, rfl⟩ := Except.map_eq_ok_iff.mp isResolved
    exact .inr ⟨fun chain => nofun, rfl⟩
  · rw [refused] at isResolved
    cases isResolved

theorem isNonnegative_of_resolve
    (isResolved : (route.resolve tasks config calls).1 = .ok resolved) :
    ∀ number ∈ resolved.policy.numbers, number.isNonnegative = true := by
  intro number member
  rcases policy_of_resolve isResolved with ⟨chain, ppr, collected, same⟩ | ⟨-, none⟩
  · rw [same] at member
    exact Policy.isNonnegative_of_mem_numbers (nonnegative_of_chain collected) member
  · rw [none] at member
    cases member

/-- The policy of a resolved route is finite exactly if the route is bounded. -/
theorem isFinite_iff_of_resolve (isResolved : (route.resolve tasks config calls).1 = .ok resolved) :
    (∀ number ∈ resolved.policy.numbers, number.IsFinite) ↔ ¬route.Unbounded := by
  have unbounded : route.Unbounded ↔ ∃ number ∈ resolved.policy.numbers, ¬number.IsFinite := by
    rcases policy_of_resolve isResolved with ⟨chain, ppr, collected, same⟩ | ⟨noChain, none⟩
    · rw [same, ← Policy.unbounded_iff (nonnegative_of_chain collected)]
      constructor
      · rintro ⟨other, otherCollected, unbounded⟩
        obtain rfl := Except.ok.inj (collected.symm.trans otherCollected)
        exact unbounded
      · exact fun unbounded => ⟨chain, collected, unbounded⟩
    · rw [none]
      exact iff_of_false (fun ⟨chain, collected, _⟩ => noChain chain collected)
        fun ⟨_, member, _⟩ => absurd member List.not_mem_nil
  rw [unbounded]
  simp

end Route

/-! ### Builds -/

namespace Loader

theorem exists_route_of_resolve {σ : Type} {loader : Loader σ} {tasks : TaskLibrary}
    {routeId : String} {config : ResolverConfig} {session : Session σ} {resolved : ResolvedRoute}
    (isResolved : (loader.resolve tasks routeId config session).1 = .ok resolved) :
    ∃ route, (loader.load routeId session.loader).1 = .ok route
      ∧ (route.resolve tasks config session.calls).1 = .ok resolved := by
  rcases loaded : loader.load routeId session.loader with ⟨raised | route, state⟩
  · rw [resolve_of_load_error loaded] at isResolved
    cases isResolved
  · rw [resolve_of_load_ok loaded] at isResolved
    exact ⟨route, rfl, Except.mapError_eq_ok_iff.mp isResolved⟩

/-- Every route of a manifest was loaded and resolved at some visit. -/
theorem exists_visit_of_manifest {σ : Type} {loader : Loader σ} {tasks : TaskLibrary}
    {routeIds : List String} {config : ResolverConfig} {session : Session σ} {manifest : Manifest}
    (built : (loader.manifest tasks routeIds config session).1 = .ok manifest)
    {filed : String × ResolvedRoute} (isFiled : filed ∈ manifest.routes) :
    ∃ visit ∈ loader.visits tasks config routeIds session, visit.1 = filed.1
      ∧ ∃ route, (loader.load visit.1 visit.2.loader).1 = .ok route
        ∧ (route.resolve tasks config visit.2.calls).1 = .ok filed.2 := by
  have reflects : manifest.Reflects (loader.outcomes tasks config routeIds session) :=
    manifestFrom_reflects Manifest.reflects_nil built
  have found := Bindings.lookup?_of_mem (distinct_of_manifest built).routes isFiled
  obtain ⟨visit, isVisit, same⟩ := List.mem_map.mp (reflects.mem_of_lookup? found)
  obtain ⟨named, isResolved⟩ := Prod.mk.inj same
  exact ⟨visit, isVisit, named, exists_route_of_resolve isResolved⟩

/-- The numbers of a resolved route's policy are never negative or undefined, and they are finite
exactly if the chain of the route has a finite bound wherever it declares one. All routes in a
manifest are so resolved. So its text, indented by a number of blanks or not at all, names no number
but infinity, and is standard JSON exactly if the policies of all its routes are finite. -/
theorem manifest_isJson_iff (tasks : TaskLibrary) (config : ResolverConfig) :
    (∀ (route : Route) (calls : List Call) (resolved : ResolvedRoute),
        (route.resolve tasks config calls).1 = .ok resolved →
          (∀ number ∈ resolved.policy.numbers, number.isNonnegative = true)
            ∧ ((∀ number ∈ resolved.policy.numbers, number.IsFinite) ↔ ¬route.Unbounded))
      ∧ ∀ (σ : Type) (loader : Loader σ) (routeIds : List String) (session : Session σ)
          (manifest : Manifest),
        (loader.manifest tasks routeIds config session).1 = .ok manifest →
          (∀ filed ∈ manifest.routes,
              ∃ visit ∈ loader.visits tasks config routeIds session, visit.1 = filed.1
                ∧ ∃ route, (loader.load visit.1 visit.2.loader).1 = .ok route
                  ∧ (route.resolve tasks config visit.2.calls).1 = .ok filed.2)
            ∧ ∀ indent layout, (∀ unit, indent ≠ .text unit) →
              Manifest.layoutOf indent = .ok layout →
                IsJson ["Infinity"] (manifest.text layout).toList
                  ∧ (IsJson [] (manifest.text layout).toList
                    ↔ ∀ filed ∈ manifest.routes, ∀ number ∈ filed.2.policy.numbers,
                        number.IsFinite) := by
  refine ⟨fun route calls resolved isResolved =>
    ⟨Route.isNonnegative_of_resolve isResolved, Route.isFinite_iff_of_resolve isResolved⟩, ?_⟩
  intro σ loader routeIds session manifest built
  refine ⟨fun filed => exists_visit_of_manifest built, ?_⟩
  intro indent layout noText isLayout
  have blank := Manifest.isBlank_of_layoutOf noText isLayout
  refine ⟨Manifest.isJson_text blank fun filed isFiled => ?_, Manifest.isJson_text_iff blank⟩
  obtain ⟨visit, -, -, route, -, isResolved⟩ := exists_visit_of_manifest built isFiled
  exact Route.isNonnegative_of_resolve isResolved

/-- The number that the leaf declares bounds what the root leaves unbounded. -/
theorem manifest_isJson_iff_leaf :
    let root : LoadedModule :=
      ⟨none, .moduleObject [("revalidate", .number (.float (.infinite false))),
        ("max_duration", .number (.int 30))]⟩
    let leaf : LoadedModule := ⟨none, .moduleObject [("revalidate", .number (.int 60))]⟩
    let route := Route.page ⟨"/", "/",
      ⟨"", some root, none, [(primaryBranch, ⟨pageSegment, none, some leaf, []⟩)]⟩⟩
    let loader : Loader Unit := ⟨fun _ state => (.ok route, state)⟩
    ∃ resolved manifest, (route.resolve .standard .default []).1 = .ok resolved
      ∧ resolved.policy.numbers = [.int 60, .int 30] ∧ ¬route.Unbounded
      ∧ (loader.manifest .standard ["/"] .default ⟨(), []⟩).1 = .ok manifest
      ∧ manifest.routes = [("/", resolved)]
      ∧ Manifest.layoutOf (.number (.int 2)) = .ok (.lines "  ")
      ∧ IsJson [] (manifest.text (.lines "  ")).toList := by
  intro root leaf route loader
  let resolved : ResolvedRoute :=
    ⟨"/", .page, { revalidate := .after (.int 60), maxDuration := some (.int 30) },
      { revalidate := .after (.int 60) }⟩
  have isResolved : (route.resolve .standard .default []).1 = .ok resolved := by decide +kernel
  have built : (loader.manifest .standard ["/"] .default ⟨(), []⟩).1
      = .ok { routes := [("/", resolved)] } := by
    decide +kernel
  have isLayout : Manifest.layoutOf (.number (.int 2)) = .ok (.lines "  ") := by decide +kernel
  have finite : ∀ number ∈ resolved.policy.numbers, number.IsFinite := by decide
  obtain ⟨routes, manifests⟩ := manifest_isJson_iff .standard .default
  obtain ⟨-, layouts⟩ := manifests Unit loader ["/"] ⟨(), []⟩ _ built
  obtain ⟨-, standard⟩ := layouts _ _ (by rintro _ ⟨⟩) isLayout
  exact ⟨resolved, _, isResolved, rfl, (routes route [] resolved isResolved).2.mp finite,
    built, rfl, isLayout, standard.mpr (List.forall_mem_singleton.mpr finite)⟩

/-- Infinity is accepted from a module, kept in the policy and written into the manifest. -/
theorem manifest_writes_infinity :
    let module : LoadedModule :=
      ⟨none, .moduleObject [("revalidate", .number (.float (.infinite false)))]⟩
    let loader : Loader Unit := ⟨fun _ state => (.ok (.handler ⟨"/", "/", module⟩), state)⟩
    ∃ resolved, ((Route.handler ⟨"/", "/", module⟩).resolve .standard .default []).1 = .ok resolved
      ∧ resolved.policy.revalidate = .after (.float (.infinite false))
      ∧ ∃ manifest, (loader.manifest .standard ["/"] .default ⟨(), []⟩).1 = .ok manifest
        ∧ manifest.routes = [("/", resolved)]
        ∧ ¬IsJson [] (manifest.text Manifest.defaultLayout).toList := by
  intro module loader
  let resolved : ResolvedRoute :=
    ⟨"/", .handler, { revalidate := .after (.float (.infinite false)) },
      { revalidate := .after (.float (.infinite false)) }⟩
  have isResolved :
      ((Route.handler ⟨"/", "/", module⟩).resolve .standard .default []).1 = .ok resolved := by
    decide +kernel
  have built : (loader.manifest .standard ["/"] .default ⟨(), []⟩).1
      = .ok { routes := [("/", resolved)] } := by
    decide +kernel
  have isLayout : Manifest.layoutOf (.number (.int 2)) = .ok Manifest.defaultLayout := by
    decide +kernel
  have blank := Manifest.isBlank_of_layoutOf (by rintro _ ⟨⟩) isLayout
  refine ⟨resolved, isResolved, rfl, _, built, rfl, ?_⟩
  rw [Manifest.isJson_text_iff blank]
  intro finite
  exact finite ("/", resolved) List.mem_cons_self _ List.mem_cons_self

end Loader

end Prerender
