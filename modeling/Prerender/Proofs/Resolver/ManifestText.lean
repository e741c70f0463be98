import Prerender.Proofs.Bindings
import Prerender.Proofs.Json.Reading
import Prerender.Proofs.Resolver.Build

/-!
# What the text of a manifest tells

The JSON form of a resolved route has all that is known of the route but its own id
(`ResolvedRoute.toJson_eq_iff`), and that of a build the routes and the texts of the errors under
their ids. A build binds no id twice (`Loader.distinct_of_manifest`), and the text of a JSON value
determines the value; so two manifests have the same text, in whatever layout, exactly if they agree
on all of this (`Loader.manifest_text_eq_iff`).
-/

namespace Prerender

open Function (Injective)

/-! ### Parts of a route -/

theorem RouteKind.name_injective : Injective RouteKind.name := by
  intro a b same
  cases a <;> cases b <;> first | rfl | exact absurd same (by decide)

theorem RenderMode.name_injective : Injective RenderMode.name := by
  intro a b same
  cases a <;> cases b <;> first | rfl | exact absurd same (by decide)

theorem FetchCache.name_injective : Injective FetchCache.name := by
  intro a b same
  cases a <;> cases b <;> first | rfl | exact absurd same (by decide)

theorem Json.text_injective : Injective Json.text := fun _ _ same => Json.text.inj same

/-- Lists of texts are told apart as JSON. -/
theorem Json.texts_injective : Injective fun texts : List String => Json.array (texts.map .text) :=
  fun _ _ same => Json.text_injective.list_map (Json.array.inj same)

theorem Fallback.toJson_injective : Injective Fallback.toJson := by
  intro a b same
  cases a <;> cases b <;> first | rfl | cases same

theorem Revalidate.toJson_injective : Injective Revalidate.toJson := by
  intro a b same
  cases a <;> cases b <;> cases same <;> rfl

theorem Region.toJson_injective : Injective Region.toJson := by
  intro a b same
  cases a with
  | one name =>
    cases b with
    | one other => rw [Json.text.inj same]
    | several others => cases same
  | several names =>
    cases b with
    | one other => cases same
    | several others => rw [Json.texts_injective same]

theorem ParamValue.toJson_injective : Injective ParamValue.toJson := by
  intro a b same
  cases a with
  | text content =>
    cases b with
    | text other => rw [Json.text.inj same]
    | parts others => cases same
    | absent => cases same
  | parts components =>
    cases b with
    | text other => cases same
    | parts others => rw [Json.texts_injective same]
    | absent => cases same
  | absent =>
    cases b with
    | text other => cases same
    | parts others => cases same
    | absent => rfl

theorem ParamRecord.toJson_injective : Injective ParamRecord.toJson := by
  intro a b same
  have entry : Injective fun binding : String × ParamValue => (binding.1, binding.2.toJson) :=
    fun _ _ same => Prod.ext (Prod.mk.inj same).1 (ParamValue.toJson_injective (Prod.mk.inj same).2)
  exact entry.list_map (Json.object.inj same)

/-- What may be missing is told apart as JSON if what is there is, and is never null. -/
theorem Json.orNull_injective {α : Type} {toJson : α → Json} (injective : Injective toJson)
    (some : ∀ value, toJson value ≠ .null) : Injective (Json.orNull toJson) := by
  intro a b same
  cases a with
  | none =>
    cases b with
    | none => rfl
    | some other => exact absurd same.symm (some other)
  | some value =>
    cases b with
    | none => exact absurd same (some value)
    | some other => rw [injective same]

/-! ### Routes -/

attribute [ext] Policy

/-- A manifest writes two resolved routes alike: they agree in all but their own ids, which it does
not tell, and when paths are made anew, which it tells by the policy. -/
structure ResolvedRoute.WrittenAlike (resolved other : ResolvedRoute) : Prop where
  kind : resolved.kind = other.kind
  policy : resolved.policy = other.policy
  fallback : resolved.staticPaths.fallback = other.staticPaths.fallback
  paths : resolved.staticPaths.paths = other.staticPaths.paths
  pathnames : resolved.staticPaths.pathnames = other.staticPaths.pathnames

/-- The JSON form of a route tells its kind, its policy, its fallback, its paths and their
pathnames. -/
theorem ResolvedRoute.toJson_eq_iff {resolved other : ResolvedRoute} :
    resolved.toJson = other.toJson ↔ resolved.WrittenAlike other := by
  have cacheInjective : Injective (Json.orNull fun mode : FetchCache => .text mode.name) :=
    Json.orNull_injective (Json.text_injective.comp FetchCache.name_injective)
      fun _ => Json.noConfusion
  have regionInjective : Injective (Json.orNull Region.toJson) :=
    Json.orNull_injective Region.toJson_injective fun region => by cases region <;> rintro ⟨⟩
  have durationInjective : Injective (Json.orNull Json.number) :=
    Json.orNull_injective (fun _ _ same => Json.number.inj same) fun _ => Json.noConfusion
  constructor
  · intro same
    simp only [toJson, Json.object.injEq, List.cons.injEq, Prod.mk.injEq, true_and, and_true,
      Json.text.injEq, Json.bool.injEq, Json.array.injEq] at same
    obtain ⟨kind, mode, revalidate, pprEligible, dynamicParams, fetchCache, preferredRegion,
      maxDuration, fallback, paths, pathnames⟩ := same
    exact
      { kind := RouteKind.name_injective kind
        policy := Policy.ext (RenderMode.name_injective mode)
          (Revalidate.toJson_injective revalidate) pprEligible dynamicParams
          (cacheInjective fetchCache) (regionInjective preferredRegion)
          (durationInjective maxDuration)
        fallback := Fallback.toJson_injective fallback
        paths := ParamRecord.toJson_injective.list_map paths
        pathnames := Json.text_injective.list_map pathnames }
  · rintro ⟨kind, policy, fallback, paths, pathnames⟩
    rw [toJson, toJson, kind, policy, fallback, paths, pathnames]

/-! ### Manifests -/

namespace Manifest

/-- A manifest binds no id twice. -/
structure Distinct (manifest : Manifest) : Prop where
  routes : manifest.routes.names.Nodup
  errors : manifest.errors.names.Nodup

/-- Two manifests have the same ids, routes that agree under them, and errors of the same texts. -/
structure Agrees (manifest other : Manifest) : Prop where
  routes : ∀ routeId, Option.Rel ResolvedRoute.WrittenAlike (manifest.routes.lookup? routeId)
    (other.routes.lookup? routeId)
  errors : ∀ routeId, (manifest.errors.lookup? routeId).map (·.text)
    = (other.errors.lookup? routeId).map (·.text)

theorem map_toJson_eq_iff {resolved other : Option ResolvedRoute} :
    resolved.map ResolvedRoute.toJson = other.map ResolvedRoute.toJson
      ↔ Option.Rel ResolvedRoute.WrittenAlike resolved other := by
  cases resolved <;> cases other <;> simp [ResolvedRoute.toJson_eq_iff]

variable {manifest other : Manifest}

/-- The text of a manifest that binds no id twice tells what it binds. -/
theorem text_eq_iff (distinct : manifest.Distinct) (otherDistinct : other.Distinct)
    (layout : Json.Layout) : manifest.text layout = other.text layout ↔ manifest.Agrees other := by
  have errors : ∀ error otherError : Option Failure,
      error.map (fun error => Json.text error.text) = otherError.map (fun error => .text error.text)
        ↔ error.map (·.text) = otherError.map (·.text) := by
    intro error otherError
    cases error <;> cases otherError <;> simp
  have values : manifest.toJson = other.toJson ↔ manifest.Agrees other := by
    simp only [toJson, Json.object.injEq, List.cons.injEq, Prod.mk.injEq, true_and, and_true]
    refine (and_congr
      (Bindings.map_sorted_eq_iff _ distinct.routes otherDistinct.routes)
      (Bindings.map_sorted_eq_iff (fun error : Failure => Json.text error.text) distinct.errors
        otherDistinct.errors)).trans ?_
    simp only [map_toJson_eq_iff, errors]
    exact ⟨fun agrees => ⟨agrees.1, agrees.2⟩, fun agrees => ⟨agrees.routes, agrees.errors⟩⟩
  rw [← values]
  exact ⟨Json.render_injective, fun same => by rw [text, text, same]⟩

theorem Distinct.file (distinct : manifest.Distinct) (routeId : String) (outcome : Outcome) :
    (manifest.file routeId outcome).Distinct := by
  cases outcome with
  | ok resolved => exact ⟨Bindings.nodup_names_assign distinct.routes _ _, distinct.errors⟩
  | error report => exact ⟨distinct.routes, Bindings.nodup_names_assign distinct.errors _ _⟩

end Manifest

/-! ### Builds -/

namespace Loader

variable {σ τ : Type}

/-- A build files each id at most once among the routes and at most once among the errors. -/
theorem distinct_of_manifestFrom {loader : Loader σ} {tasks : TaskLibrary}
    {config : ResolverConfig} {manifest last : Manifest} {routeIds : List String}
    {session : Session σ} (distinct : manifest.Distinct)
    (built : (loader.manifestFrom tasks config manifest routeIds session).1 = .ok last) :
    last.Distinct := by
  induction routeIds generalizing manifest session with
  | nil =>
    cases built
    exact distinct
  | cons routeId rest ih =>
    rcases Outcome.cases (loader.resolve tasks routeId config session).1 with
      ⟨outcome, resolved⟩ | ⟨crash, crashed⟩
    · rw [manifestFrom_cons_of_outcome resolved] at built
      exact ih (distinct.file routeId outcome) built
    · rw [manifestFrom_cons_of_crash crashed] at built
      cases built

theorem distinct_of_manifest {loader : Loader σ} {tasks : TaskLibrary} {config : ResolverConfig}
    {manifest : Manifest} {routeIds : List String} {session : Session σ}
    (built : (loader.manifest tasks routeIds config session).1 = .ok manifest) :
    manifest.Distinct := by
  have empty : Manifest.Distinct {} := ⟨List.nodup_nil, List.nodup_nil⟩
  exact distinct_of_manifestFrom empty built

/-- Two manifests that builds have returned have the same text in a layout exactly if they agree:
the same ids are among the routes and among the errors, the routes under each id have one kind,
policy, fallback, list of paths and list of pathnames, and the errors under each id have one
text. -/
theorem manifest_text_eq_iff {loader : Loader σ} {tasks : TaskLibrary} {routeIds : List String}
    {config : ResolverConfig} {session : Session σ} {manifest : Manifest}
    (built : (loader.manifest tasks routeIds config session).1 = .ok manifest)
    {otherLoader : Loader τ} {otherTasks : TaskLibrary} {otherIds : List String}
    {otherConfig : ResolverConfig} {otherSession : Session τ} {other : Manifest}
    (otherBuilt : (otherLoader.manifest otherTasks otherIds otherConfig otherSession).1 = .ok other)
    (layout : Json.Layout) :
    manifest.text layout = other.text layout ↔ manifest.Agrees other :=
  Manifest.text_eq_iff (distinct_of_manifest built) (distinct_of_manifest otherBuilt) layout

/-- A route that goes by another id than the one it is filed under: its own id is not told. -/
theorem manifest_text_eq_iff_home :
    let serving (name : String) : Loader Unit :=
      ⟨fun _ state => (.ok (.handler ⟨name, "/", ⟨none, .none⟩⟩), state)⟩
    ∃ manifest other, ((serving "/").manifest .standard ["/"] .default ⟨(), []⟩).1 = .ok manifest
      ∧ ((serving "home").manifest .standard ["/"] .default ⟨(), []⟩).1 = .ok other
      ∧ manifest ≠ other
      ∧ manifest.text Manifest.defaultLayout = other.text Manifest.defaultLayout := by
  intro serving
  have built : ((serving "/").manifest .standard ["/"] .default ⟨(), []⟩).1
      = .ok { routes := [("/", ⟨"/", .handler, {}, { revalidate := .never }⟩)] } := by
    decide +kernel
  have otherBuilt : ((serving "home").manifest .standard ["/"] .default ⟨(), []⟩).1
      = .ok { routes := [("/", ⟨"home", .handler, {}, { revalidate := .never }⟩)] } := by
    decide +kernel
  refine ⟨_, _, built, otherBuilt, by decide, ?_⟩
  refine (manifest_text_eq_iff built otherBuilt _).mpr ⟨fun routeId => ?_, fun _ => rfl⟩
  simp only [Bindings.lookup?]
  split
  · exact .some ⟨rfl, rfl, rfl, rfl, rfl⟩
  · exact .none

end Loader

end Prerender
