import Prerender.Proofs.Bindings
import Prerender.Proofs.Resolver.Build
import Prerender.Proofs.Resolver.Independence

/-!
# Builds in any order

Where nothing has a memory, a manifest files under each id what resolving the route alone gives
(`Manifest.Files`), so the routes of a build are independent, and neither their order nor
repetitions show in its text (`Loader.manifest_independent`). Functions with a memory are another
matter: a build that resolves a route twice files what the second answers give
(`Loader.manifest_of_counting`).
-/

namespace Prerender

/-! ### Filing -/

namespace Manifest

/-- A manifest files the results for some ids, and nothing else. -/
structure Files (manifest : Manifest) (result : String → Except Raised ResolvedRoute)
    (routeIds : List String) : Prop where
  routes : manifest.routes.Holds (fun routeId => (result routeId).toOption) routeIds
  errors : manifest.errors.Holds (fun routeId => reported? (result routeId)) routeIds

variable {manifest : Manifest} {result : String → Except Raised ResolvedRoute}
  {routeIds : List String}

theorem files_nil (result : String → Except Raised ResolvedRoute) : Files {} result [] :=
  ⟨Bindings.holds_nil _, Bindings.holds_nil _⟩

/-- Filing the outcome of a route goes on with its id. -/
theorem Files.file (files : manifest.Files result routeIds) {routeId : String}
    {outcome : Outcome} (answered : result routeId = outcome.raised) :
    (manifest.file routeId outcome).Files result (routeIds ++ [routeId]) := by
  cases outcome with
  | ok resolved =>
    have succeeds : result routeId = .ok resolved := answered
    exact ⟨files.routes.assign (by rw [succeeds]; rfl), files.errors.skip (by rw [succeeds]; rfl)⟩
  | error report =>
    have fails : result routeId = .error (.failure report) := answered
    exact ⟨files.routes.skip (by rw [fails]; rfl), files.errors.assign (by rw [fails]; rfl)⟩

/-- The text of a manifest shows neither the order of the ids nor repetitions. -/
theorem Files.toJson_eq (files : manifest.Files result routeIds) {other : Manifest}
    {others : List String} (filesOther : other.Files result others)
    (same : ∀ routeId, routeId ∈ others ↔ routeId ∈ routeIds) :
    other.toJson = manifest.toJson := by
  rw [toJson, toJson, files.routes.sorted_eq filesOther.routes same,
    files.errors.sorted_eq filesOther.errors same]

end Manifest

/-! ### Builds -/

namespace Loader

variable {σ : Type} {loader : Loader σ} {tasks : TaskLibrary} {config : ResolverConfig}

/-- A build files the results of its routes, if these are the same at any time. -/
theorem manifestFrom_files {result : String → Except Raised ResolvedRoute}
    (settled : ∀ routeId session, (loader.resolve tasks routeId config session).1 = result routeId)
    {manifest last : Manifest} {seen routeIds : List String}
    (files : manifest.Files result seen) {session : Session σ}
    (built : (loader.manifestFrom tasks config manifest routeIds session).1 = .ok last) :
    last.Files result (seen ++ routeIds) := by
  -- Each visit moves one id from those to come to those that are filed.
  induction routeIds generalizing manifest seen session with
  | nil =>
    cases built
    rw [List.append_nil]
    exact files
  | cons routeId rest ih =>
    rcases Outcome.cases (loader.resolve tasks routeId config session).1 with
      ⟨outcome, resolved⟩ | ⟨crash, crashed⟩
    · rw [manifestFrom_cons_of_outcome resolved] at built
      have answered : result routeId = outcome.raised :=
        (settled routeId session).symm.trans resolved
      have filed := ih (files.file answered) built
      rwa [List.append_assoc, List.singleton_append] at filed
    · rw [manifestFrom_cons_of_crash crashed] at built
      cases built

/-- A build gets to the end exactly if no result for one of its ids is an exception. -/
theorem manifest_isOk_iff_of_settled {result : String → Except Raised ResolvedRoute}
    (settled : ∀ routeId session, (loader.resolve tasks routeId config session).1 = result routeId)
    {routeIds : List String} {session : Session σ} :
    (∃ manifest, (loader.manifest tasks routeIds config session).1 = .ok manifest)
      ↔ ∀ routeId ∈ routeIds, ∀ crash, result routeId ≠ .error (.crash crash) := by
  rw [manifest, manifestFrom_isOk_iff, ← loader.map_fst_visits tasks config routeIds session,
    List.forall_mem_map, map_fst_visits]
  simp only [settled]

/-- In a build without a memory in which no exception gets out: a route is filed under an id exactly
if the id is one of the build and resolving it alone gives that route, and likewise a reported
error; and every build of the same ids, in any order and with any repetitions, has a manifest of
the same text. -/
theorem manifest_independent (memoryless : loader.Memoryless) {routeIds : List String}
    {session : Session σ} {manifest : Manifest}
    (built : (loader.manifest tasks routeIds config session).1 = .ok manifest) :
    (∀ alone routeId resolved, manifest.routes.lookup? routeId = some resolved
        ↔ routeId ∈ routeIds ∧ (loader.resolve tasks routeId config alone).1 = .ok resolved)
      ∧ (∀ alone routeId report, manifest.errors.lookup? routeId = some report
        ↔ routeId ∈ routeIds
          ∧ (loader.resolve tasks routeId config alone).1 = .error (.failure report))
      ∧ ∀ others start, (∀ routeId, routeId ∈ others ↔ routeId ∈ routeIds) →
          ∃ other, (loader.manifest tasks others config start).1 = .ok other
            ∧ other.toJson = manifest.toJson
            ∧ ∀ layout, other.text layout = manifest.text layout
              ∧ other.write layout = manifest.write layout := by
  have settled : ∀ routeId any, (loader.resolve tasks routeId config any).1
      = (loader.resolve tasks routeId config session).1 :=
    fun routeId any => resolve_fst memoryless tasks routeId config any session
  have files := manifestFrom_files settled (Manifest.files_nil _) built
  rw [List.nil_append] at files
  refine ⟨?_, ?_, ?_⟩
  · intro alone routeId resolved
    rw [files.routes.lookup?_eq_some_iff, toOption_eq_some_iff, settled routeId alone]
  · intro alone routeId report
    rw [files.errors.lookup?_eq_some_iff, reported?_eq_some_iff, settled routeId alone]
  · intro others start same
    have fine := (manifest_isOk_iff_of_settled settled).mp ⟨manifest, built⟩
    obtain ⟨other, builtOther⟩ :
        ∃ other, (loader.manifest tasks others config start).1 = .ok other :=
      (manifest_isOk_iff_of_settled settled).mpr fun routeId member =>
        fine routeId ((same routeId).mp member)
    have filesOther := manifestFrom_files settled (Manifest.files_nil _) builtOther
    rw [List.nil_append] at filesOther
    have sameJson := files.toJson_eq filesOther same
    refine ⟨other, builtOther, sameJson, ?_⟩
    intro layout
    have sameText : other.text layout = manifest.text layout := by
      rw [Manifest.text, Manifest.text, sameJson]
    exact ⟨sameText, by rw [Manifest.write, Manifest.write, sameJson, sameText]⟩

theorem manifest_independent_repeated :
    let page : ListedPage :=
      ⟨"/[slug]", "/[slug]", ⟨none, .moduleObject
        [(pathsFunctionName, .function "paths" fun _ _ => .ok (.mapping
          [(.text "paths", .list [.text "/a"]), (.text "fallback", .bool false)]))]⟩⟩
    let loader : Loader Unit :=
      ⟨fun routeId state =>
        (if routeId = "/[slug]" then .ok (.listed page) else .error (.crash (.stated .os "gone")),
          state)⟩
    ∃ manifest,
      (loader.manifest .standard ["/b", "/[slug]", "/b"] .default ⟨(), []⟩).1 = .ok manifest
        ∧ manifest.routes.names = ["/[slug]"] ∧ manifest.errors.names = ["/b"]
        ∧ ∃ other, (loader.manifest .standard ["/[slug]", "/b"] .default ⟨(), []⟩).1 = .ok other
          ∧ ∀ layout, other.text layout = manifest.text layout := by
  intro page loader
  have pageMemoryless : page.Memoryless := by
    rintro function exported locales calls
    obtain rfl := Option.some.inj exported
    rfl
  have memoryless : loader.Memoryless := by
    refine ⟨fun _ _ _ => rfl, ?_⟩
    intro routeId state route loaded
    simp only [loader] at loaded
    split at loaded
    · cases loaded
      refine ⟨by rintro _ ⟨⟩, ?_⟩
      rintro _ ⟨⟩
      exact pageMemoryless
    · cases loaded
  have shown : ((loader.manifest .standard ["/b", "/[slug]", "/b"] .default ⟨(), []⟩).1.map
      fun manifest => (manifest.routes.names, manifest.errors.names))
        = .ok (["/[slug]"], ["/b"]) := by
    decide +kernel
  obtain ⟨manifest, built, names⟩ := Except.map_eq_ok_iff.mp shown
  obtain ⟨-, -, ordered⟩ := manifest_independent memoryless built
  obtain ⟨other, builtOther, -, text⟩ := ordered ["/[slug]", "/b"] ⟨(), []⟩ (by simp [or_comm])
  exact ⟨manifest, built, congrArg Prod.fst names, congrArg Prod.snd names, other, builtOther,
    fun layout => (text layout).1⟩

/-- A loader answers by the id alone, but the path function of its page counts its calls: a build
that resolves the page twice files the paths of the second listing, and resolving the page alone
gives those of the first. -/
theorem manifest_of_counting :
    let listing (url : String) : Value := .mapping
      [(.text "paths", .list [.text url]), (.text "fallback", .bool false)]
    let page : ListedPage :=
      ⟨"/[slug]", "/[slug]", ⟨none, .moduleObject [(pathsFunctionName, .function "paths"
        fun calls _ => .ok (listing (if calls.isEmpty then "/a" else "/b")))]⟩⟩
    let loader : Loader Unit := ⟨fun _ state => (.ok (.listed page), state)⟩
    (∀ routeId state other, (loader.load routeId state).1 = (loader.load routeId other).1)
      ∧ ∃ manifest filed alone,
        (loader.manifest .standard ["/[slug]", "/[slug]"] .default ⟨(), []⟩).1 = .ok manifest
          ∧ manifest.routes.lookup? "/[slug]" = some filed
          ∧ filed.staticPaths.pathnames = ["/b"]
          ∧ (loader.resolve .standard "/[slug]" .default ⟨(), []⟩).1 = .ok alone
          ∧ alone.staticPaths.pathnames = ["/a"] := by
  intro listing page loader
  refine ⟨fun _ _ _ => rfl, ?_⟩
  have shown : ((loader.manifest .standard ["/[slug]", "/[slug]"] .default ⟨(), []⟩).1.map
      fun manifest => (manifest.routes.lookup? "/[slug]").map (·.staticPaths.pathnames))
        = .ok (some ["/b"]) := by
    decide +kernel
  have resolved : ((loader.resolve .standard "/[slug]" .default ⟨(), []⟩).1.map
      (·.staticPaths.pathnames)) = .ok ["/a"] := by
    decide +kernel
  obtain ⟨manifest, built, holds⟩ := Except.map_eq_ok_iff.mp shown
  obtain ⟨filed, found, pathnames⟩ := Option.map_eq_some_iff.mp holds
  obtain ⟨alone, only, alonePathnames⟩ := Except.map_eq_ok_iff.mp resolved
  exact ⟨manifest, filed, alone, built, found, pathnames, only, alonePathnames⟩

end Loader

end Prerender
