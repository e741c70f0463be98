import Prerender.Proofs.Files.Directories
import Prerender.Proofs.Files.Discovery
import Prerender.Proofs.Resolver.Independence

/-!
# What a loader remembers does not show

While a directory stays as it is, all that a loader remembers of it is what it would find there now
(`Loading.Faithful`): discovery that succeeded would succeed again in the same way, and a module
that is kept has the exports that executing its file now would give it. A step behind such a memory
ends as it does behind none (`Loading.Settles`), and leaves such a memory. So every request to a
loader ends as it would on a loader that was opened just then
(`DirectoryKind.requests_transparent`), and the order of requests does not show.
-/

namespace Prerender

namespace Loading

variable {α β γ : Type}

/-! ### Memories -/

/-- What a loader remembers is what it would find now. -/
structure Faithful (discover : Except Raised (Bindings α)) (here : Place)
    (state : LoaderState α) : Prop where
  found : ∀ found, state.found = some found → discover = .ok found
  modules : ∀ kept ∈ state.modules.modules,
    ∃ source, here.find kept.1 = .present (.file source) ∧ source.raised = none
      ∧ kept.2 = .moduleObject source.exports

variable {discover : Except Raised (Bindings α)} {root : String} {here : Place}
  {file : TreePath}

/-- A loader that remembers nothing. -/
theorem Faithful.fresh : Faithful discover here {} where
  found := by rintro _ ⟨⟩
  modules := fun _ member => absurd member List.not_mem_nil

/-- What loading a module gives where no module is kept. -/
def moduleAt (root : String) (here : Place) (file : TreePath) :
    Except Raised (Option LoadedModule) :=
  (ModuleCache.load root here file {}).1

theorem moduleAt_of_absent (noFile : ∀ source, here.find file ≠ .present (.file source)) :
    moduleAt root here file = .ok none := by
  unfold moduleAt ModuleCache.load
  split
  · next source stands => exact absurd stands (noFile source)
  · rfl

theorem moduleAt_of_fine {source : ModuleSource}
    (stands : here.find file = .present (.file source)) (fine : source.raised = none) :
    moduleAt root here file
      = .ok (some ⟨some (file.shown root), .moduleObject source.exports⟩) := by
  simp only [moduleAt, ModuleCache.load, stands, fine]
  rfl

theorem moduleAt_of_raised {source : ModuleSource} {raised : Raised}
    (stands : here.find file = .present (.file source)) (raises : source.raised = some raised) :
    moduleAt root here file = .error (ModuleCache.importRaised root file raised) := by
  simp only [moduleAt, ModuleCache.load, stands, raises]
  rfl

/-- Behind every faithful memory a step ends in one way, and leaves a faithful memory. -/
def Settles (discover : Except Raised (Bindings α)) (here : Place) (step : Loading α β)
    (result : Except Raised β) : Prop :=
  ∀ state, Faithful discover here state →
    (step.outcome state).1 = result ∧ Faithful discover here (step.outcome state).2

namespace Settles

theorem pure (value : β) :
    Settles discover here (Pure.pure value : Loading α β) (.ok value) :=
  fun _ faithful => ⟨rfl, faithful⟩

theorem throw (raised : Raised) :
    Settles discover here (MonadExcept.throw raised : Loading α β) (.error raised) :=
  fun _ faithful => ⟨rfl, faithful⟩

theorem bind {step : Loading α β} {next : β → Loading α γ} {result : Except Raised β}
    {after : β → Except Raised γ} (first : Settles discover here step result)
    (behind : ∀ value, result = .ok value → Settles discover here (next value) (after value)) :
    Settles discover here (step >>= next) (result >>= after) := by
  intro state faithful
  obtain ⟨ended, kept⟩ := first state faithful
  rw [outcome_bind]
  generalize step.outcome state = run at ended kept ⊢
  obtain ⟨outcome, between⟩ := run
  obtain rfl : outcome = result := ended
  cases outcome with
  | error raised => exact ⟨rfl, kept⟩
  | ok value => exact behind value rfl between kept

/-- Discovery gives what it gives now, remembered or not. -/
theorem discovered : Settles discover here (Loading.discovered discover) discover := by
  intro state faithful
  rw [outcome_discovered]
  cases remembered : state.found with
  | some found => exact ⟨(faithful.found found remembered).symm, faithful⟩
  | none =>
    cases discover with
    | error raised => exact ⟨rfl, faithful⟩
    | ok found =>
      refine ⟨rfl, ?_, faithful.modules⟩
      rintro _ ⟨⟩
      rfl

/-- Loading a module gives what executing its file gives now, whether or not it is kept. -/
theorem module (file : TreePath) :
    Settles discover here (Loading.module root here file) (moduleAt root here file) := by
  intro state faithful
  rw [outcome_module]
  have ending := ModuleCache.load_ending root here file state.modules
  generalize state.modules.load root here file = run at ending ⊢
  cases ending with
  | absent noFile =>
    rw [moduleAt_of_absent noFile]
    exact ⟨rfl, faithful⟩
  | @kept source exports stands remembered =>
    obtain ⟨other, there, fine, rfl⟩ :=
      faithful.modules _ (ModuleCache.mem_of_exports? remembered)
    rw [moduleAt_of_fine there fine]
    exact ⟨rfl, faithful⟩
  | executed stands new fine =>
    rw [moduleAt_of_fine stands fine]
    refine ⟨rfl, faithful.found, List.forall_mem_append.mpr ⟨faithful.modules, ?_⟩⟩
    exact List.forall_mem_singleton.mpr ⟨_, stands, fine, rfl⟩
  | raised stands new raises =>
    rw [moduleAt_of_raised stands raises]
    exact ⟨rfl, faithful.found, faithful.modules⟩

end Settles

namespace Composed

variable {modules : β → List LoadedModule} {atHand : List LoadedModule} {step : Loading α β}
  {state : LoaderState α}

/-- Every composed step settles. -/
theorem settles (composed : Composed discover root here modules atHand step) :
    ∃ result, Settles discover here step result := by
  induction composed with
  | pure _ => exact ⟨_, .pure _⟩
  | throw raised => exact ⟨_, .throw raised⟩
  | discovered _ ih =>
    choose result settled using ih
    exact ⟨_, Settles.discovered.bind fun found _ => settled found⟩
  | module file _ ih =>
    choose result settled using ih
    exact ⟨_, (Settles.module file).bind fun loaded _ => settled loaded⟩

/-- Behind a faithful memory, a composed step ends as it does behind none. -/
theorem outcome_fst (composed : Composed discover root here modules atHand step)
    (faithful : Faithful discover here state) :
    (step.outcome state).1 = (step.outcome {}).1 := by
  obtain ⟨result, settled⟩ := composed.settles
  rw [(settled state faithful).1, (settled {} (.fresh)).1]

theorem keeps_faithful (composed : Composed discover root here modules atHand step)
    (faithful : Faithful discover here state) :
    Faithful discover here (step.outcome state).2 := by
  obtain ⟨result, settled⟩ := composed.settles
  exact (settled state faithful).2

end Composed

end Loading

/-! ### Loaders -/

namespace DirectoryKind

open Loading (Faithful)

variable {kind : DirectoryKind} {root : String} {here : Place}

theorem load_fst {state : LoaderState kind.Found}
    (faithful : Faithful (kind.discover root here) here state) (routeId : String) :
    ((kind.loader root here).load routeId state).1
      = ((kind.loader root here).load routeId {}).1 := by
  rw [loader_load, loader_load]
  exact (kind.load_composed root here routeId).outcome_fst faithful

theorem load_faithful {state : LoaderState kind.Found}
    (faithful : Faithful (kind.discover root here) here state) (routeId : String) :
    Faithful (kind.discover root here) here ((kind.loader root here).load routeId state).2 := by
  rw [loader_load]
  exact (kind.load_composed root here routeId).keeps_faithful faithful

/-- Listing the ids gives those of the routes that are discovered, in order. -/
theorem routeIds_settles (kind : DirectoryKind) (root : String) (here : Place) :
    Loading.Settles (kind.discover root here) here (kind.routeIds root here)
      ((kind.discover root here).map (·.sorted.names)) := by
  have listed : Loading.Settles (kind.discover root here) here (kind.routeIds root here)
      (kind.discover root here >>= fun routes => .ok routes.sorted.names) := by
    cases kind with
    | app => exact Loading.Settles.discovered.bind fun _ _ => .pure _
    | pages => exact Loading.Settles.discovered.bind fun _ _ => .pure _
  have mapped : (kind.discover root here >>= fun routes => .ok routes.sorted.names)
      = (kind.discover root here).map (·.sorted.names) := by
    cases kind.discover root here <;> rfl
  rwa [← mapped]

/-- While the directory stays as it is, a request leaves a faithful memory. -/
theorem perform_faithful {session : Session (LoaderState kind.Found)}
    (faithful : Faithful (kind.discover root here) here session.loader) (request : Request) :
    Faithful (kind.discover root here) here (kind.perform root here session request).loader := by
  obtain ⟨_, _, _, composed, same⟩ := kind.perform_composed root here session request
  rw [same]
  exact composed.keeps_faithful faithful

/-- While the directory stays as it is, so do any requests. -/
theorem requests_faithful {session : Session (LoaderState kind.Found)}
    (faithful : Faithful (kind.discover root here) here session.loader) (requests : List Request) :
    Faithful (kind.discover root here) here
      (requests.foldl (kind.perform root here) session).loader := by
  induction requests generalizing session with
  | nil => exact faithful
  | cons request rest ih => exact ih (perform_faithful faithful request)

/-- Behind any requests to a loader of a directory that stays as it is, listing the ids and loading
a route end as they do on a loader that was just opened. So does every resolution in a build,
behind the same calls of the routes' functions; and if those functions answer by their arguments
alone, the outcomes of a build are those of resolving each route on a loader of its own, in
whatever order the ids are. -/
theorem requests_transparent {fresh : LoaderState kind.Found}
    (opened : kind.openAt root here = .ok fresh) (requests : List Request) :
    let loader := kind.loader root here
    let session := requests.foldl (kind.perform root here) ⟨fresh, []⟩
    ((kind.routeIds root here).outcome session.loader).1
        = ((kind.routeIds root here).outcome fresh).1
      ∧ (∀ routeId, (loader.load routeId session.loader).1 = (loader.load routeId fresh).1)
      ∧ ∀ tasks config routeIds,
          (∀ visit ∈ loader.visits tasks config routeIds session,
            (loader.resolve tasks visit.1 config visit.2).1
              = (loader.resolve tasks visit.1 config ⟨fresh, visit.2.calls⟩).1)
          ∧ ((∀ routeId ∈ routeIds, ∀ route, (loader.load routeId fresh).1 = .ok route →
                route.Memoryless) →
              loader.outcomes tasks config routeIds session
                  = routeIds.map (fun routeId =>
                      (routeId, (loader.resolve tasks routeId config ⟨fresh, []⟩).1))
                ∧ ∀ others, (∀ routeId, routeId ∈ others ↔ routeId ∈ routeIds) →
                    ∀ outcome, outcome ∈ loader.outcomes tasks config others session
                      ↔ outcome ∈ loader.outcomes tasks config routeIds session) := by
  obtain rfl := eq_of_openAt opened
  intro loader session
  have faithful : Faithful (kind.discover root here) here session.loader :=
    requests_faithful .fresh requests
  have atVisits : ∀ tasks config routeIds, ∀ visit ∈ loader.visits tasks config routeIds session,
      Faithful (kind.discover root here) here visit.2.loader := fun tasks config routeIds =>
    Loader.forall_mem_visits (P := Faithful (kind.discover root here) here)
      (fun routeId _ before => load_faithful before routeId) faithful
  refine ⟨(kind.routeIds_composed root here).outcome_fst faithful,
    fun routeId => load_fst faithful routeId,
    fun tasks config routeIds => ⟨?_, fun memoryless => ?_⟩⟩
  · intro visit isVisit
    exact Loader.resolve_fst_of_load_fst
      (load_fst (atVisits tasks config routeIds visit isVisit) visit.1) fun _ _ => rfl
  · -- A resolution is settled by its id alone: both the load and the functions of the route are.
    have settled : ∀ others, (∀ routeId ∈ others, routeId ∈ routeIds) →
        loader.outcomes tasks config others session
          = others.map fun routeId =>
              (routeId, (loader.resolve tasks routeId config ⟨{}, []⟩).1) := by
      intro others among
      refine Loader.outcomes_eq_map fun visit isVisit => ?_
      have asked : visit.1 ∈ others := by
        rw [← loader.map_fst_visits tasks config others session]
        exact List.mem_map_of_mem isVisit
      have loads := load_fst (atVisits tasks config others visit isVisit) visit.1
      refine Loader.resolve_fst_of_load_fst loads fun route loaded => ?_
      exact (memoryless visit.1 (among _ asked) route (loads.symm.trans loaded)).resolve_fst
        tasks config visit.2.calls []
    have whole := settled routeIds fun _ member => member
    refine ⟨whole, fun others same outcome => ?_⟩
    rw [settled others fun routeId => (same routeId).mp, whole, List.mem_map, List.mem_map]
    simp only [same]

open AppDirectory in
theorem requests_transparent_broken :
    let module : FileTree := .file ⟨[], none⟩
    let broken : FileTree := .file ⟨[], some (.crash (.stated .value "no"))⟩
    let here : Place := .present (.directory
      [("broken", .directory [(pageFile, broken)]), (layoutFile, module), (pageFile, module)])
    let root : TreeNode :=
      ⟨"", some ⟨some "app/layout.py", .moduleObject []⟩, none,
        [(primaryBranch, leaf (some ⟨some "app/page.py", .moduleObject []⟩))]⟩
    let loader := DirectoryKind.app.loader "app" here
    let session :=
      [.load "/broken", .load "/"].foldl (DirectoryKind.app.perform "app" here) ⟨{}, []⟩
    (loader.load "/" session.loader).1 = .ok (.page ⟨"/", "/", root⟩)
      ∧ (∃ report, (loader.load "/broken" session.loader).1 = .error (.failure report))
      ∧ ∀ outcome, outcome ∈ loader.outcomes .standard .default ["/broken", "/"] session
          ↔ outcome ∈ loader.outcomes .standard .default ["/", "/broken"] session := by
  intro module broken here root loader session
  have opened : DirectoryKind.app.openAt "app" here = .ok {} := rfl
  have found : AppDirectory.discover "app" here
      = .ok [("/", ⟨[], true⟩), ("/broken", ⟨["broken"], true⟩)] := by
    rw [discover_of_ordered (by decide)]
    decide +kernel
  have loaded : (loader.load "/" {}).1 = .ok (.page ⟨"/", "/", root⟩) := by
    have single : loadBranches "app" here [] = pure [] := loadBranches_eq_nil rfl (by decide)
    simp only [loader, DirectoryKind.loader, AppDirectory.loader, AppDirectory.load,
      Loading.outcome_bind, Loading.outcome_discovered, found, Bindings.lookup?, if_true, loadTree,
      levels, List.length_nil, List.range, List.range.loop, List.map, List.reverse,
      List.reverseAux, List.take, List.foldlM, loadLevel, single]
    rfl
  have raised : ∃ report, (loader.load "/broken" {}).1 = .error (.failure report) := by
    simp only [loader, DirectoryKind.loader, AppDirectory.loader, AppDirectory.load,
      Loading.outcome_bind, Loading.outcome_discovered, found]
    exact ⟨_, rfl⟩
  have memoryless : ∀ routeId ∈ ["/", "/broken"], ∀ route,
      (loader.load routeId {}).1 = .ok route → route.Memoryless := by
    have plain : (Route.page ⟨"/", "/", root⟩).chain.map
        (fun chain => chain.all fun segment => segment.generator.isNone) = .ok true := by
      decide +kernel
    rw [List.forall_mem_cons, List.forall_mem_singleton, loaded, raised.choose_spec]
    refine ⟨?_, by rintro _ ⟨⟩⟩
    rintro _ ⟨⟩
    refine ⟨fun chain collected segment member function generates => ?_, by rintro _ ⟨⟩⟩
    rw [collected] at plain
    have silent := List.all_eq_true.mp (Except.ok.inj plain) segment member
    rw [generates] at silent
    cases silent
  obtain ⟨-, alike, builds⟩ := requests_transparent opened [.load "/broken", .load "/"]
  obtain ⟨-, ordered⟩ := builds .standard .default ["/", "/broken"]
  refine ⟨(alike "/").trans loaded, ?_, (ordered memoryless).2 _ (by simp [or_comm])⟩
  rw [alike "/broken"]
  exact raised

end DirectoryKind

end Prerender
