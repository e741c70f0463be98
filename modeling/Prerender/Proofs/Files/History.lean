import Prerender.Proofs.Files.Directories
import Prerender.Proofs.Files.Discovery

/-!
# What a loader has executed

Files may be written and deleted while a loader is in use, so what it executes is recorded together
with what stood there then (`Execution`). However the files change between the requests to a
loader (`Moment`, `DirectoryKind.history`), its modules are the successful executions of its log,
in order, and no file is among these twice (`Recorded`): one step adds to the log what it executes
(`Grows`), an execution that raises ends it and leaves no module, and whatever a route that it
returns is made of is a module by then (`Composed.modules_kept`).

The main statement is `DirectoryKind.executed_once`.
-/

namespace Prerender

/-! ### Executions -/

/-- An execution of a file, with what stood there at the time. -/
structure Execution where
  file : TreePath
  source : ModuleSource

namespace Execution

/-- Whether nothing was raised. -/
def succeeded (execution : Execution) : Bool :=
  execution.source.raised.isNone

/-- The exports of the module that came of an execution. -/
def exports (execution : Execution) : Value :=
  .moduleObject execution.source.exports

/-- The exports that are kept of some executions, by file. -/
def kept (log : List Execution) : List (TreePath × Value) :=
  (log.filter (·.succeeded)).map fun execution => (execution.file, execution.exports)

theorem kept_append (log new : List Execution) : kept (log ++ new) = kept log ++ kept new := by
  rw [kept, List.filter_append, List.map_append, kept, kept]

theorem kept_of_fine {file : TreePath} {source : ModuleSource} (fine : source.raised = none) :
    kept [⟨file, source⟩] = [(file, .moduleObject source.exports)] := by
  simp [kept, succeeded, exports, fine]

theorem kept_of_raised {file : TreePath} {source : ModuleSource} {raised : Raised}
    (raises : source.raised = some raised) : kept [⟨file, source⟩] = [] := by
  simp [kept, succeeded, raises]

theorem mem_kept_iff {log : List Execution} {file : TreePath} {exports : Value} :
    (file, exports) ∈ kept log
      ↔ ∃ execution ∈ log, execution.succeeded = true ∧ execution.file = file
          ∧ execution.exports = exports := by
  simp only [kept, List.mem_map, List.mem_filter, Prod.mk.injEq, and_assoc]

end Execution

namespace ModuleCache

/-- The executions between two states of the modules, while nothing changes on disk. -/
def executions (here : Place) (before after : ModuleCache) : List Execution :=
  (after.executed.drop before.executed.length).filterMap fun file =>
    match here.find file with
    | .present (.file source) => some ⟨file, source⟩
    | _ => none

/-- The modules of a loader are the successful executions of a log, and no file has two. -/
structure Recorded (log : List Execution) (cache : ModuleCache) : Prop where
  executed : cache.executed = log.map (·.file)
  modules : cache.modules = Execution.kept log
  distinct : (cache.modules.map (·.1)).Nodup

/-- Some files that stand here were executed: they are behind those executed before, and the
exports of those that succeeded are behind those kept before, none of them for a file that had
some. -/
structure Grows (here : Place) (before : ModuleCache) (new : List Execution)
    (after : ModuleCache) : Prop where
  executed : after.executed = before.executed ++ new.map (·.file)
  modules : after.modules = before.modules ++ Execution.kept new
  stand : ∀ execution ∈ new, here.find execution.file = .present (.file execution.source)
  distinct : (before.modules.map (·.1)).Nodup → (after.modules.map (·.1)).Nodup

/-- A module is kept of a file that stands here. -/
def Kept (root : String) (here : Place) (cache : ModuleCache) (module : LoadedModule) : Prop :=
  ∃ file source exports, here.find file = .present (.file source)
    ∧ (file, exports) ∈ cache.modules ∧ module = ⟨some (file.shown root), exports⟩

variable {root : String} {here : Place} {before between after cache : ModuleCache}
  {log new more : List Execution}

theorem Grows.refl (here : Place) (cache : ModuleCache) : Grows here cache [] cache where
  executed := (List.append_nil _).symm
  modules := (List.append_nil _).symm
  stand := fun _ member => absurd member List.not_mem_nil
  distinct := id

theorem Grows.trans (first : Grows here before new between)
    (second : Grows here between more after) : Grows here before (new ++ more) after where
  executed := by
    rw [second.executed, first.executed, List.map_append, List.append_assoc]
  modules := by
    rw [second.modules, first.modules, Execution.kept_append, List.append_assoc]
  stand := List.forall_mem_append.mpr ⟨first.stand, second.stand⟩
  distinct := fun before => second.distinct (first.distinct before)

/-- What was executed shows in what is remembered. -/
theorem Grows.executions_eq (grows : Grows here before new after) :
    executions here before after = new := by
  rw [executions, grows.executed, List.drop_left, List.filterMap_map]
  have stand := grows.stand
  clear grows
  induction new with
  | nil => rfl
  | cons execution rest ih =>
    rw [List.forall_mem_cons] at stand
    rw [List.filterMap_cons, Function.comp_apply, stand.1, ih stand.2]

theorem Recorded.append (recorded : Recorded log before) (grows : Grows here before new after) :
    Recorded (log ++ new) after where
  executed := by rw [grows.executed, recorded.executed, List.map_append]
  modules := by rw [grows.modules, recorded.modules, Execution.kept_append]
  distinct := grows.distinct recorded.distinct

theorem Recorded.nodup (recorded : Recorded log cache) :
    ((log.filter (·.succeeded)).map (·.file)).Nodup := by
  have distinct := recorded.distinct
  rw [recorded.modules, Execution.kept, List.map_map] at distinct
  exact distinct

/-- A file has one successful execution. -/
theorem Recorded.unique (recorded : Recorded log cache) {execution other : Execution}
    (member : execution ∈ log) (succeeded : execution.succeeded = true) (isOther : other ∈ log)
    (otherSucceeded : other.succeeded = true) (same : execution.file = other.file) :
    execution = other :=
  List.inj_on_of_nodup_map recorded.nodup (List.mem_filter.mpr ⟨member, succeeded⟩)
    (List.mem_filter.mpr ⟨isOther, otherSucceeded⟩) same

/-- The exports that are kept of a file are those of its successful execution. -/
theorem Recorded.exports?_eq (recorded : Recorded log cache) {execution : Execution}
    (member : execution ∈ log) (succeeded : execution.succeeded = true) :
    cache.exports? execution.file = some execution.exports := by
  apply exports?_of_mem recorded.distinct
  rw [recorded.modules, Execution.mem_kept_iff]
  exact ⟨execution, member, succeeded, rfl, rfl⟩

/-- Nothing is kept of a file that was not executed with success. -/
theorem Recorded.exports?_eq_none (recorded : Recorded log cache) {file : TreePath}
    (failed : ∀ execution ∈ log, execution.file = file → execution.succeeded = false) :
    cache.exports? file = none := by
  rw [exports?_eq_none_iff, recorded.modules, List.mem_map]
  rintro ⟨⟨other, exports⟩, member, rfl⟩
  obtain ⟨execution, isIn, succeeded, same, -⟩ := Execution.mem_kept_iff.mp member
  rw [failed execution isIn same] at succeeded
  cases succeeded

theorem Kept.mono {module : LoadedModule} (isKept : Kept root here before module)
    (grows : Grows here before new after) : Kept root here after module := by
  obtain ⟨file, source, exports, stands, member, same⟩ := isKept
  refine ⟨file, source, exports, stands, ?_, same⟩
  rw [grows.modules]
  exact List.mem_append_left _ member

/-- One file was executed with success. -/
theorem Grows.executed_one {file : TreePath} {source : ModuleSource}
    (stands : here.find file = .present (.file source)) (new : cache.exports? file = none)
    (fine : source.raised = none) :
    Grows here cache [⟨file, source⟩]
      ⟨cache.modules ++ [(file, .moduleObject source.exports)], cache.executed ++ [file]⟩ where
  executed := rfl
  modules := by rw [Execution.kept_of_fine fine]
  stand := List.forall_mem_singleton.mpr stands
  distinct := by
    intro before
    rw [List.map_append]
    exact before.append (List.nodup_singleton file)
      (List.disjoint_singleton.mpr (exports?_eq_none_iff.mp new))

/-- One file was executed and raised. -/
theorem Grows.raised_one {file : TreePath} {source : ModuleSource} {raised : Raised}
    (stands : here.find file = .present (.file source)) (raises : source.raised = some raised) :
    Grows here cache [⟨file, source⟩] ⟨cache.modules, cache.executed ++ [file]⟩ where
  executed := rfl
  modules := by rw [Execution.kept_of_raised raises, List.append_nil]
  stand := List.forall_mem_singleton.mpr stands
  distinct := id

/-- Loading a module executes its file or nothing. -/
theorem Ending.grows {file : TreePath} {result : Except Raised (Option LoadedModule) × ModuleCache}
    (ending : Ending root here file before result) :
    ∃ new, Grows here before new result.2
      ∧ (∀ execution ∈ new, ∀ raised, execution.source.raised = some raised →
        result.1 = .error (importRaised root execution.file raised))
      ∧ ∀ module, result.1 = .ok (some module) → Kept root here result.2 module := by
  cases ending with
  | absent noFile =>
    exact ⟨[], .refl here before, fun _ member => absurd member List.not_mem_nil, by rintro _ ⟨⟩⟩
  | kept stands remembered =>
    refine ⟨[], .refl here before, fun _ member => absurd member List.not_mem_nil, ?_⟩
    rintro _ ⟨⟩
    exact ⟨file, _, _, stands, mem_of_exports? remembered, rfl⟩
  | @executed source stands new fine =>
    refine ⟨[⟨file, source⟩], .executed_one stands new fine, ?_, ?_⟩
    · intro execution member raised raises
      obtain rfl := List.mem_singleton.mp member
      rw [fine] at raises
      cases raises
    · rintro _ ⟨⟩
      exact ⟨file, source, _, stands, List.mem_append_right _ List.mem_cons_self, rfl⟩
  | @raised source raised stands new raises =>
    refine ⟨[⟨file, source⟩], .raised_one stands raises, ?_, by rintro _ ⟨⟩⟩
    intro execution member other alsoRaises
    obtain rfl := List.mem_singleton.mp member
    rw [raises] at alsoRaises
    cases alsoRaises
    rfl

end ModuleCache

namespace Loading

open ModuleCache (Grows Kept Recorded executions importRaised)

variable {α β : Type} {discover : Except Raised (Bindings α)} {root : String} {here : Place}
  {modules : β → List LoadedModule} {atHand : List LoadedModule} {step : Loading α β}

/-! ### Steps -/

/-- Looking at what was discovered leaves the modules as they are. -/
theorem discovered_modules (discover : Except Raised (Bindings α)) (state : LoaderState α) :
    ((discovered discover).outcome state).2.modules = state.modules := by
  rw [outcome_discovered]
  cases state.found with
  | some found => rfl
  | none => cases discover <;> rfl

/-- A module that is kept is not executed again, whatever its file holds by now. -/
theorem outcome_module_of_kept {file : TreePath} {source : ModuleSource} {exports : Value}
    {state : LoaderState α} (stands : here.find file = .present (.file source))
    (remembered : state.modules.exports? file = some exports) :
    (module root here file).outcome state
      = (.ok (some ⟨some (file.shown root), exports⟩), state) := by
  rw [outcome_module]
  simp only [ModuleCache.load, stands, remembered]

/-- A file of which nothing is kept is executed. -/
theorem executed_module_of_new {file : TreePath} {source : ModuleSource} {state : LoaderState α}
    (stands : here.find file = .present (.file source))
    (new : state.modules.exports? file = none) :
    ((module root here file).outcome state).2.modules.executed
      = state.modules.executed ++ [file] := by
  rw [outcome_module]
  simp only [ModuleCache.load, stands, new]
  cases source.raised <;> rfl

/-- A step executes some files, and where one of them raises, it ends with that. -/
theorem Composed.grows (composed : Composed discover root here modules atHand step)
    (state : LoaderState α) :
    ∃ new, Grows here state.modules new (step.outcome state).2.modules
      ∧ ∀ execution ∈ new, ∀ raised, execution.source.raised = some raised →
        (step.outcome state).1 = .error (importRaised root execution.file raised) := by
  induction composed generalizing state with
  | pure _ =>
    exact ⟨[], .refl here state.modules, fun _ member => absurd member List.not_mem_nil⟩
  | throw _ =>
    exact ⟨[], .refl here state.modules, fun _ member => absurd member List.not_mem_nil⟩
  | discovered _ ih =>
    rw [outcome_bind]
    have same := discovered_modules discover state
    generalize (Loading.discovered discover).outcome state = run at same ⊢
    obtain ⟨raised | found, between⟩ := run
    · refine ⟨[], ?_, fun _ member => absurd member List.not_mem_nil⟩
      rw [← same]
      exact .refl here between.modules
    · rw [← same]
      exact ih found between
  | module file _ ih =>
    rw [outcome_bind, outcome_module]
    obtain ⟨new, grows, raises, -⟩ := (ModuleCache.load_ending root here file state.modules).grows
    generalize state.modules.load root here file = run at grows raises ⊢
    obtain ⟨ended | loaded, between⟩ := run
    · refine ⟨new, grows, fun execution member raised raising => ?_⟩
      cases raises execution member raised raising
      rfl
    · obtain ⟨more, growsMore, raisesMore⟩ := ih loaded { state with modules := between }
      refine ⟨new ++ more, grows.trans growsMore, List.forall_mem_append.mpr ⟨?_, raisesMore⟩⟩
      intro execution member raised raising
      cases raises execution member raised raising

/-- Each module of what a step returns was at hand or is kept by then. -/
theorem Composed.modules_kept (composed : Composed discover root here modules atHand step)
    {state : LoaderState α} {value : β} (returned : (step.outcome state).1 = .ok value) :
    ∀ module ∈ modules value,
      module ∈ atHand ∨ Kept root here (step.outcome state).2.modules module := by
  induction composed generalizing state with
  | pure among =>
    cases returned
    exact fun module member => Or.inl (among member)
  | throw _ => cases returned
  | discovered _ ih =>
    rw [outcome_bind] at returned ⊢
    generalize (Loading.discovered discover).outcome state = run at returned ⊢
    obtain ⟨raised | found, between⟩ := run
    · cases returned
    · exact ih found returned
  | module file behind ih =>
    rw [outcome_bind, outcome_module] at returned ⊢
    obtain ⟨new, -, -, isKept⟩ := (ModuleCache.load_ending root here file state.modules).grows
    generalize state.modules.load root here file = run at isKept returned ⊢
    obtain ⟨failure | loaded, between⟩ := run
    · cases returned
    · intro module member
      rcases ih loaded returned module member with here | later
      · rcases List.mem_append.mp here with before | now
        · exact Or.inl before
        · obtain ⟨more, grows, -⟩ := (behind loaded).grows { state with modules := between }
          obtain rfl := Option.mem_toList.mp now
          exact Or.inr ((isKept module rfl).mono grows)
      · exact Or.inr later

end Loading

/-! ### Runs -/

/-- A request, and what stands at the root when it is made. -/
structure Moment where
  here : Place
  request : Request

/-- A session with a loader, and what was executed in it. -/
structure History (α : Type) where
  session : Session (LoaderState α)
  log : List Execution

/-- The modules of the loader. -/
def History.cache {α : Type} (history : History α) : ModuleCache :=
  history.session.loader.modules

namespace DirectoryKind

open ModuleCache (Grows Recorded executions importRaised)

variable (kind : DirectoryKind) (root : String)

/-- A history with one more request. -/
def record (history : History kind.Found) (moment : Moment) : History kind.Found :=
  let session := kind.perform root moment.here history.session moment.request
  ⟨session, history.log ++ executions moment.here history.cache session.loader.modules⟩

/-- The history of a loader. Between one request and the next, any files may change. -/
def history (fresh : LoaderState kind.Found) (moments : List Moment) : History kind.Found :=
  moments.foldl (kind.record root) ⟨⟨fresh, []⟩, []⟩

variable {kind root}

variable (root) in
theorem perform_grows (here : Place) (session : Session (LoaderState kind.Found))
    (request : Request) :
    ∃ new, Grows here session.loader.modules new
      (kind.perform root here session request).loader.modules := by
  obtain ⟨_, _, _, composed, same⟩ := kind.perform_composed root here session request
  obtain ⟨new, grows, -⟩ := composed.grows session.loader
  rw [same]
  exact ⟨new, grows⟩

theorem record_recorded {history : History kind.Found}
    (recorded : Recorded history.log history.cache) (moment : Moment) :
    Recorded (kind.record root history moment).log (kind.record root history moment).cache := by
  obtain ⟨new, grows⟩ := perform_grows root moment.here history.session moment.request
  have added : (kind.record root history moment).log = history.log ++ new := by
    rw [record, History.cache, grows.executions_eq]
  rw [added]
  exact recorded.append grows

theorem foldl_recorded {history : History kind.Found}
    (recorded : Recorded history.log history.cache) (moments : List Moment) :
    Recorded (moments.foldl (kind.record root) history).log
      (moments.foldl (kind.record root) history).cache := by
  induction moments generalizing history with
  | nil => exact recorded
  | cons moment rest ih => exact ih (record_recorded recorded moment)

/-- A log is only added to. -/
theorem log_prefix_foldl (history : History kind.Found) (moments : List Moment) :
    history.log <+: (moments.foldl (kind.record root) history).log := by
  induction moments generalizing history with
  | nil => exact List.prefix_refl _
  | cons moment rest ih =>
    exact (List.prefix_append _ _).trans (ih (kind.record root history moment))

theorem history_recorded {start : Place} {fresh : LoaderState kind.Found}
    (opened : kind.openAt root start = .ok fresh) (moments : List Moment) :
    Recorded (kind.history root fresh moments).log (kind.history root fresh moments).cache := by
  obtain rfl := eq_of_openAt opened
  have start : Recorded [] {} := ⟨rfl, rfl, List.nodup_nil⟩
  exact foldl_recorded start moments

/-- Requests to a loader, between which any files may change. What the log of the loader records
are the files that it executed. No file occurs twice among the executions that succeeded, and the
exports of those, in order, are all that it keeps: so an execution that raised leaves the modules
as they were, and a load that failed keeps the modules that it executed before. Once a file was
executed with success, loading it gives the exports of that execution and executes nothing, as long
as there is a file; until then, loading it executes it. The same holds of the load of a route: every
module of the route comes of the one successful execution of a file that is there, before this load
or in it, and where an execution raises, the load ends with that. -/
theorem executed_once {start : Place} {fresh : LoaderState kind.Found}
    (opened : kind.openAt root start = .ok fresh) (earlier later : List Moment) :
    let first := kind.history root fresh earlier
    let last := kind.history root fresh (earlier ++ later)
    last.cache.executed = last.log.map (·.file)
      ∧ ((last.log.filter (·.succeeded)).map (·.file)).Nodup
      ∧ last.cache.modules = Execution.kept last.log
      ∧ first.cache.modules <+: last.cache.modules
      ∧ (∀ execution ∈ first.log, execution.succeeded = true → ∀ here source,
          here.find execution.file = .present (.file source) →
            (Loading.module root here execution.file).outcome last.session.loader
              = (.ok (some ⟨some (execution.file.shown root), execution.exports⟩),
                last.session.loader))
      ∧ (∀ file, (∀ execution ∈ last.log, execution.file = file → execution.succeeded = false) →
          ∀ here source, here.find file = .present (.file source) →
            ((Loading.module root here file).outcome last.session.loader).2.modules.executed
              = last.cache.executed ++ [file])
      ∧ ∀ here routeId,
          let run := (kind.load root here routeId).outcome last.session.loader
          let new := executions here last.cache run.2.modules
          (∀ execution ∈ new, ∀ raised, execution.source.raised = some raised →
              run.1 = .error (importRaised root execution.file raised))
            ∧ ∀ route, run.1 = .ok route → ∀ module ∈ route.modules,
                ∃ execution ∈ last.log ++ new, execution.succeeded = true
                  ∧ (∃ source, here.find execution.file = .present (.file source))
                  ∧ module = ⟨some (execution.file.shown root), execution.exports⟩
                  ∧ ∀ old ∈ first.log, old.succeeded = true → old.file = execution.file →
                      old = execution := by
  intro first last
  have recorded : Recorded last.log last.cache := history_recorded opened _
  have grown : first.log <+: last.log := by
    simp only [first, last, history, List.foldl_append]
    exact log_prefix_foldl _ later
  refine ⟨recorded.executed, recorded.nodup, recorded.modules, ?_, ?_, ?_, ?_⟩
  · obtain ⟨new, split⟩ := grown
    rw [(history_recorded opened earlier).modules, recorded.modules, ← split,
      Execution.kept_append]
    exact List.prefix_append _ _
  · intro execution member succeeded here source stands
    exact Loading.outcome_module_of_kept stands
      (recorded.exports?_eq (grown.subset member) succeeded)
  · intro file failed here source stands
    exact Loading.executed_module_of_new stands (recorded.exports?_eq_none failed)
  · intro here routeId run new
    obtain ⟨added, grows, raises⟩ :=
      (kind.load_composed root here routeId).grows last.session.loader
    obtain rfl : new = added := grows.executions_eq
    refine ⟨raises, fun route returned module member => ?_⟩
    have whole : Recorded (last.log ++ new) run.2.modules := recorded.append grows
    rcases (kind.load_composed root here routeId).modules_kept returned module member with
      none | ⟨file, source, exports, stands, isKept, rfl⟩
    · cases none
    · rw [whole.modules, Execution.mem_kept_iff] at isKept
      obtain ⟨execution, isIn, succeeded, rfl, rfl⟩ := isKept
      refine ⟨execution, isIn, succeeded, ⟨source, stands⟩, rfl, ?_⟩
      intro old isOld oldSucceeded same
      exact whole.unique (List.mem_append_left _ (grown.subset isOld)) oldSucceeded isIn
        succeeded same

open AppDirectory in
theorem executed_once_rewritten :
    let old : ModuleSource := ⟨[("revalidate", .number (.int 1))], none⟩
    let new : ModuleSource := ⟨[("revalidate", .number (.int 2))], none⟩
    let broken : ModuleSource := ⟨[], some (.crash (.stated .value "no"))⟩
    let before : Place := .present (.directory [(layoutFile, .file broken), (pageFile, .file old)])
    let after : Place := .present (.directory [(layoutFile, .file old), (pageFile, .file new)])
    let last := DirectoryKind.app.history "app" {} [⟨before, .load "/"⟩, ⟨after, .load "/"⟩]
    last.log = [⟨[pageFile], old⟩, ⟨[layoutFile], broken⟩, ⟨[layoutFile], old⟩]
      ∧ ((last.log.filter (·.succeeded)).map (·.file)).Nodup
      ∧ (Loading.module "app" after [pageFile]).outcome last.session.loader
        = (.ok (some ⟨some "app/page.py", .moduleObject old.exports⟩), last.session.loader) := by
  intro old new broken before after last
  have opened : DirectoryKind.app.openAt "app" before = .ok {} := rfl
  have found : AppDirectory.discover "app" before = .ok [("/", ⟨[], true⟩)] := by
    rw [discover_of_ordered (by decide)]
    decide +kernel
  let routes : Bindings FoundRoute := [("/", ⟨[], true⟩)]
  let page : TreePath × Value := ([pageFile], .moduleObject old.exports)
  let layout : TreePath × Value := ([layoutFile], .moduleObject old.exports)
  -- The page is executed, then the layout raises.
  have failed : ((AppDirectory.load "app" before "/").outcome {}).2
      = ⟨some routes, ⟨[page], [[pageFile], [layoutFile]]⟩⟩ := by
    simp only [AppDirectory.load, Loading.outcome_bind, Loading.outcome_discovered, found]
    rfl
  -- Now only the layout is executed, although the page was rewritten too.
  have loaded : ((AppDirectory.load "app" after "/").outcome
        ⟨some routes, ⟨[page], [[pageFile], [layoutFile]]⟩⟩).2
      = ⟨some routes, ⟨[page, layout], [[pageFile], [layoutFile], [layoutFile]]⟩⟩ := by
    have single : loadBranches "app" after [] = pure [] := loadBranches_eq_nil rfl (by decide)
    simp only [routes, AppDirectory.load, Loading.outcome_bind, Loading.outcome_discovered,
      Bindings.lookup?, if_true, loadTree, levels, List.length_nil, List.range, List.range.loop,
      List.map, List.reverse, List.reverseAux, List.take, List.foldlM, loadLevel, single]
    rfl
  have firstLog : (DirectoryKind.app.history "app" {} [⟨before, .load "/"⟩]).log
      = [⟨[pageFile], old⟩, ⟨[layoutFile], broken⟩] := by
    simp only [history, List.foldl, record, perform, DirectoryKind.load, History.cache, failed]
    rfl
  have log : last.log = [⟨[pageFile], old⟩, ⟨[layoutFile], broken⟩, ⟨[layoutFile], old⟩] := by
    simp only [last, history, List.foldl, record, perform, DirectoryKind.load, History.cache,
      failed, loaded]
    rfl
  obtain ⟨-, once, -, -, again, -, -⟩ :=
    executed_once opened [⟨before, .load "/"⟩] [⟨after, .load "/"⟩]
  refine ⟨log, once, again ⟨[pageFile], old⟩ ?_ rfl after new rfl⟩
  rw [firstLog]
  exact List.mem_cons_self

end DirectoryKind

end Prerender
