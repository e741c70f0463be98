import Mathlib.Data.List.Nodup
import Prerender.Proofs.Except
import Prerender.Proofs.Resolver.Build

/-!
# What a manifest files under an id

A manifest holds the last success of every id and the last failure of every id
(`Manifest.Reflects`), whatever the loader answers from one time to the next. Where an id succeeds
at one time and fails at another, it is therefore filed as both, and not by the outcome that came
last (`Loader.manifest_files_last_iff`). In a build of distinct ids there is no such id.
-/

namespace Prerender

/-! ### Outcomes of an id -/

/-- What is read of the outcomes of an id, in their order. -/
def readingsOf {α β : Type} (read : α → Option β) (outcomes : List (String × α))
    (routeId : String) : List β :=
  outcomes.filterMap fun outcome => if outcome.1 = routeId then read outcome.2 else none

section Readings

variable {α β : Type} {read : α → Option β} {outcomes : List (String × α)} {routeId : String}

theorem readingsOf_concat (read : α → Option β) (outcomes : List (String × α))
    (outcome : String × α) (routeId : String) :
    readingsOf read (outcomes ++ [outcome]) routeId
      = readingsOf read outcomes routeId
        ++ (if outcome.1 = routeId then read outcome.2 else none).toList := by
  simp only [readingsOf, List.filterMap_append, List.filterMap_cons, List.filterMap_nil]
  cases (if outcome.1 = routeId then read outcome.2 else none) <;> rfl

theorem mem_readingsOf_iff {value : β} :
    value ∈ readingsOf read outcomes routeId
      ↔ ∃ outcome, (routeId, outcome) ∈ outcomes ∧ read outcome = some value := by
  rw [readingsOf, List.mem_filterMap]
  constructor
  · rintro ⟨⟨other, outcome⟩, member, value⟩
    obtain ⟨rfl, isRead⟩ := Option.ite_none_right_eq_some.mp value
    exact ⟨outcome, member, isRead⟩
  · rintro ⟨outcome, member, value⟩
    exact ⟨(routeId, outcome), member, by rw [if_pos rfl, value]⟩

theorem mem_readingsOf_some_iff {outcome : α} :
    outcome ∈ readingsOf some outcomes routeId ↔ (routeId, outcome) ∈ outcomes := by
  simp [mem_readingsOf_iff]

theorem readingsOf_eq_filterMap (read : α → Option β) (outcomes : List (String × α))
    (routeId : String) :
    readingsOf read outcomes routeId = (readingsOf some outcomes routeId).filterMap read := by
  rw [readingsOf, readingsOf, List.filterMap_filterMap]
  apply List.filterMap_congr
  intro outcome _
  split <;> rfl

theorem getLast?_readingsOf_isSome_iff :
    (readingsOf read outcomes routeId).getLast?.isSome = true
      ↔ ∃ value, value ∈ readingsOf read outcomes routeId := by
  rw [List.getLast?_isSome]
  exact ⟨List.exists_mem_of_ne_nil _, fun ⟨_, member⟩ => List.ne_nil_of_mem member⟩

/-- Where either all outcomes of an id are read or none is, the last reading is that of the last
outcome. -/
theorem getLast?_readingsOf_eq_bind
    (alike : ∀ last other, (routeId, last) ∈ outcomes → (routeId, other) ∈ outcomes →
      read last = none → read other = none) :
    (readingsOf read outcomes routeId).getLast?
      = (readingsOf some outcomes routeId).getLast?.bind read := by
  rw [readingsOf_eq_filterMap read]
  rcases List.eq_nil_or_concat' (readingsOf some outcomes routeId) with none | ⟨earlier, last, ends⟩
  · rw [none]
    rfl
  · have isOutcome : ∀ outcome ∈ earlier ++ [last], (routeId, outcome) ∈ outcomes := by
      intro outcome member
      rw [← ends] at member
      exact mem_readingsOf_some_iff.mp member
    obtain ⟨areOutcomes, isLast⟩ := List.forall_mem_append.mp isOutcome
    rw [ends, List.filterMap_append, List.getLast?_concat]
    cases isRead : read last with
    | some value => simp [isRead]
    | none =>
      have unread : earlier.filterMap read = [] :=
        List.filterMap_eq_nil_iff.mpr fun other member =>
          alike last other (isLast last List.mem_cons_self) (areOutcomes other member) isRead
      simp [isRead, unread]

end Readings

/-! ### Filing -/

namespace Manifest

/-- A manifest holds the last success and the last failure of every id among some outcomes. -/
structure Reflects (manifest : Manifest)
    (outcomes : List (String × Except Raised ResolvedRoute)) : Prop where
  routes : ∀ routeId, manifest.routes.lookup? routeId
    = (readingsOf Except.toOption outcomes routeId).getLast?
  errors : ∀ routeId, manifest.errors.lookup? routeId
    = (readingsOf reported? outcomes routeId).getLast?

/-- A manifest files every id by the outcome that came last of it, and by nothing else. -/
structure FilesLast (manifest : Manifest)
    (outcomes : List (String × Except Raised ResolvedRoute)) : Prop where
  routes : ∀ routeId, manifest.routes.lookup? routeId
    = (readingsOf some outcomes routeId).getLast?.bind Except.toOption
  errors : ∀ routeId, manifest.errors.lookup? routeId
    = (readingsOf some outcomes routeId).getLast?.bind reported?

variable {manifest : Manifest} {outcomes : List (String × Except Raised ResolvedRoute)}

theorem reflects_nil : Reflects {} [] := ⟨fun _ => rfl, fun _ => rfl⟩

/-- What is filed anew is the last of its kind; everything else stays as it is. -/
theorem lookup?_assign_eq_getLast? {α β : Type} {bindings : Bindings β} {read : α → Option β}
    {outcomes : List (String × α)}
    (reflects : ∀ routeId, bindings.lookup? routeId = (readingsOf read outcomes routeId).getLast?)
    {routeId : String} {outcome : α} {value : β} (isRead : read outcome = some value)
    (other : String) :
    (bindings.assign routeId value).lookup? other
      = (readingsOf read (outcomes ++ [(routeId, outcome)]) other).getLast? := by
  rw [Bindings.lookup?_assign, readingsOf_concat, isRead, reflects]
  split
  · rw [Option.toList_some, List.getLast?_concat]
  · rw [Option.toList_none, List.append_nil]

theorem lookup?_eq_getLast?_of_unread {α β : Type} {bindings : Bindings β} {read : α → Option β}
    {outcomes : List (String × α)}
    (reflects : ∀ routeId, bindings.lookup? routeId = (readingsOf read outcomes routeId).getLast?)
    {routeId : String} {outcome : α} (unread : read outcome = none) (other : String) :
    bindings.lookup? other
      = (readingsOf read (outcomes ++ [(routeId, outcome)]) other).getLast? := by
  rw [readingsOf_concat, unread, ite_self, Option.toList_none, List.append_nil, reflects]

/-- Filing one more outcome reflects it too. -/
theorem Reflects.file (reflects : manifest.Reflects outcomes) (routeId : String)
    (outcome : Outcome) :
    (manifest.file routeId outcome).Reflects (outcomes ++ [(routeId, outcome.raised)]) := by
  cases outcome with
  | ok resolved =>
    exact ⟨lookup?_assign_eq_getLast? reflects.routes rfl,
      lookup?_eq_getLast?_of_unread reflects.errors rfl⟩
  | error report =>
    exact ⟨lookup?_eq_getLast?_of_unread reflects.routes rfl,
      lookup?_assign_eq_getLast? reflects.errors rfl⟩

theorem Reflects.binds_routes_iff (reflects : manifest.Reflects outcomes) {routeId : String} :
    manifest.routes.binds routeId = true ↔ ∃ resolved, (routeId, .ok resolved) ∈ outcomes := by
  rw [Bindings.binds, reflects.routes, getLast?_readingsOf_isSome_iff]
  simp [mem_readingsOf_iff, toOption_eq_some_iff]

theorem Reflects.binds_errors_iff (reflects : manifest.Reflects outcomes) {routeId : String} :
    manifest.errors.binds routeId = true
      ↔ ∃ report, (routeId, .error (.failure report)) ∈ outcomes := by
  rw [Bindings.binds, reflects.errors, getLast?_readingsOf_isSome_iff]
  simp [mem_readingsOf_iff, reported?_eq_some_iff]

/-- What is filed as a success is an outcome. -/
theorem Reflects.mem_of_lookup? (reflects : manifest.Reflects outcomes) {routeId : String}
    {resolved : ResolvedRoute} (found : manifest.routes.lookup? routeId = some resolved) :
    (routeId, .ok resolved) ∈ outcomes := by
  rw [reflects.routes] at found
  obtain ⟨outcome, member, succeeds⟩ := mem_readingsOf_iff.mp (List.mem_of_getLast? found)
  exact toOption_eq_some_iff.mp succeeds ▸ member

/-- Filed by one outcome, an id is not filed both as a success and as a failure. -/
theorem FilesLast.not_both (filesLast : manifest.FilesLast outcomes) (routeId : String) :
    ¬(manifest.routes.binds routeId = true ∧ manifest.errors.binds routeId = true) := by
  rw [Bindings.binds, Bindings.binds, filesLast.routes, filesLast.errors]
  rcases (readingsOf some outcomes routeId).getLast? with _ | (report | crash) | resolved <;>
    simp [reported?, Except.toOption]

/-- Every id is filed by its last outcome exactly if no id has both a success and a failure. -/
theorem Reflects.filesLast_iff (reflects : manifest.Reflects outcomes)
    (fine : ∀ routeId crash, (routeId, .error (.crash crash)) ∉ outcomes) :
    manifest.FilesLast outcomes
      ↔ ∀ routeId, ¬((∃ resolved, (routeId, .ok resolved) ∈ outcomes)
          ∧ ∃ report, (routeId, .error (.failure report)) ∈ outcomes) := by
  constructor
  · intro filesLast routeId both
    rw [← reflects.binds_routes_iff, ← reflects.binds_errors_iff] at both
    exact filesLast.not_both routeId both
  · intro apart
    constructor
    · intro routeId
      rw [reflects.routes]
      apply getLast?_readingsOf_eq_bind
      intro last other isLast isOther unread
      cases other with
      | error _ => rfl
      | ok resolved =>
        rcases last with (report | crash) | _
        · exact absurd ⟨⟨resolved, isOther⟩, report, isLast⟩ (apart routeId)
        · exact absurd isLast (fine routeId crash)
        · cases unread
    · intro routeId
      rw [reflects.errors]
      apply getLast?_readingsOf_eq_bind
      intro last other isLast isOther unread
      rcases other with (report | _) | _
      · rcases last with (_ | crash) | resolved
        · cases unread
        · exact absurd isLast (fine routeId crash)
        · exact absurd ⟨⟨resolved, isLast⟩, report, isOther⟩ (apart routeId)
      · rfl
      · rfl

end Manifest

/-! ### Builds -/

namespace Loader

variable {σ : Type} {loader : Loader σ} {tasks : TaskLibrary} {config : ResolverConfig}

/-- A build that goes on from a manifest reflects the outcomes of its routes as well. -/
theorem manifestFrom_reflects {manifest last : Manifest}
    {earlier : List (String × Except Raised ResolvedRoute)} (reflects : manifest.Reflects earlier)
    {routeIds : List String} {session : Session σ}
    (built : (loader.manifestFrom tasks config manifest routeIds session).1 = .ok last) :
    last.Reflects (earlier ++ loader.outcomes tasks config routeIds session) := by
  -- Each visit moves one outcome from those to come to those that are filed.
  induction routeIds generalizing manifest earlier session with
  | nil =>
    cases built
    rw [outcomes_nil, List.append_nil]
    exact reflects
  | cons routeId rest ih =>
    rcases Outcome.cases (loader.resolve tasks routeId config session).1 with
      ⟨outcome, resolved⟩ | ⟨crash, crashed⟩
    · rw [manifestFrom_cons_of_outcome resolved] at built
      have filed := ih (reflects.file routeId outcome) built
      rwa [List.append_assoc, List.singleton_append, ← resolved, ← outcomes_cons] at filed
    · rw [manifestFrom_cons_of_crash crashed] at built
      cases built

theorem crash_notMem_outcomes_of_built {routeIds : List String} {session : Session σ}
    {manifest : Manifest}
    (built : (loader.manifest tasks routeIds config session).1 = .ok manifest) (routeId : String)
    (crash : Crash) :
    (routeId, .error (.crash crash)) ∉ loader.outcomes tasks config routeIds session := by
  intro member
  obtain ⟨visit, isVisit, same⟩ := List.mem_map.mp member
  exact manifestFrom_isOk_iff.mp ⟨manifest, built⟩ visit isVisit crash (congrArg Prod.snd same)

/-- A build that gets to the end has a success or a failure for each of its ids, and for no
other. -/
theorem mem_iff_of_built {routeIds : List String} {session : Session σ} {manifest : Manifest}
    (built : (loader.manifest tasks routeIds config session).1 = .ok manifest) (routeId : String) :
    routeId ∈ routeIds
      ↔ (∃ resolved, (routeId, .ok resolved) ∈ loader.outcomes tasks config routeIds session)
        ∨ ∃ report, (routeId, .error (.failure report))
            ∈ loader.outcomes tasks config routeIds session := by
  have fine := crash_notMem_outcomes_of_built built
  constructor
  · intro member
    rw [← loader.map_fst_outcomes tasks config routeIds session, List.mem_map] at member
    obtain ⟨⟨same, (report | crash) | resolved⟩, member, rfl⟩ := member
    · exact Or.inr ⟨report, member⟩
    · exact absurd member (fine same crash)
    · exact Or.inl ⟨resolved, member⟩
  · rintro (⟨_, member⟩ | ⟨_, member⟩)
    all_goals
      rw [← loader.map_fst_outcomes tasks config routeIds session]
      exact List.mem_map_of_mem member

/-- A build that gets to the end files the last success and the last failure of each of its ids, and
nothing under any other id. It files each id by its last outcome alone exactly if no id succeeds at
one time and fails at another, which holds of every build of distinct ids. -/
theorem manifest_files_last_iff {routeIds : List String} {session : Session σ}
    {manifest : Manifest}
    (built : (loader.manifest tasks routeIds config session).1 = .ok manifest) :
    manifest.Reflects (loader.outcomes tasks config routeIds session)
      ∧ (∀ routeId, routeId ∈ routeIds
          ↔ manifest.routes.binds routeId = true ∨ manifest.errors.binds routeId = true)
      ∧ (manifest.FilesLast (loader.outcomes tasks config routeIds session)
          ↔ ∀ routeId,
              ¬((∃ resolved,
                  (routeId, .ok resolved) ∈ loader.outcomes tasks config routeIds session)
                ∧ ∃ report, (routeId, .error (.failure report))
                    ∈ loader.outcomes tasks config routeIds session))
      ∧ (routeIds.Nodup → manifest.FilesLast (loader.outcomes tasks config routeIds session)) := by
  have reflects : manifest.Reflects (loader.outcomes tasks config routeIds session) :=
    manifestFrom_reflects Manifest.reflects_nil built
  have filesLast := reflects.filesLast_iff (crash_notMem_outcomes_of_built built)
  refine ⟨reflects, ?_, filesLast, ?_⟩
  · intro routeId
    rw [mem_iff_of_built built, reflects.binds_routes_iff, reflects.binds_errors_iff]
  · intro distinct
    rw [filesLast]
    rintro routeId ⟨⟨resolved, succeeds⟩, report, fails⟩
    rw [← loader.map_fst_outcomes tasks config routeIds session] at distinct
    have same := List.inj_on_of_nodup_map distinct succeeds fails rfl
    cases congrArg Prod.snd same

/-- A loader that fails to load a route the first time, and loads a handler without parameters from
then on. -/
def recovering : Loader Nat where
  load routeId attempts :=
    (if attempts = 0 then .error (.crash (.stated .os "gone"))
      else .ok (.handler ⟨routeId, routeId, ⟨none, .none⟩⟩), attempts + 1)

theorem manifest_files_last_iff_recovering :
    ∃ manifest, (recovering.manifest .standard ["/a", "/b", "/b"] .default ⟨0, []⟩).1 = .ok manifest
      ∧ manifest.errors.names = ["/a"] ∧ manifest.routes.names = ["/b"]
      ∧ manifest.FilesLast (recovering.outcomes .standard .default ["/a", "/b", "/b"] ⟨0, []⟩) := by
  have shown : ((recovering.manifest .standard ["/a", "/b", "/b"] .default ⟨0, []⟩).1.map
      fun manifest => (manifest.errors.names, manifest.routes.names)) = .ok (["/a"], ["/b"]) := by
    decide +kernel
  obtain ⟨manifest, built, names⟩ := Except.map_eq_ok_iff.mp shown
  have apart : ∀ outcome ∈ recovering.outcomes .standard .default ["/a", "/b", "/b"] ⟨0, []⟩,
      (outcome.1 = "/a" ∧ outcome.2.toOption = none)
        ∨ outcome.1 = "/b" ∧ reported? outcome.2 = none := by
    decide +kernel
  obtain ⟨-, -, filesLast, -⟩ := manifest_files_last_iff built
  refine ⟨manifest, built, congrArg Prod.fst names, congrArg Prod.snd names, filesLast.mpr ?_⟩
  rintro routeId ⟨⟨resolved, succeeds⟩, report, fails⟩
  rcases apart _ succeeds with ⟨-, none⟩ | ⟨isB, -⟩
  · cases none
  · rcases apart _ fails with ⟨isA, -⟩ | ⟨-, none⟩
    · exact absurd (isA.symm.trans isB) (by decide)
    · cases none

/-- An id that fails and is then resolved stays filed as a failure. -/
theorem manifest_files_twice :
    ∃ manifest, (recovering.manifest .standard ["/", "/"] .default ⟨0, []⟩).1 = .ok manifest
      ∧ manifest.routes.binds "/" = true ∧ manifest.errors.binds "/" = true
      ∧ ¬manifest.FilesLast (recovering.outcomes .standard .default ["/", "/"] ⟨0, []⟩) := by
  have shown : ((recovering.manifest .standard ["/", "/"] .default ⟨0, []⟩).1.map fun manifest =>
      (manifest.routes.binds "/", manifest.errors.binds "/")) = .ok (true, true) := by
    decide +kernel
  obtain ⟨manifest, built, filed⟩ := Except.map_eq_ok_iff.mp shown
  obtain ⟨inRoutes, inErrors⟩ := Prod.mk.inj filed
  exact ⟨manifest, built, inRoutes, inErrors, fun filesLast =>
    filesLast.not_both "/" ⟨inRoutes, inErrors⟩⟩

end Loader

end Prerender
