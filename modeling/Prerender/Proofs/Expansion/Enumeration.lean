import Mathlib.Data.List.Infix
import Prerender.Proofs.Expansion.Shape
import Prerender.Proofs.Expansion.Stages

/-!
# Expansion as an enumeration

An expansion goes down its chain level by level. `enumerate` goes through the same records depth
first: it follows each item that a generator gives for a record to the end of the chain before it
turns to the next item, and goes on after failures, which it lists beside the records.

If no generator answers by what was called before (`Memoryless`), the two agree
(`expand_eq_enumerate`): the expansion succeeds exactly if the enumeration meets no failure, the
paths are those among its records, in its order, and the calls are those that it makes, sorted by
segment.
-/

namespace Prerender

variable {σ ρ : Type} {overrun : Nat → Nat}

namespace Expansion

/-- What the end of a branch of the enumeration is: a record, or what a call or a merge raises. -/
abbrev Finding := Except Raised ParamRecord

/-- Goes on from a record; where something is raised is the end. -/
def onward (next : ParamRecord → List Finding) : Finding → List Finding
  | .error raised => [.error raised]
  | .ok record => next record

/-- What a segment gives for a record: its generator is called, and each item that it returns is
merged on its own. -/
def findingsAt (owners : Owners σ) (segment : SegmentWith σ) (record : ParamRecord) :
    List Finding :=
  match (segment.generate record []).1 with
  | .error raised => [.error raised]
  | .ok items => items.flatMap fun item =>
    match (segment.merge record [item] owners).mapError Raised.leaving with
    | .error raised => [.error raised]
    | .ok children => children.map .ok

/-- What is found below a record, depth first and in the order of the items. Segments without a
generator pass the record on. -/
def enumerate (owners : Owners σ) : List (SegmentWith σ) → ParamRecord → List Finding
  | [], record => [.ok record]
  | segment :: rest, record =>
    match segment.generator with
    | none => enumerate owners rest record
    | some _ => (findingsAt owners segment record).flatMap (onward (enumerate owners rest))

/-- The records among the findings, in their order. -/
def leaves (findings : List Finding) : List ParamRecord :=
  findings.filterMap Except.toOption

/-- Findings taken together: all records, or what is raised first among them. -/
def together : List Finding → Except Raised (List ParamRecord)
  | [] => .ok []
  | .error raised :: _ => .error raised
  | .ok record :: rest => (together rest).map (record :: ·)

/-- The calls of the last segments of a chain, segment by segment: one for each record that is
found at the end of what stands above the segment. -/
def callsBelow (owners : Owners σ) (above : List (SegmentWith σ)) :
    List (SegmentWith σ) → List Call
  | [] => []
  | segment :: rest =>
    (leaves (enumerate owners above [])).flatMap segment.callFor
      ++ callsBelow owners (above ++ [segment]) rest

/-- The generator of a segment answers by the parameters alone, whatever was called before. -/
def Memoryless (segment : SegmentWith σ) : Prop :=
  ∀ function, segment.generator = some (.callable function) →
    ∀ record calls, function.run calls (.params record) = function.run [] (.params record)

/-! ### Findings -/

@[simp] theorem leaves_map_ok (records : List ParamRecord) :
    leaves (records.map .ok) = records := by
  induction records with
  | nil => rfl
  | cons record rest ih => exact congrArg (record :: ·) ih

theorem flatMap_onward_map_ok (next : ParamRecord → List Finding) (records : List ParamRecord) :
    (records.map Except.ok).flatMap (onward next) = records.flatMap next :=
  List.flatMap_map ..

theorem together_map_ok (records : List ParamRecord) :
    together (records.map .ok) = .ok records := by
  induction records with
  | nil => rfl
  | cons record rest ih => rw [List.map_cons, together, ih, Except.map]

theorem together_append (first second : List Finding) :
    together (first ++ second)
      = match together first with
        | .error raised => .error raised
        | .ok records => (together second).map (records ++ ·) := by
  induction first with
  | nil =>
    rw [List.nil_append, together]
    cases together second <;> rfl
  | cons finding rest ih =>
    cases finding with
    | error raised => rfl
    | ok record =>
      rw [List.cons_append, together, together, ih]
      cases together rest with
      | error raised => rfl
      | ok records => cases together second <;> rfl

theorem eq_map_ok_of_together {findings : List Finding} {records : List ParamRecord}
    (ok : together findings = .ok records) : findings = records.map .ok := by
  induction findings generalizing records with
  | nil =>
    cases ok
    rfl
  | cons finding rest ih =>
    cases finding with
    | error raised => cases ok
    | ok record =>
      obtain ⟨others, behind, rfl⟩ := Except.map_eq_ok_iff.mp ok
      rw [ih behind, List.map_cons]

/-- Before what findings come to raise there are only records. -/
theorem exists_of_together_eq_error {findings : List Finding} {raised : Raised}
    (failed : together findings = .error raised) :
    ∃ (records : List ParamRecord) (behind : List Finding),
      findings = records.map .ok ++ .error raised :: behind := by
  induction findings with
  | nil => cases failed
  | cons finding rest ih =>
    cases finding with
    | error first =>
      cases failed
      exact ⟨[], rest, rfl⟩
    | ok record =>
      obtain ⟨records, behind, split⟩ := ih (Except.map_eq_error_iff.mp failed)
      exact ⟨record :: records, behind, by rw [split, List.map_cons, List.cons_append]⟩

/-- What is raised stays in what is found further on. -/
theorem error_mem_flatMap_onward {findings : List Finding} {raised : Raised}
    (member : .error raised ∈ findings) (next : ParamRecord → List Finding) :
    .error raised ∈ findings.flatMap (onward next) :=
  List.mem_flatMap.mpr ⟨.error raised, member, List.mem_singleton.mpr rfl⟩

theorem error_not_mem_map_ok {raised : Raised} {records : List ParamRecord} :
    (.error raised : Finding) ∉ records.map Except.ok := by
  intro member
  obtain ⟨_, -, impossible⟩ := List.mem_map.mp member
  cases impossible

/-- The enumeration of a chain goes on from what the upper part of it gives. -/
theorem enumerate_append (owners : Owners σ) (above below : List (SegmentWith σ))
    (record : ParamRecord) :
    enumerate owners (above ++ below) record
      = (enumerate owners above record).flatMap (onward (enumerate owners below)) := by
  induction above generalizing record with
  | nil => exact (List.append_nil _).symm
  | cons segment rest ih =>
    rw [List.cons_append, enumerate, enumerate]
    cases segment.generator with
    | none => exact ih record
    | some generator =>
      simp only [List.flatMap_assoc]
      apply List.flatMap_congr
      intro finding _
      cases finding with
      | error raised => rfl
      | ok child => exact ih child

/-! ### Runs and findings -/

/-- The outcome of a run agrees with findings: it has all of them if they are records. Otherwise it
is what a group of tasks ends with that raise some of what is raised among them. -/
inductive Agrees : Except Raised (List ParamRecord) → List Finding → Prop where
  | records (records : List ParamRecord) : Agrees (.ok records) (records.map .ok)
  | raised {first : Raised} {crashes : List Crash} {findings : List Finding}
      (found : .error first ∈ findings)
      (others : ∀ crash ∈ crashes, .error (.crash crash) ∈ findings) :
    Agrees (.error (groupEnd first crashes)) findings

theorem Agrees.eq_map_ok {records : List ParamRecord} {findings : List Finding}
    (agrees : Agrees (.ok records) findings) : findings = records.map .ok := by
  cases agrees
  rfl

/-- What the findings for one of several records come to raise is found for all of them. -/
theorem error_mem_flatMap_of_together {found : ParamRecord → List Finding} {record : ParamRecord}
    {records : List ParamRecord} {raised : Raised} (taken : together (found record) = .error raised)
    (member : record ∈ records) : .error raised ∈ records.flatMap found := by
  obtain ⟨_, _, split⟩ := exists_of_together_eq_error taken
  refine List.mem_flatMap.mpr ⟨record, member, ?_⟩
  rw [split]
  exact List.mem_append_right _ List.mem_cons_self

/-- Merging all items at once comes to merging them one by one. -/
theorem merge_eq_together {segment : SegmentWith σ} {owners : Owners σ} {record : ParamRecord}
    (named : segment.isDynamic = true → segment.paramName?.isSome = true) (items : List Item) :
    (segment.merge record items owners).mapError Raised.leaving
      = together (items.flatMap fun item =>
          match (segment.merge record [item] owners).mapError Raised.leaving with
          | .error raised => [.error raised]
          | .ok children => children.map .ok) := by
  induction items with
  | nil => rw [SegmentWith.merge_nil named]; rfl
  | cons item rest ih =>
    rw [SegmentWith.merge_cons named, List.flatMap_cons, together_append, ← ih]
    cases segment.merge record [item] owners with
    | error raised => rfl
    | ok children =>
      simp only [Except.mapError, together_map_ok]
      cases segment.merge record rest owners <;> rfl

/-- What a memoryless generator gives does not depend on the calls before. -/
theorem generate_fst {segment : SegmentWith σ} (memoryless : Memoryless segment)
    (record : ParamRecord) (calls : List Call) :
    (segment.generate record calls).1 = (segment.generate record []).1 := by
  unfold SegmentWith.generate
  split
  · rfl
  · rfl
  · next function called =>
    simp only [UserFunction.invoke, memoryless function called record calls]

theorem expandRecord_eq_together {segment : SegmentWith σ} (owners : Owners σ)
    (named : segment.isDynamic = true → segment.paramName?.isSome = true)
    (memoryless : Memoryless segment) (record : ParamRecord) (calls : List Call) :
    (expandRecord segment owners record calls).1 = together (findingsAt owners segment record) := by
  unfold expandRecord findingsAt
  rw [← generate_fst memoryless record calls]
  obtain ⟨raised | items, log⟩ := segment.generate record calls
  · rfl
  · exact merge_eq_together named items

/-- What a level gives is found for its records. -/
theorem flatMap_findingsAt_of_ok {segment : SegmentWith σ} {owners : Owners σ}
    (named : segment.isDynamic = true → segment.paramName?.isSome = true)
    (memoryless : Memoryless segment) {records children : List ParamRecord} {calls log : List Call}
    (ok : expandLevel overrun segment owners records calls = (.ok children, log)) :
    records.flatMap (findingsAt owners segment) = children.map .ok := by
  induction records generalizing children calls with
  | nil =>
    cases ok
    rfl
  | cons record rest ih =>
    obtain ⟨here, between, behind, first, second, rfl⟩ := expandLevel_cons_eq_ok_iff.mp ok
    have found := expandRecord_eq_together owners named memoryless record calls
    rw [first] at found
    rw [List.flatMap_cons, eq_map_ok_of_together found.symm, ih second, List.map_append]

/-- An exception that is let out behind a task that failed is found for one of the records there. -/
theorem exists_mem_of_mem_expandFurther {segment : SegmentWith σ} {owners : Owners σ}
    (named : segment.isDynamic = true → segment.paramName?.isSome = true)
    (memoryless : Memoryless segment) {records : List ParamRecord} {calls : List Call}
    {crash : Crash} (member : crash ∈ (expandFurther segment owners records calls).1) :
    ∃ record ∈ records, together (findingsAt owners segment record) = .error (.crash crash) := by
  induction records generalizing calls with
  | nil => cases member
  | cons record rest ih =>
    have found := expandRecord_eq_together owners named memoryless record calls
    rw [expandFurther] at member
    generalize expandRecord segment owners record calls = first at found member
    obtain ⟨outcome, between⟩ := first
    obtain rfl : outcome = together (findingsAt owners segment record) := found
    have later : crash ∈ (expandFurther segment owners rest between).1 → ∃ other ∈ record :: rest,
        together (findingsAt owners segment other) = .error (.crash crash) := by
      intro behind
      obtain ⟨other, inRest, there⟩ := ih behind
      exact ⟨other, List.mem_cons_of_mem record inRest, there⟩
    simp only at member
    split at member
    · next first here =>
      rcases List.mem_cons.mp member with rfl | behind
      · exact ⟨record, List.mem_cons_self, here⟩
      · exact later behind
    · exact later member

/-- A level that fails ends with what is found first for its records, and with what is let out for
some records behind that one. -/
theorem exists_of_expandLevel_eq_error {segment : SegmentWith σ} {owners : Owners σ}
    (named : segment.isDynamic = true → segment.paramName?.isSome = true)
    (memoryless : Memoryless segment) {records : List ParamRecord} {calls log : List Call}
    {ended : Raised}
    (failed : expandLevel overrun segment owners records calls = (.error ended, log)) :
    ∃ earlier record later, ∃ children : List ParamRecord, ∃ raised crashes,
      records = earlier ++ record :: later
      ∧ earlier.flatMap (findingsAt owners segment) = children.map .ok
      ∧ together (findingsAt owners segment record) = .error raised
      ∧ (∀ crash ∈ crashes, ∃ other ∈ later,
          together (findingsAt owners segment other) = .error (.crash crash))
      ∧ ended = groupEnd raised crashes := by
  obtain ⟨earlier, record, later, children, before, raised, after, crashes, split, fine, here,
    further, ended⟩ := expandLevel_eq_error_iff.mp failed
  refine ⟨earlier, record, later, children, raised, crashes, split,
    flatMap_findingsAt_of_ok named memoryless fine, ?_, ?_, ended⟩
  · rw [← expandRecord_eq_together owners named memoryless record before, here]
  · intro crash member
    have inFurther : crash
        ∈ (expandFurther segment owners (later.take (overrun later.length)) after).1 := by
      rwa [further]
    obtain ⟨other, taken, there⟩ := exists_mem_of_mem_expandFurther named memoryless inFurther
    exact ⟨other, List.mem_of_mem_take taken, there⟩

theorem expandLevel_agrees {segment : SegmentWith σ} {owners : Owners σ}
    (named : segment.isDynamic = true → segment.paramName?.isSome = true)
    (memoryless : Memoryless segment) (records : List ParamRecord) (calls : List Call) :
    Agrees (expandLevel overrun segment owners records calls).1
      (records.flatMap (findingsAt owners segment)) := by
  cases level : expandLevel overrun segment owners records calls with
  | mk outcome log =>
    cases outcome with
    | ok children =>
      rw [flatMap_findingsAt_of_ok named memoryless level]
      exact .records children
    | error ended =>
      obtain ⟨earlier, record, later, _, raised, crashes, rfl, -, here, others, rfl⟩ :=
        exists_of_expandLevel_eq_error named memoryless level
      refine .raised (error_mem_flatMap_of_together here (by simp)) fun crash member => ?_
      obtain ⟨other, inLater, there⟩ := others crash member
      exact error_mem_flatMap_of_together there (by simp [inLater])

/-- Level by level or depth first, the same is found. -/
theorem expandChain_agrees {chain : List (SegmentWith σ)} {owners : Owners σ}
    (named : ∀ segment ∈ chain, segment.isDynamic = true → segment.paramName?.isSome = true)
    (memoryless : ∀ segment ∈ chain, Memoryless segment) (records : List ParamRecord)
    (calls : List Call) :
    Agrees (expandChain overrun owners chain records calls).1
      (records.flatMap (enumerate owners chain)) := by
  induction chain generalizing records calls with
  | nil =>
    have same : records.flatMap (enumerate owners []) = records.map .ok :=
      List.map_eq_flatMap.symm
    rw [same]
    exact .records records
  | cons segment rest ih =>
    rw [List.forall_mem_cons] at named memoryless
    have split : records.flatMap (enumerate owners (segment :: rest))
        = match segment.generator with
          | none => records.flatMap (enumerate owners rest)
          | some _ => (records.flatMap (findingsAt owners segment)).flatMap
              (onward (enumerate owners rest)) := by
      cases generator : segment.generator with
      | none => simp only [enumerate, generator]
      | some _ => simp only [enumerate, generator, List.flatMap_assoc]
    rw [expandChain, split]
    cases segment.generator with
    | none => exact ih named.2 memoryless.2 records calls
    | some generator =>
      have level : Agrees (expandLevel overrun segment owners records calls).1
          (records.flatMap (findingsAt owners segment)) :=
        expandLevel_agrees named.1 memoryless.1 records calls
      simp only
      generalize expandLevel overrun segment owners records calls = first at level ⊢
      obtain ⟨raised | children, between⟩ := first
      · cases level with
        | raised found others =>
          exact .raised (error_mem_flatMap_onward found _) fun crash member =>
            error_mem_flatMap_onward (others crash member) _
      · rw [level.eq_map_ok, flatMap_onward_map_ok]
        exact ih named.2 memoryless.2 children between

/-! ### The log of a run -/

/-- A level calls its generator for one record after the other, and for all of them if nothing
fails. -/
theorem expandLevel_snd (overrun : Nat → Nat) (segment : SegmentWith σ) (owners : Owners σ)
    (records : List ParamRecord) (calls : List Call) :
    ∃ made, made <+: records.flatMap segment.callFor
      ∧ (expandLevel overrun segment owners records calls).2 = calls ++ made
      ∧ ∀ children, (expandLevel overrun segment owners records calls).1 = .ok children →
          made = records.flatMap segment.callFor := by
  induction records generalizing calls with
  | nil => exact ⟨[], List.nil_prefix, (List.append_nil calls).symm, fun _ _ => rfl⟩
  | cons record rest ih =>
    have called := expandRecord_snd segment owners record calls
    rw [expandLevel, List.flatMap_cons]
    generalize expandRecord segment owners record calls = first at called ⊢
    obtain ⟨raised | here, between⟩ := first
    · obtain rfl : between = calls ++ segment.callFor record := called
      let further := rest.take (overrun rest.length)
      refine ⟨segment.callFor record ++ further.flatMap segment.callFor, ?_, ?_, by rintro _ ⟨⟩⟩
      · exact (List.prefix_append_right_inj _).mpr ((List.take_prefix _ rest).flatMap _)
      · rw [← List.append_assoc, ← expandFurther_snd segment owners]
    · obtain ⟨made, isPrefix, log, whole⟩ := ih between
      obtain rfl : between = calls ++ segment.callFor record := called
      rw [List.append_assoc] at log
      refine ⟨segment.callFor record ++ made,
        (List.prefix_append_right_inj _).mpr isPrefix, ?_⟩
      simp only
      generalize expandLevel overrun segment owners rest _ = second at log whole ⊢
      obtain ⟨raised | others, after⟩ := second
      · exact ⟨log, by rintro _ ⟨⟩⟩
      · exact ⟨log, fun _ _ => by rw [whole others rfl]⟩

/-- A run down a chain gets past the first segment, having called its generator for every record,
or it ends there with what was raised. -/
theorem expandChain_cons_cases (overrun : Nat → Nat) (owners : Owners σ) (segment : SegmentWith σ)
    (rest : List (SegmentWith σ)) (records : List ParamRecord) (calls : List Call) :
    (∃ children, expandChain overrun owners [segment] records calls
          = (.ok children, calls ++ records.flatMap segment.callFor)
        ∧ expandChain overrun owners (segment :: rest) records calls
          = expandChain overrun owners rest children (calls ++ records.flatMap segment.callFor))
      ∨ ∃ raised log, segment.generator.isSome = true
        ∧ expandLevel overrun segment owners records calls = (.error raised, log)
        ∧ expandChain overrun owners (segment :: rest) records calls = (.error raised, log) := by
  cases generator : segment.generator with
  | none =>
    have silent : records.flatMap segment.callFor = [] :=
      List.flatMap_eq_nil_iff.mpr fun record _ => by rw [SegmentWith.callFor, generator]
    rw [silent, List.append_nil]
    exact Or.inl ⟨records, by simp only [expandChain, generator],
      by simp only [expandChain, generator]⟩
  | some _ =>
    obtain ⟨made, -, log, whole⟩ := expandLevel_snd overrun segment owners records calls
    generalize level : expandLevel overrun segment owners records calls = run at log whole
    obtain ⟨raised | children, after⟩ := run
    · exact Or.inr ⟨raised, after, rfl, rfl, by simp only [expandChain, generator, level]⟩
    · obtain rfl := whole children rfl
      obtain rfl : after = calls ++ records.flatMap segment.callFor := log
      exact Or.inl ⟨children, by simp only [expandChain, generator, level],
        by simp only [expandChain, generator, level]⟩

/-- The records behind a segment are what the enumeration finds one segment further down. -/
theorem enumerate_concat {owners : Owners σ} {above : List (SegmentWith σ)}
    {segment : SegmentWith σ}
    (named : segment.isDynamic = true → segment.paramName?.isSome = true)
    (memoryless : Memoryless segment) {records children : List ParamRecord}
    (reached : enumerate owners above [] = records.map .ok) {calls log : List Call}
    (ran : expandChain overrun owners [segment] records calls = (.ok children, log)) :
    enumerate owners (above ++ [segment]) [] = children.map .ok := by
  have agrees : Agrees (expandChain overrun owners [segment] records calls).1
      (records.flatMap (enumerate owners [segment])) :=
    expandChain_agrees (List.forall_mem_singleton.mpr named)
      (List.forall_mem_singleton.mpr memoryless) records calls
  rw [ran] at agrees
  rw [enumerate_append, reached, flatMap_onward_map_ok]
  exact agrees.eq_map_ok

/-- The calls are those of the enumeration, segment by segment. -/
theorem expandChain_snd {owners : Owners σ} {above below : List (SegmentWith σ)}
    (named : ∀ segment ∈ below, segment.isDynamic = true → segment.paramName?.isSome = true)
    (memoryless : ∀ segment ∈ below, Memoryless segment) {records final : List ParamRecord}
    (reached : enumerate owners above [] = records.map .ok) {calls log : List Call}
    (ran : expandChain overrun owners below records calls = (.ok final, log)) :
    log = calls ++ callsBelow owners above below := by
  induction below generalizing above records calls with
  | nil =>
    cases ran
    exact (List.append_nil _).symm
  | cons segment rest ih =>
    rw [List.forall_mem_cons] at named memoryless
    rcases expandChain_cons_cases overrun owners segment rest records calls with
      ⟨children, first, behind⟩ | ⟨raised, after, -, -, failed⟩
    · rw [behind] at ran
      have further := enumerate_concat named.1 memoryless.1 reached first
      rw [ih named.2 memoryless.2 further ran, callsBelow, reached, leaves_map_ok,
        List.append_assoc]
    · cases failed.symm.trans ran

/-! ### Paths of the enumeration -/

/-- Records of an expansion are complete if they bind all parameters. -/
theorem isComplete_of_shapedBy {chain : List (SegmentWith σ)} {record : ParamRecord}
    (shaped : ShapedBy chain record) :
    isComplete (ownersOf chain) record = (paramNames chain).all record.binds := by
  have only : record.names.all (ownersOf chain).binds = true := by
    rw [List.all_eq_true]
    intro name bound
    obtain ⟨⟨_, value⟩, member, rfl⟩ := List.mem_map.mp bound
    obtain ⟨segment, inChain, param, carried, sameName, -⟩ := shaped.shaped _ value member
    rw [Bindings.binds_iff_mem_names, names_ownersOf]
    exact List.mem_filterMap.mpr
      ⟨segment, inChain, sameName ▸ SegmentWith.paramName?_of_param? carried⟩
  rw [isComplete, only, Bool.and_true, names_ownersOf]

/-- With a dynamic segment, all of them declared well, an expansion that is allowed to make calls
runs down the chain. -/
theorem expand_of_declared {tasks : TaskLibrary} {chain : List (SegmentWith σ)}
    {policy : ExpansionPolicy ρ} {fallbackShells : Bool} {concurrency : Value} {calls : List Call}
    (dynamic : ∃ segment ∈ chain, segment.isDynamic = true) (declared : WellDeclared chain)
    (onRequest : policy.mode ≠ .forceDynamic) (allowed : AllowsCalls concurrency) :
    expand tasks chain policy none fallbackShells concurrency calls
      = match expandChain (tasks.overrun concurrency) (ownersOf chain) chain [[]] calls with
        | (.error raised, log) => (.error raised, log)
        | (.ok records, log) =>
          (.ok
            { paths := pathsOf (ownersOf chain) records
              fallback := fallbackOf policy fallbackShells
              revalidate := policy.revalidate },
            log) := by
  have some : (chain.filter (·.isDynamic)).isEmpty = false := by
    obtain ⟨segment, inChain, isDynamic⟩ := dynamic
    exact List.isEmpty_eq_false_iff_exists_mem.mpr
      ⟨segment, List.mem_filter.mpr ⟨inChain, isDynamic⟩⟩
  have capacity := tasks.checkLimit_of_allowsCalls concurrency allowed
  unfold expand
  simp only [some, Bool.false_eq_true, if_false, onRequest, capacity,
    ownersFrom_filter_eq_ok_iff.mpr ⟨declared, rfl⟩]
  obtain ⟨raised | records, log⟩ :=
    expandChain (tasks.overrun concurrency) (ownersOf chain) chain [[]] calls
  · rfl
  · rfl

end Expansion

open Expansion in
/-- If generators answer by the parameters alone, an expansion succeeds exactly if the enumeration
meets no failure. It then has those records of the enumeration that bind every parameter as its
paths, without later ones that are the same mapping as an earlier one, and has made the calls of the
enumeration, segment by segment. If it fails, then with what the enumeration raises somewhere, or
with a group of exceptions that it lets out. -/
theorem expand_eq_enumerate (tasks : TaskLibrary) (chain : List (SegmentWith σ))
    (policy : ExpansionPolicy ρ) (fallbackShells : Bool) (concurrency : Value) (calls : List Call)
    (dynamic : ∃ segment ∈ chain, segment.isDynamic = true) (declared : WellDeclared chain)
    (onRequest : policy.mode ≠ .forceDynamic) (allowed : AllowsCalls concurrency)
    (memoryless : ∀ segment ∈ chain, Memoryless segment) :
    ((∃ result, (expand tasks chain policy none fallbackShells concurrency calls).1 = .ok result)
        ↔ ∀ raised, .error raised ∉ enumerate (ownersOf chain) chain [])
      ∧ (∀ result log,
          expand tasks chain policy none fallbackShells concurrency calls = (.ok result, log) →
            result.paths = ((leaves (enumerate (ownersOf chain) chain [])).filter fun record =>
                (paramNames chain).all record.binds).eraseDupsBy ParamRecord.sameBindings
              ∧ log = calls ++ callsBelow (ownersOf chain) [] chain)
      ∧ ∀ ended, (expand tasks chain policy none fallbackShells concurrency calls).1
        = .error ended →
          ∃ raised crashes, ended = groupEnd raised crashes
            ∧ .error raised ∈ enumerate (ownersOf chain) chain []
            ∧ ∀ crash ∈ crashes, .error (.crash crash) ∈ enumerate (ownersOf chain) chain [] := by
  have named := declared.named
  have agrees : Agrees
      (expandChain (tasks.overrun concurrency) (ownersOf chain) chain [[]] calls).1
      ([[]].flatMap (enumerate (ownersOf chain) chain)) :=
    expandChain_agrees named memoryless [[]] calls
  rw [List.flatMap_singleton] at agrees
  have within : Within (ShapedBy chain) calls
      (expandChain (tasks.overrun concurrency) (ownersOf chain) chain [[]] calls) :=
    expandChain_within _ (fun segment inChain => merge_shapedBy inChain)
      (List.forall_mem_singleton.mpr (shapedBy_nil chain)) calls
  rw [expand_of_declared dynamic declared onRequest allowed]
  generalize ran : expandChain (tasks.overrun concurrency) (ownersOf chain) chain [[]] calls = run
    at agrees within ⊢
  obtain ⟨ended | records, log⟩ := run
  · cases agrees with
    | @raised first crashes _ found others =>
      refine ⟨?_, ?_, ?_⟩
      · refine iff_of_false ?_ fun nothing => nothing first found
        rintro ⟨_, ⟨⟩⟩
      · rintro _ _ ⟨⟩
      · rintro _ ⟨⟩
        exact ⟨first, crashes, rfl, found, others⟩
  · have found := agrees.eq_map_ok
    refine ⟨?_, ?_, ?_⟩
    · refine iff_of_true ⟨_, rfl⟩ ?_
      intro raised
      rw [found]
      exact error_not_mem_map_ok
    · rintro _ _ ⟨⟩
      have start : enumerate (ownersOf chain) [] [] = [[]].map .ok := rfl
      refine ⟨?_, expandChain_snd named memoryless start ran⟩
      rw [found, leaves_map_ok]
      refine (distinctFrom_nil_eq _).trans (congrArg (List.eraseDupsBy _) ?_)
      apply List.filter_congr
      intro record member
      exact isComplete_of_shapedBy (within.records records rfl record member)
    · rintro _ ⟨⟩

open Expansion in
theorem expand_eq_enumerate_languages :
    let lang : SegmentWith Unit :=
      { name := "[lang]", role := .dynamic (some ⟨"lang", .single⟩)
        generator := some (.callable ⟨"languages", fun _ _ => .ok (.list
          [.mapping [(.text "lang", .text "en")], .mapping [(.text "lang", .text "de")]])⟩) }
    let page : SegmentWith Unit :=
      { name := "[page]", role := .dynamic (some ⟨"page", .single⟩)
        generator := some (.callable ⟨"pages", fun _ arguments => .ok (.list
          (if arguments = .params [("lang", .text "en")] then
            [.mapping [(.text "page", .text "a")], .mapping [(.text "page", .text "b")]]
          else []))⟩) }
    ∃ result, expand .standard [lang, page] ⟨.static, (), true⟩ none false (.number (.int 8)) []
        = (.ok result, [⟨"languages", .params []⟩, ⟨"pages", .params [("lang", .text "en")]⟩,
            ⟨"pages", .params [("lang", .text "de")]⟩])
      ∧ result.paths = [[("lang", .text "en"), ("page", .text "a")],
          [("lang", .text "en"), ("page", .text "b")]] := by
  intro lang page
  have found : enumerate (ownersOf [lang, page]) [lang, page] []
      = [.ok [("lang", .text "en"), ("page", .text "a")],
          .ok [("lang", .text "en"), ("page", .text "b")]] := by decide +kernel
  have made : callsBelow (ownersOf [lang, page]) [] [lang, page]
      = [⟨"languages", .params []⟩, ⟨"pages", .params [("lang", .text "en")]⟩,
          ⟨"pages", .params [("lang", .text "de")]⟩] := by decide +kernel
  obtain ⟨succeeds, describes, -⟩ := expand_eq_enumerate .standard [lang, page]
    ⟨.static, (), true⟩ false (.number (.int 8)) [] ⟨lang, List.mem_cons_self, rfl⟩
    ⟨by simp [lang, page, SegmentWith.paramName?, SegmentWith.param?], by decide +kernel⟩
    (by decide) (Or.inl ⟨8, by decide, rfl⟩)
    (by
      intro segment inChain function called record calls
      rcases List.mem_cons.mp inChain with rfl | later
      · cases called
        rfl
      · cases List.mem_singleton.mp later
        cases called
        rfl)
  rw [found] at succeeds
  obtain ⟨result, ok⟩ := succeeds.mpr (by simp)
  have ran : expand .standard [lang, page] ⟨.static, (), true⟩ none false (.number (.int 8)) []
      = (.ok result, _) := Prod.ext ok rfl
  obtain ⟨paths, log⟩ := describes result _ ran
  refine ⟨result, ran.trans (Prod.ext rfl (log.trans made)), paths.trans ?_⟩
  rw [found]
  decide +kernel

end Prerender
