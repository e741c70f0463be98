import Prerender.Proofs.Expansion.Admission
import Prerender.Proofs.Expansion.Answers
import Prerender.Proofs.Expansion.Spelling
import Prerender.Proofs.Expansion.Stages
import Prerender.Proofs.Pathname.Filling

/-!
# Answers represented differently

Two chains that differ in their generators only are run in step (`expandChain_alike`) if these
answer alike (`AnswersAlike`): each time with items that are the same one by one, in whatever
container and however they are spelled. The records of the two runs are then the same maps, though
not in the same order of names, which is why generators may look at their records as maps only
(`GeneratorsAlike`). Nothing behind a run looks at more, so that the expansions both fail, or have
results with the same paths (`expand_representation`).
-/

namespace Prerender

variable {σ ρ : Type}

namespace Expansion

/-! ### Answers -/

/-- An answer offers no items: nothing was returned, or something else was. -/
def Refuses (answer : Except Raised Value) : Prop :=
  ∀ value, answer = .ok value → ∀ items, ¬value.Offers items

/-- Two answers offer, in whatever container, items that say the same one by one, or neither of them
offers any. -/
inductive AnswersAlike (chain : List (SegmentWith σ)) :
    Except Raised Value → Except Raised Value → Prop where
  | offered {value other : Value} {items others : List Item} (offers : value.Offers items)
      (offersOther : other.Offers others)
      (respells : List.Forall₂ (Item.Respells chain) items others) :
    AnswersAlike chain (.ok value) (.ok other)
  | refused {answer other : Except Raised Value} (refuses : Refuses answer)
      (refusesOther : Refuses other) :
    AnswersAlike chain answer other

/-- Two generators answer alike for records that are the same map, whatever was called before. -/
inductive GeneratorsAlike (chain : List (SegmentWith σ)) : Generator → Generator → Prop where
  | callable {function other : UserFunction}
      (alike : ∀ record otherRecord, record.SameMap otherRecord → ∀ calls otherCalls,
        AnswersAlike chain (function.run calls (.params record))
          (other.run otherCalls (.params otherRecord))) :
    GeneratorsAlike chain (.callable function) (.callable other)
  | notCallable (type other : String) :
    GeneratorsAlike chain (.notCallable type) (.notCallable other)

/-- Two segments differ in their generators only, which answer alike. -/
structure SegmentsAlike (chain : List (SegmentWith σ)) (segment other : SegmentWith σ) : Prop where
  same : other = { segment with generator := other.generator }
  generators : Option.Rel (GeneratorsAlike chain) segment.generator other.generator

variable {chain : List (SegmentWith σ)} {segment other : SegmentWith σ} {tasks : TaskLibrary}
  {overrun : Nat → Nat}

theorem SegmentsAlike.role (alike : SegmentsAlike chain segment other) :
    other.role = segment.role := by
  rw [alike.same]

/-- Both segments have generators, which answer alike, or neither has one. -/
theorem SegmentsAlike.generator_cases (alike : SegmentsAlike chain segment other) :
    segment.generator = none ∧ other.generator = none
      ∨ ∃ generator otherGenerator, segment.generator = some generator
        ∧ other.generator = some otherGenerator
        ∧ GeneratorsAlike chain generator otherGenerator := by
  have generators := alike.generators
  generalize segment.generator = generator at generators ⊢
  generalize other.generator = otherGenerator at generators ⊢
  cases generators with
  | none => exact Or.inl ⟨rfl, rfl⟩
  | some generators => exact Or.inr ⟨_, _, rfl, rfl, generators⟩

theorem Refuses.exists_error {answer : Except Raised Value} (refuses : Refuses answer)
    (segment : SegmentWith σ) : ∃ raised, segment.itemsOf answer = .error raised := by
  cases taken : segment.itemsOf answer with
  | error raised => exact ⟨raised, rfl⟩
  | ok items =>
    obtain ⟨value, returned, offers⟩ := SegmentWith.itemsOf_eq_ok_iff.mp taken
    exact absurd offers (refuses value returned items)

theorem Refuses.mapError {answer : Except Raised Value} (refuses : Refuses answer)
    (f : Raised → Raised) : Refuses (answer.mapError f) :=
  fun value returned => refuses value (Except.mapError_eq_ok_iff.mp returned)

theorem AnswersAlike.mapError {answer otherAnswer : Except Raised Value}
    (alike : AnswersAlike chain answer otherAnswer) (f : Raised → Raised) :
    AnswersAlike chain (answer.mapError f) (otherAnswer.mapError f) := by
  cases alike with
  | offered offers offersOther respells => exact .offered offers offersOther respells
  | refused refuses refusesOther => exact .refused (refuses.mapError f) (refusesOther.mapError f)

theorem AnswersAlike.itemsOf {answer otherAnswer : Except Raised Value}
    (alike : AnswersAlike chain answer otherAnswer) (segment other : SegmentWith σ) :
    Except.Alike (List.Forall₂ (Item.Respells chain)) (segment.itemsOf answer)
      (other.itemsOf otherAnswer) := by
  cases alike with
  | offered offers offersOther respells =>
    rw [SegmentWith.itemsOf_eq_ok_iff.mpr ⟨_, rfl, offers⟩,
      SegmentWith.itemsOf_eq_ok_iff.mpr ⟨_, rfl, offersOther⟩]
    exact .succeeded respells
  | refused refuses refusesOther =>
    obtain ⟨raised, refused⟩ := refuses.exists_error segment
    obtain ⟨otherRaised, refusedOther⟩ := refusesOther.exists_error other
    rw [refused, refusedOther]
    exact .failed raised otherRaised

theorem generate_alike (alike : SegmentsAlike chain segment other)
    {record otherRecord : ParamRecord} (same : record.SameMap otherRecord)
    (calls otherCalls : List Call) :
    Except.Alike (List.Forall₂ (Item.Respells chain)) (segment.generate record calls).1
      (other.generate otherRecord otherCalls).1 := by
  unfold SegmentWith.generate
  rcases alike.generator_cases with ⟨silent, silentOther⟩ |
    ⟨generator, otherGenerator, generates, generatesOther, generators⟩
  · rw [silent, silentOther]
    exact .failed _ _
  · rw [generates, generatesOther]
    cases generators with
    | callable answers =>
      have alike := answers record otherRecord same calls otherCalls
      exact (alike.mapError Raised.leaving).itemsOf segment other
    | notCallable type otherType => exact .failed _ _

/-! ### Runs -/

theorem merge_alike (declared : WellDeclared chain) (inChain : segment ∈ chain)
    (sameRole : other.role = segment.role) {record otherRecord : ParamRecord}
    (shaped : ShapedBy chain record) (same : record.SameMap otherRecord)
    {items others : List Item} (respells : List.Forall₂ (Item.Respells chain) items others) :
    Except.Alike (List.Forall₂ ParamRecord.SameMap)
      (segment.merge record items (ownersOf chain))
      (other.merge otherRecord others (ownersOf chain)) := by
  have shapedOther := shaped.of_sameMap same
  have suitOther := shapedOther.suit declared
  refine .of_ok ?_ ?_
  · intro merged ok
    obtain ⟨otherMerged, okOther, sameMerged⟩ :=
      merge_respelled declared inChain shaped same respells ok
    exact ⟨otherMerged, (SegmentWith.merge_eq_ok_iff_of_role suitOther sameRole).mpr okOther,
      sameMerged⟩
  · intro otherMerged okOther
    have back : List.Forall₂ (Item.Respells chain) others items :=
      respells.flip.imp fun _ _ => Item.Respells.symm
    obtain ⟨merged, ok, -⟩ := merge_respelled declared inChain shapedOther same.symm back
      ((SegmentWith.merge_eq_ok_iff_of_role suitOther sameRole).mp okOther)
    exact ⟨merged, ok⟩

theorem expandRecord_alike (declared : WellDeclared chain) (inChain : segment ∈ chain)
    (alike : SegmentsAlike chain segment other) {record otherRecord : ParamRecord}
    (shaped : ShapedBy chain record) (same : record.SameMap otherRecord)
    (calls otherCalls : List Call) :
    Except.Alike (List.Forall₂ ParamRecord.SameMap)
      (expandRecord segment (ownersOf chain) record calls).1
      (expandRecord other (ownersOf chain) otherRecord otherCalls).1 := by
  rw [expandRecord, expandRecord]
  rcases (generate_alike alike same calls otherCalls).run_cases with
    ⟨_, _, _, _, failed, failedOther⟩ | ⟨_, _, _, _, answered, answeredOther, respells⟩
  · rw [failed, failedOther]
    exact .failed _ _
  · rw [answered, answeredOther]
    exact (merge_alike declared inChain alike.role shaped same respells).mapError _ _

theorem expandLevel_alike (declared : WellDeclared chain) (inChain : segment ∈ chain)
    (alike : SegmentsAlike chain segment other) {records others : List ParamRecord}
    (shaped : ∀ record ∈ records, ShapedBy chain record)
    (same : List.Forall₂ ParamRecord.SameMap records others) (calls otherCalls : List Call) :
    Except.Alike (List.Forall₂ ParamRecord.SameMap)
      (expandLevel overrun segment (ownersOf chain) records calls).1
      (expandLevel overrun other (ownersOf chain) others otherCalls).1 := by
  induction same generalizing calls otherCalls with
  | nil => exact .succeeded .nil
  | @cons record otherRecord rest othersRest sameHere _ ih =>
    rw [List.forall_mem_cons] at shaped
    rw [expandLevel, expandLevel]
    rcases (expandRecord_alike declared inChain alike shaped.1 sameHere calls otherCalls).run_cases
      with ⟨_, _, _, _, failed, failedOther⟩ | ⟨_, log, _, otherLog, ran, ranOther, sameChildren⟩
    · rw [failed, failedOther]
      exact .failed _ _
    rw [ran, ranOther]
    rcases (ih shaped.2 log otherLog).run_cases with
      ⟨_, _, _, _, failed, failedOther⟩ | ⟨_, _, _, _, ran, ranOther, sameBehind⟩
    · simp only [failed, failedOther]
      exact .failed _ _
    · simp only [ran, ranOther]
      exact .succeeded (List.rel_append sameChildren sameBehind)

/-- Chains with generators that answer alike are run in step, from records that are the same map to
such records. -/
theorem expandChain_alike (declared : WellDeclared chain) {below otherBelow : List (SegmentWith σ)}
    (inChain : ∀ segment ∈ below, segment ∈ chain)
    (alike : List.Forall₂ (SegmentsAlike chain) below otherBelow)
    {records others : List ParamRecord} (shaped : ∀ record ∈ records, ShapedBy chain record)
    (same : List.Forall₂ ParamRecord.SameMap records others) (calls otherCalls : List Call) :
    Except.Alike (List.Forall₂ ParamRecord.SameMap)
      (expandChain overrun (ownersOf chain) below records calls).1
      (expandChain overrun (ownersOf chain) otherBelow others otherCalls).1 := by
  induction alike generalizing records others calls otherCalls with
  | nil => exact .succeeded same
  | @cons segment other rest otherRest alikeHere _ ih =>
    rw [List.forall_mem_cons] at inChain
    rcases alikeHere.generator_cases with ⟨silent, silentOther⟩ |
      ⟨generator, otherGenerator, generates, generatesOther, -⟩
    · rw [expandChain_cons_of_no_generator silent, expandChain_cons_of_no_generator silentOther]
      exact ih inChain.2 shaped same calls otherCalls
    · have within := expandLevel_within overrun (merge_shapedBy inChain.1) shaped calls
      rw [expandChain_cons_of_generator generates, expandChain_cons_of_generator generatesOther]
      rcases (expandLevel_alike declared inChain.1 alikeHere shaped same calls
        otherCalls).run_cases with
        ⟨_, _, _, _, failed, failedOther⟩ | ⟨_, log, _, otherLog, ran, ranOther, sameChildren⟩
      · rw [failed, failedOther]
        exact .failed _ _
      · rw [ran] at within ⊢
        rw [ranOther]
        exact ih inChain.2 (within.records _ rfl) sameChildren log otherLog

/-! ### Paths -/

theorem sameBindings_congr {a b c d : ParamRecord} (first : a.SameMap b) (second : c.SameMap d) :
    a.sameBindings c = b.sameBindings d := by
  rw [Bool.eq_iff_iff, ParamRecord.sameBindings_iff first.nodup second.nodup,
    ParamRecord.sameBindings_iff first.nodup_other second.nodup_other]
  simp only [first.lookup?, second.lookup?]

theorem isComplete_congr {owners : Owners σ} {record otherRecord : ParamRecord}
    (same : record.SameMap otherRecord) :
    isComplete owners record = isComplete owners otherRecord := by
  rw [Bool.eq_iff_iff, isComplete_iff, isComplete_iff]
  simp only [Bindings.binds, same.lookup?]

theorem any_sameBindings_congr {record otherRecord : ParamRecord}
    (same : record.SameMap otherRecord) {seen otherSeen : List ParamRecord}
    (sameSeen : List.Forall₂ ParamRecord.SameMap seen otherSeen) :
    seen.any record.sameBindings = otherSeen.any otherRecord.sameBindings := by
  induction sameSeen with
  | nil => rfl
  | cons here _ ih => rw [List.any_cons, List.any_cons, sameBindings_congr same here, ih]

/-- Of records that are the same maps, the same ones are repeated. -/
theorem distinctFrom_sameMap {seen otherSeen records others : List ParamRecord}
    (sameSeen : List.Forall₂ ParamRecord.SameMap seen otherSeen)
    (same : List.Forall₂ ParamRecord.SameMap records others) :
    List.Forall₂ ParamRecord.SameMap (distinctFrom seen records)
      (distinctFrom otherSeen others) := by
  induction same generalizing seen otherSeen with
  | nil => exact .nil
  | cons here _ ih =>
    rw [distinctFrom, distinctFrom, any_sameBindings_congr here sameSeen]
    split
    · exact ih sameSeen
    · exact .cons here (ih (.cons here sameSeen))

theorem pathsOf_sameMap (owners : Owners σ) {records others : List ParamRecord}
    (same : List.Forall₂ ParamRecord.SameMap records others) :
    List.Forall₂ ParamRecord.SameMap (pathsOf owners records) (pathsOf owners others) := by
  refine distinctFrom_sameMap .nil (List.rel_filter ?_ same)
  intro record otherRecord here
  simp only [isComplete_congr here]

theorem pathnamesOf_congr (pathname : Option String) {paths others : List ParamRecord}
    (same : List.Forall₂ ParamRecord.SameMap paths others) :
    pathnamesOf pathname paths = pathnamesOf pathname others := by
  cases pathname with
  | none => rfl
  | some pathname =>
    show paths.mapM _ = others.mapM _
    induction same with
    | nil => rfl
    | cons here _ ih =>
      have filled := Pathname.interpolate_congr pathname fun param _ => here.lookup? param.name
      rw [List.mapM_cons, List.mapM_cons, filled, ih]

/-! ### Results -/

/-- Two results say the same of a route: their paths are, in order, the same maps. -/
structure SameResult (result other : StaticPaths ρ) : Prop where
  fallback : result.fallback = other.fallback
  revalidate : result.revalidate = other.revalidate
  paths : List.Forall₂ ParamRecord.SameMap result.paths other.paths
  pathnames : result.pathnames = other.pathnames

theorem concluded_alike (policy : ExpansionPolicy ρ) (pathname : Option String)
    (fallbackShells : Bool) (owners : Owners σ)
    {run otherRun : Except Raised (List ParamRecord) × List Call}
    (alike : Except.Alike (List.Forall₂ ParamRecord.SameMap) run.1 otherRun.1) :
    Except.Alike SameResult (concluded policy pathname fallbackShells owners run).1
      (concluded policy pathname fallbackShells owners otherRun).1 := by
  rcases alike.run_cases with ⟨_, _, _, _, rfl, rfl⟩ | ⟨records, _, _, _, rfl, rfl, same⟩
  · exact .failed _ _
  · have samePaths := pathsOf_sameMap owners same
    simp only [concluded, ← pathnamesOf_congr pathname samePaths]
    cases pathnamesOf pathname (pathsOf owners records) with
    | error crash => exact .failed _ _
    | ok pathnames => exact .succeeded ⟨rfl, rfl, samePaths, rfl⟩

/-- The paths of an expansion bind no name twice. -/
theorem nodup_of_expand {policy : ExpansionPolicy ρ} {pathname : Option String}
    {fallbackShells : Bool} {concurrency : Value} {calls log : List Call} {result : StaticPaths ρ}
    (expanded : expand tasks chain policy pathname fallbackShells concurrency calls
      = (.ok result, log)) :
    ∀ path ∈ result.paths, path.names.Nodup := by
  rcases expand_cases expanded with ⟨-, early⟩ | ⟨-, -, late⟩
  · rw [(early result rfl).1]
    exact fun _ member => absurd member List.not_mem_nil
  · obtain ⟨records, ran, paths, -⟩ := late result rfl
    have within := expandChain_within (tasks.overrun concurrency)
      (fun _ inChain => merge_shapedBy inChain)
      (List.forall_mem_singleton.mpr (shapedBy_nil chain)) calls
    intro path member
    rw [paths] at member
    exact (within.records records ran path (mem_of_mem_pathsOf member).1).nodup

theorem alike_of_segmentsAlike {below otherBelow : List (SegmentWith σ)}
    (alike : List.Forall₂ (SegmentsAlike chain) below otherBelow) : Alike below otherBelow := by
  unfold Alike
  induction alike with
  | nil => rfl
  | @cons segment other rest otherRest here _ ih =>
    have sameDynamic := SegmentWith.isDynamic_of_role here.role
    have sameBare : other.bare = segment.bare := by
      rw [here.same]
      rfl
    rw [List.filter_cons, List.filter_cons, sameDynamic]
    split
    · rw [List.map_cons, List.map_cons, sameBare, ih]
    · exact ih

end Expansion

open Expansion in
/-- How generators represent their answers does not matter. If the generators of two chains answer
alike, up to the container, the order of keys and the spelling of values, and look at their records
as maps only, then the expansions of the two chains both fail, or both have results with the same
fallback, revalidation and pathnames, and with paths that are, in order, the same maps. -/
theorem expand_representation (tasks : TaskLibrary) (chain other : List (SegmentWith σ))
    (policy : ExpansionPolicy ρ)
    (pathname : Option String) (fallbackShells : Bool) (concurrency : Value)
    (calls otherCalls : List Call) (alike : List.Forall₂ (SegmentsAlike chain) chain other) :
    Except.Alike SameResult
      (expand tasks chain policy pathname fallbackShells concurrency calls).1
      (expand tasks other policy pathname fallbackShells concurrency otherCalls).1 := by
  rcases (alike_of_segmentsAlike alike).expand_eq policy pathname fallbackShells concurrency with
    ⟨ended, early⟩ | ⟨runs, late⟩
  · rw [(early calls).1, (early otherCalls).2]
    refine .refl ?_
    rintro result rfl
    have nodup := nodup_of_expand (early calls).1
    refine ⟨rfl, rfl, List.forall₂_same.mpr ?_, rfl⟩
    exact fun path member => .refl (nodup path member)
  · rw [(late calls).1, (late otherCalls).2]
    apply concluded_alike
    exact expandChain_alike runs.declared (fun _ inChain => inChain) alike
      (List.forall_mem_singleton.mpr (shapedBy_nil chain)) (.cons (.refl List.nodup_nil) .nil)
      calls otherCalls

open Expansion in
theorem expand_representation_reordered :
    let first : List Entries :=
      [ [(.text "lang", .text "en"), (.text "rest", .list [.text "a", .text "b"])],
        [(.text "lang", .text "de"), (.text "rest", .none)] ]
    let second : List Entries :=
      [ [(.text "rest", .tuple [.text "a", .text "b"]), (.text "lang", .text "en")],
        [(.text "rest", .list []), (.text "lang", .text "de")] ]
    let pages (record : ParamRecord) : List Entries :=
      let name := if record.lookup? "lang" = some (.text "en") then "one" else "eins"
      [[(.text "page", .text name)]]
    let root (answer : Value) : SegmentWith Unit :=
      { name := "", generator := some (.callable ⟨"root", fun _ _ => .ok answer⟩) }
    let lang : SegmentWith Unit :=
      { name := "[lang]", role := .dynamic (some ⟨"lang", .single⟩) }
    let page (answer : List Entries → Value) : SegmentWith Unit :=
      { name := "[page]", role := .dynamic (some ⟨"page", .single⟩)
        generator := some (.callable ⟨"page", fun _ arguments =>
          match arguments with
          | .params record => .ok (answer (pages record))
          | .locales .. => .ok .none⟩) }
    let rest : SegmentWith Unit :=
      { name := "[[...rest]]", role := .dynamic (some ⟨"rest", .optionalCatchAll⟩) }
    let chain := [root (.list (first.map .mapping)), lang,
      page fun items => .tuple (items.map .mapping), rest]
    let other := [root (.stream (second.map .mapping) none), lang,
      page fun items => .list (items.map .mapping), rest]
    let run (chain : List (SegmentWith Unit)) :=
      (expand .standard chain ⟨.static, (), true⟩ (some "/[lang]/[page]/[[...rest]]") false
        (.number (.int 8)) []).1
    List.Forall₂ (SegmentsAlike chain) chain other
      ∧ Except.Alike SameResult (run chain) (run other)
      ∧ (run chain).map (·.pathnames) = .ok ["/en/one/a/b", "/de/eins"] := by
  intro first second pages root lang page rest chain other run
  have alike : List.Forall₂ (SegmentsAlike chain) chain other := by
    refine .cons ⟨rfl, .some (.callable ?_)⟩ (.cons ⟨rfl, .none⟩
      (.cons ⟨rfl, .some (.callable ?_)⟩ (.cons ⟨rfl, .none⟩ .nil)))
    · intro _ _ _ _ _
      exact .offered (.list (Value.areMappings_mapping first))
        (.stream (Value.areMappings_mapping second) nofun)
        (.cons (.read ⟨by decide, .swap _ _ _⟩) (.cons (.read ⟨by decide, .swap _ _ _⟩) .nil))
    · intro record otherRecord same _ _
      have samePages : pages record = pages otherRecord := by
        simp only [pages, same.lookup?]
      exact .offered (.tuple (Value.areMappings_mapping _)) (.list (Value.areMappings_mapping _))
        (samePages ▸ .cons (.read ⟨List.nodup_singleton "page", .refl _⟩) .nil)
  refine ⟨alike, expand_representation _ _ _ _ _ _ _ _ _ alike, ?_⟩
  decide +kernel

end Prerender
