import Prerender.Expansion.Generator
import Prerender.Proofs.Except

/-!
# What generators answer

An answer is taken if it is a list, a tuple or an iterator of mappings (`itemsOf_eq_ok_iff`). So
whether a call gives items, and which, depends on what is called and on nothing else about the
segment (`generate_eq_ok_iff`).
-/

namespace Prerender

namespace Value

/-- Values that are mappings, with what each of them holds or raises. -/
abbrev AreMappings (values : List Value) (items : List Item) : Prop :=
  values.map asMapping? = items.map some

/-- A value that holds items: a list, a tuple or an iterator that comes to its end. -/
inductive Offers (items : List Item) : Value → Prop where
  | list {values : List Value} (mappings : AreMappings values items) : Offers items (.list values)
  | tuple {values : List Value} (mappings : AreMappings values items) :
    Offers items (.tuple values)
  | stream {values : List Value} {raised : Option Raised} (mappings : AreMappings values items)
      (ends : ∀ last, raised = some last → last.endsIteration = true) :
    Offers items (.stream values raised)

/-- Mappings that can be read. -/
theorem areMappings_mapping (items : List Entries) :
    AreMappings (items.map .mapping) (items.map .ok) := by
  simp [AreMappings, asMapping?, Function.comp_def]

end Value

namespace SegmentWith

variable {σ : Type}

theorem mappingsOf_eq_ok_iff {segment : SegmentWith σ} {values : List Value} {items : List Item} :
    segment.mappingsOf values = .ok items ↔ Value.AreMappings values items := by
  induction values generalizing items with
  | nil =>
    rw [mappingsOf, Value.AreMappings, List.map_nil, eq_comm (a := []), List.map_eq_nil_iff]
    exact ⟨fun ok => (Except.ok.inj ok).symm, fun none => none ▸ rfl⟩
  | cons value rest ih =>
    rw [mappingsOf, Value.AreMappings, List.map_cons]
    cases mapping : value.asMapping? with
    | none =>
      refine iff_of_false (by rintro ⟨⟩) fun split => ?_
      obtain ⟨_, _, _, isMapping, _⟩ := List.map_eq_cons_iff.mp split.symm
      cases isMapping
    | some item =>
      rw [Except.bind_eq_ok_iff]
      constructor
      · rintro ⟨others, behind, same⟩
        cases same
        rw [ih.mp behind, List.map_cons]
      · intro split
        obtain ⟨first, others, rfl, isMapping, behind⟩ := List.map_eq_cons_iff.mp split.symm
        cases isMapping
        exact ⟨others, ih.mpr behind.symm, rfl⟩

theorem answerItems_eq_ok_iff {segment : SegmentWith σ} {answer : Value} {values : List Value} :
    segment.answerItems answer = .ok values
      ↔ answer = .list values ∨ answer = .tuple values
        ∨ ∃ raised, answer = .stream values raised
          ∧ ∀ last, raised = some last → last.endsIteration = true := by
  cases answer with
  | stream items raised =>
    cases raised with
    | none => simp [answerItems]
    | some last => cases ends : last.endsIteration <;> simp [answerItems, ends]
  | _ => simp [answerItems, refuseAnswer]

theorem itemsOf_eq_ok_iff {segment : SegmentWith σ} {answer : Except Raised Value}
    {items : List Item} :
    segment.itemsOf answer = .ok items ↔ ∃ value, answer = .ok value ∧ value.Offers items := by
  cases answer with
  | error raised =>
    refine iff_of_false (by rintro ⟨⟩) ?_
    rintro ⟨_, ⟨⟩, _⟩
  | ok value =>
    rw [itemsOf, Except.bind_eq_ok_iff]
    simp only [mappingsOf_eq_ok_iff, answerItems_eq_ok_iff, Except.ok.injEq, exists_eq_left']
    constructor
    · rintro ⟨values, rfl | rfl | ⟨raised, rfl, ends⟩, mappings⟩
      · exact .list mappings
      · exact .tuple mappings
      · exact .stream mappings ends
    · rintro (mappings | mappings | ⟨mappings, ends⟩)
      · exact ⟨_, .inl rfl, mappings⟩
      · exact ⟨_, .inr (.inl rfl), mappings⟩
      · exact ⟨_, .inr (.inr ⟨_, rfl, ends⟩), mappings⟩

/-- A call gives items if there is a function to call and what that returns offers them. -/
theorem generate_eq_ok_iff {segment : SegmentWith σ} {record : ParamRecord}
    {calls log : List Call} {items : List Item} :
    segment.generate record calls = (.ok items, log)
      ↔ ∃ function value, segment.generator = some (.callable function)
        ∧ function.run calls (.params record) = .ok value ∧ value.Offers items
        ∧ log = calls ++ [⟨function.name, .params record⟩] := by
  unfold generate
  split
  · simp [*]
  · simp [*]
  · next function called =>
    simp only [called, Option.some.injEq, Generator.callable.injEq, Prod.mk.injEq,
      itemsOf_eq_ok_iff, UserFunction.invoke, Except.mapError_eq_ok_iff]
    constructor
    · rintro ⟨⟨value, ran, offers⟩, rfl⟩
      exact ⟨function, value, rfl, ran, offers, rfl⟩
    · rintro ⟨_, value, rfl, ran, offers, rfl⟩
      exact ⟨⟨value, ran, offers⟩, rfl⟩

end SegmentWith

end Prerender
