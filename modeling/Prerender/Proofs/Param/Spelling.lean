import Prerender.Proofs.Param

/-!
# How parameters are spelled

A parameter is spelled as its name in the brackets of its kind (`SegmentParam.spelling`). A
component spells a parameter out (`SpelledBy`) if it is that text, with or without one line feed at
the end, and if the name is one.

`parse?_recognizes_spellings` says that a component declares exactly the parameter that it spells
out. No component spells out two (`SpelledBy.unique`): the marks around a name are no word
characters, so what stands before the first word character of a spelling is all that its kind puts
there.
-/

namespace Prerender

/-! ### A final line feed -/

/-- A text that does not end in a line feed is what stays of itself, and of itself with one line
feed more. -/
theorem Text.dropFinalNewline_eq_iff {text stripped : List Char}
    (ends : stripped.getLast? ≠ some '\n') :
    dropFinalNewline text = stripped ↔ text = stripped ∨ text = stripped ++ ['\n'] := by
  unfold dropFinalNewline
  constructor
  · rintro rfl
    split
    · next newline =>
      obtain ⟨front, rfl⟩ := List.getLast?_eq_some_iff.mp newline
      rw [List.dropLast_concat]
      exact Or.inr rfl
    · exact Or.inl rfl
  · rintro (rfl | rfl)
    · exact if_neg ends
    · rw [if_pos List.getLast?_concat, List.dropLast_concat]

namespace SegmentParam

/-! ### Names -/

/-- A name of a parameter consists of word characters, of one at least. -/
structure IsName (name : String) : Prop where
  ne_empty : name ≠ ""
  isWord : ∀ c ∈ name.toList, Text.isWord c = true

theorem paramName?_eq_some_iff {inner : List Char} {name : String} :
    paramName? inner = some name ↔ inner = name.toList ∧ IsName name := by
  unfold paramName?
  constructor
  · intro read
    split at read
    · next isName =>
      cases read
      refine ⟨String.toList_ofList.symm, fun empty => isName.1 ?_, ?_⟩
      · simpa using congrArg String.toList empty
      · rw [String.toList_ofList]
        exact List.all_eq_true.mp isName.2
    · cases read
  · rintro ⟨rfl, isName⟩
    have some : name.toList ≠ [] := fun none => isName.ne_empty (String.toList_inj.mp none)
    rw [if_pos ⟨some, List.all_eq_true.mpr isName.isWord⟩, String.ofList_toList]

/-! ### Spellings -/

/-- The path component that a parameter is spelled as. -/
def spelling (param : SegmentParam) : String :=
  match param.kind with
  | .single => "[" ++ param.name ++ "]"
  | .catchAll => "[..." ++ param.name ++ "]"
  | .optionalCatchAll => "[[..." ++ param.name ++ "]]"

/-- A component spells a parameter out, possibly with one line feed at the end. -/
structure SpelledBy (param : SegmentParam) (component : String) : Prop where
  isName : IsName param.name
  spelled : component = param.spelling ∨ component = param.spelling ++ "\n"

theorem toList_spelling (param : SegmentParam) :
    param.spelling.toList
      = (brackets param.kind).1 ++ param.name.toList ++ (brackets param.kind).2 := by
  obtain ⟨name, kind⟩ := param
  cases kind <;> simp [spelling, brackets]

theorem getLast?_spelling (param : SegmentParam) :
    param.spelling.toList.getLast? = some ']' := by
  rw [toList_spelling, List.getLast?_append]
  cases param.kind <;> rfl

/-- What a component spells out is what stays of it without a final line feed. -/
theorem spelled_iff_dropFinalNewline_eq {param : SegmentParam} {component : String} :
    component = param.spelling ∨ component = param.spelling ++ "\n"
      ↔ Text.dropFinalNewline component.toList = param.spelling.toList := by
  have ends : param.spelling.toList.getLast? ≠ some '\n' := by
    rw [getLast?_spelling]
    decide
  rw [Text.dropFinalNewline_eq_iff ends, ← String.toList_inj, ← String.toList_inj,
    String.toList_append]
  rfl

/-- Reading a component as a parameter of some kind gives the parameter of that kind that it spells
out. -/
theorem parseAs?_eq_some_iff_spelledBy {kind : ParamKind} {component : String}
    {param : SegmentParam} :
    parseAs? kind component = some param ↔ param.kind = kind ∧ param.SpelledBy component := by
  rw [parseAs?_eq_some_iff]
  constructor
  · rintro ⟨rfl, inner, named, stands⟩
    obtain ⟨rfl, isName⟩ := paramName?_eq_some_iff.mp named
    rw [← toList_spelling] at stands
    exact ⟨rfl, isName, spelled_iff_dropFinalNewline_eq.mpr stands⟩
  · rintro ⟨rfl, isName, spelled⟩
    refine ⟨rfl, _, paramName?_eq_some_iff.mpr ⟨rfl, isName⟩, ?_⟩
    rw [← toList_spelling]
    exact spelled_iff_dropFinalNewline_eq.mp spelled

/-! ### One parameter for each component -/

theorem isWord_opening (kind : ParamKind) : ∀ c ∈ (brackets kind).1, Text.isWord c = false := by
  have none : (brackets kind).1.all (fun c => Text.isWord c = false) = true := by
    cases kind <;> decide +kernel
  exact fun c member => of_decide_eq_true (List.all_eq_true.mp none c member)

/-- The marks in front of a name are what stands before the first word character. -/
theorem takeWhile_spelling {param : SegmentParam} (isName : IsName param.name) :
    param.spelling.toList.takeWhile (fun c => !Text.isWord c) = (brackets param.kind).1 := by
  have marks : ∀ c ∈ (brackets param.kind).1, (!Text.isWord c) = true := by
    intro c member
    rw [isWord_opening param.kind c member]
    rfl
  have some : param.name.toList ≠ [] := fun none => isName.ne_empty (String.toList_inj.mp none)
  obtain ⟨first, rest, spelled⟩ := List.exists_cons_of_ne_nil some
  have isWord : Text.isWord first = true :=
    isName.isWord first (by rw [spelled]; exact List.mem_cons_self)
  rw [toList_spelling, List.append_assoc, List.takeWhile_append_of_pos marks, spelled,
    List.cons_append, List.takeWhile_cons_of_neg (by simp [isWord]), List.append_nil]

theorem opening_injective : ∀ kind other : ParamKind,
    (brackets kind).1 = (brackets other).1 → kind = other := by
  intro kind other
  cases kind <;> cases other <;> decide

/-- A component spells out one parameter at most. -/
theorem SpelledBy.unique {param other : SegmentParam} {component : String}
    (spelled : param.SpelledBy component) (otherSpelled : other.SpelledBy component) :
    param = other := by
  have same : param.spelling.toList = other.spelling.toList :=
    (spelled_iff_dropFinalNewline_eq.mp spelled.spelled).symm.trans
      (spelled_iff_dropFinalNewline_eq.mp otherSpelled.spelled)
  have kinds : param.kind = other.kind := by
    apply opening_injective
    rw [← takeWhile_spelling spelled.isName, ← takeWhile_spelling otherSpelled.isName, same]
  obtain ⟨name, kind⟩ := param
  obtain ⟨otherName, otherKind⟩ := other
  obtain rfl : kind = otherKind := kinds
  rw [toList_spelling, toList_spelling] at same
  have names := List.append_cancel_left (List.append_cancel_right same)
  obtain rfl : name = otherName := String.toList_inj.mp names
  rfl

/-- Whatever order the kinds are tried in, a component gives the parameter that it spells out. -/
theorem findSome?_parseAs?_eq_some_iff {component : String} {order : List ParamKind}
    (complete : ∀ kind, kind ∈ order) {param : SegmentParam} :
    order.findSome? (parseAs? · component) = some param ↔ param.SpelledBy component := by
  constructor
  · intro found
    obtain ⟨kind, -, read⟩ := List.exists_of_findSome?_eq_some found
    exact (parseAs?_eq_some_iff_spelledBy.mp read).2
  · intro spelled
    have read := parseAs?_eq_some_iff_spelledBy.mpr ⟨rfl, spelled⟩
    have isSome : (order.findSome? (parseAs? · component)).isSome = true := by
      rw [List.findSome?_isSome_iff]
      exact ⟨param.kind, complete param.kind, by rw [read]; rfl⟩
    obtain ⟨other, found⟩ := Option.isSome_iff_exists.mp isSome
    obtain ⟨kind, -, readOther⟩ := List.exists_of_findSome?_eq_some found
    rw [found, (parseAs?_eq_some_iff_spelledBy.mp readOther).2.unique spelled]

theorem parse?_eq_findSome? (component : String) :
    parse? component
      = [.optionalCatchAll, .catchAll, .single].findSome? (parseAs? · component) := by
  simp only [parse?, List.findSome?_cons, List.findSome?_nil]
  cases parseAs? .optionalCatchAll component with
  | some param => rfl
  | none =>
    cases parseAs? .catchAll component with
    | some param => rfl
    | none => cases parseAs? .single component <;> rfl

/-- A component declares a parameter exactly if it spells that out: the name, made of word
characters, in the brackets of the kind, with or without one line feed at the end. It spells out one
parameter at most, so that the kinds may be tried in any order; and what declares a parameter is
dynamic. -/
theorem parse?_recognizes_spellings (component : String) :
    (∀ param, parse? component = some param ↔ param.SpelledBy component)
      ∧ (∀ param other : SegmentParam,
          param.SpelledBy component → other.SpelledBy component → param = other)
      ∧ (∀ order : List ParamKind, (∀ kind, kind ∈ order) →
          order.findSome? (parseAs? · component) = parse? component)
      ∧ ∀ param, parse? component = some param → isBracketed component = true := by
  have exact_iff : ∀ param, parse? component = some param ↔ param.SpelledBy component := by
    intro param
    rw [parse?_eq_findSome?]
    exact findSome?_parseAs?_eq_some_iff fun kind => by cases kind <;> decide
  refine ⟨exact_iff, fun _ _ => SpelledBy.unique, ?_, fun _ => isBracketed_of_parse?⟩
  intro order complete
  ext param
  rw [exact_iff, findSome?_parseAs?_eq_some_iff complete]

/-- A name of another script, behind which stands a line feed. -/
theorem parse?_recognizes_spellings_path :
    let component := "[[...путь]]\n"
    let param : SegmentParam := ⟨"путь", .optionalCatchAll⟩
    let order : List ParamKind := [.single, .catchAll, .optionalCatchAll]
    param.SpelledBy component ∧ (∀ kind, kind ∈ order)
      ∧ order.findSome? (parseAs? · component) = some param ∧ isBracketed component = true := by
  intro component param order
  obtain ⟨exact_iff, -, reordered, bracketed⟩ := parse?_recognizes_spellings component
  have declares : parse? component = some param := by decide +kernel
  have complete : ∀ kind, kind ∈ order := fun kind => by cases kind <;> decide
  exact ⟨(exact_iff param).mp declares, complete, (reordered order complete).trans declares,
    bracketed param declares⟩

end SegmentParam

end Prerender
