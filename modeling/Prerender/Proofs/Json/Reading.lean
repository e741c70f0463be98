import Prerender.Proofs.Json.Strings
import Prerender.Proofs.Number.Text

/-!
# Reading JSON text

The text of a JSON value tells which value it is and where it ends, whatever stands behind it as
long as that starts with a character that ends a number (`Json.decodes_renderAt`). So the text of a
value in some layout determines the value (`Json.render_injective`), whatever unit the layout
indents by.

The first character gives the kind of the value (`Json.exists_first`). Behind an item of an array or
a member of an object comes a comma or the end of the array or the object, so one list of texts is
read off another item by item (`Json.separated_append_inj`).
-/

namespace Prerender

namespace Json

/-! ### Where a value ends -/

/-- A character that may stand behind a value. -/
def IsStop (c : Char) : Prop :=
  c = ',' ∨ c = '\n' ∨ c = ']' ∨ c = '\x7d'

instance (c : Char) : Decidable (IsStop c) :=
  inferInstanceAs (Decidable (c = ',' ∨ c = '\n' ∨ c = ']' ∨ c = '\x7d'))

/-- What stands behind a value does not go on with it. -/
def Stops (rest : List Char) : Prop :=
  ∀ first more, rest = first :: more → IsStop first

theorem stops_nil : Stops [] := by
  rintro _ _ ⟨⟩

theorem stops_cons {first : Char} (isStop : IsStop first) (rest : List Char) :
    Stops (first :: rest) := by
  rintro _ _ ⟨⟩
  exact isStop

/-- A text of a value is told from the texts of other values, whatever stands behind. -/
def Decodes {α : Type} (text : α → String) (value : α) : Prop :=
  ∀ other rest more, Stops rest → Stops more →
    (text value).toList ++ rest = (text other).toList ++ more → value = other ∧ rest = more

/-- Two words without characters that may stand behind a value are the same if they start a text
alike. -/
theorem word_append_inj {word other rest more : List Char} (inWord : ∀ c ∈ word, ¬IsStop c)
    (inOther : ∀ c ∈ other, ¬IsStop c) (stops : Stops rest) (stopsMore : Stops more)
    (same : word ++ rest = other ++ more) : word = other ∧ rest = more := by
  induction word generalizing other with
  | nil =>
    cases other with
    | nil => exact ⟨rfl, same⟩
    | cons c other => exact absurd (stops c _ same) (inOther c List.mem_cons_self)
  | cons c word ih =>
    cases other with
    | nil => exact absurd (stopsMore c _ same.symm) (inWord c List.mem_cons_self)
    | cons d other =>
      rw [List.forall_mem_cons] at inWord inOther
      obtain ⟨rfl, behind⟩ := List.cons.inj same
      obtain ⟨rfl, rfl⟩ := ih inWord.2 inOther.2 behind
      exact ⟨rfl, rfl⟩

theorem not_isStop_of_mem_boolText {value : Bool} {c : Char}
    (member : c ∈ (if value then "true" else "false").toList) : ¬IsStop c := by
  have each : ∀ value : Bool,
      (if value then "true" else "false").toList.all (fun c => ¬IsStop c) = true := by
    decide
  exact of_decide_eq_true (List.all_eq_true.mp (each value) c member)

/-! ### Numbers -/

/-- The floating-point numbers that have a name, with their names. -/
def floatNames : List (Floating × String) :=
  [(.infinite true, "-Infinity"), (.infinite false, "Infinity"), (.notANumber, "NaN")]

/-- A number is written by its own text, or it has a name. -/
theorem numberText_cases (number : Number) :
    (numberText number = number.text ∧ (∀ c ∈ number.text.toList, IsNumeral c)
        ∧ StartsNumeral number.text.toList)
      ∨ ∃ floating, number = .float floating ∧ (floating, numberText number) ∈ floatNames := by
  rcases number with n | d | (_ | _) | _
  · refine .inl ⟨rfl, fun c member => ?_, startsNumeral_int n⟩
    exact (isNumeral_of_mem_int member).imp_right .inl
  · exact .inl ⟨rfl, fun c => Decimal.isNumeral_of_mem_text, d.startsNumeral_text⟩
  · exact .inr ⟨_, rfl, by decide⟩
  · exact .inr ⟨_, rfl, by decide⟩
  · exact .inr ⟨_, rfl, by decide⟩

theorem not_isStop_of_isNumeral {c : Char} (numeral : IsNumeral c) : ¬IsStop c := by
  rintro (rfl | rfl | rfl | rfl) <;> revert numeral <;> simp [IsNumeral]

theorem not_isStop_of_mem_numberText {number : Number} {c : Char}
    (member : c ∈ (numberText number).toList) : ¬IsStop c := by
  rcases numberText_cases number with ⟨same, numerals, -⟩ | ⟨floating, rfl, named⟩
  · rw [same] at member
    exact not_isStop_of_isNumeral (numerals c member)
  · have each : ∀ entry ∈ floatNames, entry.2.toList.all (fun c => ¬IsStop c) = true := by decide
    exact of_decide_eq_true (List.all_eq_true.mp (each _ named) c member)

/-- The text of a number tells which one it is. -/
theorem numberText_injective {a b : Number} (same : numberText a = numberText b) : a = b := by
  have letter : ∀ entry ∈ floatNames, entry.2.toList.all (fun c => IsNumeral c) = false := by
    decide
  have unnamed : ∀ {number other : Number} {floating : Floating},
      (∀ c ∈ number.text.toList, IsNumeral c) → (floating, numberText other) ∈ floatNames →
        number.text ≠ numberText other := by
    intro number other floating numerals named same
    have all : number.text.toList.all (fun c => IsNumeral c) = true :=
      List.all_eq_true.mpr fun c member => decide_eq_true (numerals c member)
    rw [same, letter _ named] at all
    cases all
  rcases numberText_cases a with ⟨plain, numerals, -⟩ | ⟨floating, rfl, named⟩
  · rcases numberText_cases b with ⟨otherPlain, -, -⟩ | ⟨other, rfl, otherNamed⟩
    · exact Number.text_injective (plain.symm.trans (same.trans otherPlain))
    · exact absurd (plain.symm.trans same) (unnamed numerals otherNamed)
  · rcases numberText_cases b with ⟨otherPlain, otherNumerals, -⟩ | ⟨other, rfl, otherNamed⟩
    · exact absurd (otherPlain.symm.trans same.symm) (unnamed otherNumerals named)
    · have each : ∀ entry ∈ floatNames, ∀ other ∈ floatNames, entry.2 = other.2 →
          entry.1 = other.1 := by
        decide
      exact congrArg Number.float (each _ named _ otherNamed same)

/-! ### The kind of a value -/

/-- What kind of value a JSON value is. -/
inductive Shape where
  | null
  | bool
  | number
  | text
  | array
  | object
deriving DecidableEq

/-- The kind of a value. -/
def shape : Json → Shape
  | .null => .null
  | .bool _ => .bool
  | .number _ => .number
  | .text _ => .text
  | .array _ => .array
  | .object _ => .object

/-- The kind of a value by the first character of its text. -/
def Shape.ofFirst (first : Char) : Shape :=
  if first = 'n' then .null
  else if first = 't' ∨ first = 'f' then .bool
  else if first = '"' then .text
  else if first = '[' then .array
  else if first = '\x7b' then .object
  else .number

theorem Shape.ofFirst_numeral {first : Char} (starts : first.isDigit = true ∨ first = '-') :
    Shape.ofFirst first = .number := by
  rcases starts with isDigit | rfl
  · have ne : ∀ {other : Char}, other.isDigit = false → first ≠ other := ne_of_isDigit isDigit
    rw [ofFirst, if_neg (ne (by decide)),
      if_neg (not_or.mpr ⟨ne (by decide), ne (by decide)⟩), if_neg (ne (by decide)),
      if_neg (ne (by decide)), if_neg (ne (by decide))]
  · rfl

theorem exists_first_number (number : Number) :
    ∃ first more, (numberText number).toList = first :: more
      ∧ Shape.ofFirst first = .number := by
  rcases numberText_cases number with
    ⟨same, -, first, more, spelled, starts⟩ | ⟨floating, rfl, named⟩
  · exact ⟨first, more, by rw [same, spelled], Shape.ofFirst_numeral starts⟩
  · have each : ∀ entry ∈ floatNames, entry.2.toList.head?.map Shape.ofFirst = some .number := by
      decide
    have isNumber := each _ named
    simp only at isNumber
    cases spelled : (numberText (.float floating)).toList with
    | nil =>
      rw [spelled] at isNumber
      cases isNumber
    | cons first more =>
      rw [spelled] at isNumber
      exact ⟨first, more, rfl, Option.some.inj isNumber⟩

theorem toList_enclose_head (layout : Layout) (depth : Nat) (opening : Char) (closing : String)
    (items : List String) :
    ∃ more, (enclose layout depth opening.toString closing items).toList = opening :: more := by
  unfold enclose
  split <;> simp [Char.toString]

/-- The first character of a text tells the kind of the value, and cannot stand behind one. -/
theorem exists_first (layout : Layout) (depth : Nat) (value : Json) :
    ∃ first more, (renderAt layout depth value).toList = first :: more
      ∧ Shape.ofFirst first = value.shape ∧ ¬IsStop first := by
  cases value with
  | null => exact ⟨'n', ['u', 'l', 'l'], by rw [renderAt]; decide, rfl, by decide⟩
  | bool value =>
    cases value with
    | false => exact ⟨'f', ['a', 'l', 's', 'e'], by rw [renderAt]; decide, rfl, by decide⟩
    | true => exact ⟨'t', ['r', 'u', 'e'], by rw [renderAt]; decide, rfl, by decide⟩
  | number number =>
    obtain ⟨first, more, spelled, isNumber⟩ := exists_first_number number
    have member : first ∈ (numberText number).toList := by
      rw [spelled]
      exact List.mem_cons_self
    exact ⟨first, more, spelled, isNumber, not_isStop_of_mem_numberText member⟩
  | text content =>
    rw [renderAt, stringText, String.toList_ofList]
    exact ⟨'"', _, rfl, rfl, by decide⟩
  | array items =>
    obtain ⟨more, spelled⟩ :=
      toList_enclose_head layout depth '[' "]" (renderItems layout (depth + 1) items)
    exact ⟨'[', more, spelled, rfl, by decide⟩
  | object members =>
    obtain ⟨more, spelled⟩ :=
      toList_enclose_head layout depth '\x7b' "\x7d" (renderMembers layout (depth + 1) members)
    exact ⟨'\x7b', more, spelled, rfl, by decide⟩

/-! ### Texts in brackets -/

variable {α : Type} {text : α → String}

theorem toList_intercalate_cons (separator first : String) (rest : List String) :
    (separator.intercalate (first :: rest)).toList
      = first.toList ++ rest.flatMap fun item => separator.toList ++ item.toList := by
  induction rest generalizing first with
  | nil => simp
  | cons second rest ih =>
    rw [String.intercalate_cons_cons, String.toList_append, String.toList_append, ih,
      List.flatMap_cons, List.append_assoc, List.append_assoc]

theorem toList_toString_char (c : Char) : c.toString.toList = [c] := by
  simp [Char.toString]

theorem toList_enclose_nil (layout : Layout) (depth : Nat) (opening closing : Char) :
    (enclose layout depth opening.toString closing.toString []).toList = [opening, closing] := by
  rw [enclose, List.isEmpty_nil, if_pos rfl, String.toList_append, toList_toString_char,
    toList_toString_char, List.singleton_append]

/-- Texts in brackets: the first one behind a break, each other one behind a separator, and a break
before the end. -/
theorem toList_enclose_cons (layout : Layout) (depth : Nat) (opening closing : Char) (a : α)
    (as : List α) :
    (enclose layout depth opening.toString closing.toString ((a :: as).map text)).toList
      = opening :: ((layout.lineBreak (depth + 1)).toList ++ ((text a).toList
        ++ ((as.flatMap fun a => (layout.separator (depth + 1)).toList ++ (text a).toList)
          ++ ((layout.lineBreak depth).toList ++ [closing])))) := by
  rw [enclose, List.map_cons, List.isEmpty_cons, if_neg Bool.false_ne_true]
  simp only [String.toList_append, toList_intercalate_cons, toList_toString_char, List.flatMap_map,
    List.append_assoc, List.cons_append, List.nil_append]

theorem exists_separator (layout : Layout) (depth : Nat) :
    ∃ tail, (layout.separator depth).toList = ',' :: tail := by
  cases layout with
  | oneLine => exact ⟨[' '], by rw [Layout.separator]; decide⟩
  | lines unit => exact ⟨_, by rw [Layout.separator, String.toList_append]; rfl⟩

/-- Before the end of an array or an object there is no comma, but what may stand behind a value. -/
theorem exists_end (layout : Layout) (depth : Nat) {closing : Char}
    (closes : closing = ']' ∨ closing = '\x7d') (rest : List Char) :
    ∃ first more, (layout.lineBreak depth).toList ++ closing :: rest = first :: more
      ∧ first ≠ ',' ∧ IsStop first := by
  cases layout with
  | oneLine =>
    refine ⟨closing, rest, rfl, ?_⟩
    rcases closes with rfl | rfl <;> decide
  | lines unit =>
    refine ⟨'\n', (String.join (List.replicate depth unit)).toList ++ closing :: rest, ?_,
      by decide, by decide⟩
    rw [Layout.lineBreak, String.toList_append]
    rfl

/-- Behind a value that is followed by separated texts and an end stands what may stand there. -/
theorem stops_separated {separator tail : List Char} (comma : separator = ',' :: tail)
    (items : List α) {first : Char} (isStop : IsStop first) (rest : List Char) :
    Stops ((items.flatMap fun item => separator ++ (text item).toList) ++ first :: rest) := by
  cases items with
  | nil => exact stops_cons isStop rest
  | cons item items =>
    rw [List.flatMap_cons, comma]
    exact stops_cons (.inl rfl) _

/-- Texts behind separators are read one by one, up to something else that may stand behind a
value. -/
theorem separated_append_inj {separator tail : List Char} (comma : separator = ',' :: tail)
    {as bs : List α} (decodes : ∀ a ∈ as, Decodes text a) {first second : Char}
    {rest more : List Char} (ends : first ≠ ',' ∧ IsStop first)
    (endsMore : second ≠ ',' ∧ IsStop second)
    (same : (as.flatMap fun a => separator ++ (text a).toList) ++ first :: rest
      = (bs.flatMap fun b => separator ++ (text b).toList) ++ second :: more) :
    as = bs ∧ first :: rest = second :: more := by
  induction as generalizing bs with
  | nil =>
    cases bs with
    | nil => exact ⟨rfl, same⟩
    | cons b bs =>
      rw [List.flatMap_cons, comma] at same
      exact absurd (List.cons.inj same).1 ends.1
  | cons a as ih =>
    cases bs with
    | nil =>
      rw [List.flatMap_cons, comma] at same
      exact absurd (List.cons.inj same).1.symm endsMore.1
    | cons b bs =>
      simp only [List.flatMap_cons, List.append_assoc] at same
      have behind := List.append_cancel_left same
      rw [List.forall_mem_cons] at decodes
      obtain ⟨rfl, later⟩ := decodes.1 b _ _ (stops_separated comma as ends.2 rest)
        (stops_separated comma bs endsMore.2 more) behind
      obtain ⟨rfl, last⟩ := ih decodes.2 later
      exact ⟨rfl, last⟩

/-- An end in brackets differs from the start of a text, with or without a break in front. -/
theorem lineBreak_append_ne (layout : Layout) (depth : Nat) {closing : Char}
    (closes : closing = ']' ∨ closing = '\x7d') {a : α}
    (starts : ∃ first more, (text a).toList = first :: more ∧ ¬IsStop first)
    (behind rest : List Char) :
    closing :: rest ≠ (layout.lineBreak depth).toList ++ ((text a).toList ++ behind) := by
  intro same
  cases layout with
  | oneLine =>
    obtain ⟨first, more, spelled, noStop⟩ := starts
    rw [spelled] at same
    obtain rfl : closing = first := (List.cons.inj same).1
    exact noStop (closes.elim (fun is => .inr (.inr (.inl is))) fun is => .inr (.inr (.inr is)))
  | lines unit =>
    rw [Layout.lineBreak, String.toList_append] at same
    have first : closing = '\n' := (List.cons.inj same).1
    rcases closes with rfl | rfl <;> exact absurd first (by decide)

/-- Texts in brackets tell where they end and what they hold. -/
theorem enclose_append_inj {layout : Layout} {depth : Nat} (opening closing : Char)
    (closes : closing = ']' ∨ closing = '\x7d') {as bs : List α}
    (decodes : ∀ a ∈ as, Decodes text a)
    (starts : ∀ a, ∃ first more, (text a).toList = first :: more ∧ ¬IsStop first)
    {rest more : List Char}
    (same : (enclose layout depth opening.toString closing.toString (as.map text)).toList ++ rest
      = (enclose layout depth opening.toString closing.toString (bs.map text)).toList ++ more) :
    as = bs ∧ rest = more := by
  cases as with
  | nil =>
    cases bs with
    | nil => exact ⟨rfl, List.append_cancel_left same⟩
    | cons b bs =>
      rw [List.map_nil, toList_enclose_nil, toList_enclose_cons] at same
      simp only [List.cons_append, List.nil_append, List.append_assoc] at same
      exact absurd (List.cons.inj same).2 (lineBreak_append_ne layout _ closes (starts b) _ _)
  | cons a as =>
    cases bs with
    | nil =>
      rw [List.map_nil, toList_enclose_nil, toList_enclose_cons] at same
      simp only [List.cons_append, List.nil_append, List.append_assoc] at same
      exact absurd (List.cons.inj same).2.symm (lineBreak_append_ne layout _ closes (starts a) _ _)
    | cons b bs =>
      -- Behind the first item comes a separator or the end, and both stop the reading of it.
      obtain ⟨tail, comma⟩ := exists_separator layout (depth + 1)
      obtain ⟨first, behind, isEnd, ends⟩ := exists_end layout depth closes rest
      obtain ⟨second, behindMore, isEndMore, endsMore⟩ := exists_end layout depth closes more
      rw [toList_enclose_cons, toList_enclose_cons] at same
      simp only [List.cons_append, List.nil_append, List.append_assoc, isEnd, isEndMore] at same
      have items := List.append_cancel_left (List.cons.inj same).2
      rw [List.forall_mem_cons] at decodes
      obtain ⟨rfl, others⟩ := decodes.1 b _ _ (stops_separated comma as ends.2 behind)
        (stops_separated comma bs endsMore.2 behindMore) items
      obtain ⟨rfl, last⟩ := separated_append_inj comma decodes.2 ends endsMore others
      rw [← isEnd, ← isEndMore] at last
      exact ⟨rfl, (List.cons.inj (List.append_cancel_left last)).2⟩

/-! ### Values -/

/-- The text of a member of an object. -/
def memberText (layout : Layout) (depth : Nat) (entry : String × Json) : String :=
  stringText entry.1 ++ ": " ++ renderAt layout depth entry.2

theorem renderItems_eq (layout : Layout) (depth : Nat) (items : List Json) :
    renderItems layout depth items = items.map (renderAt layout depth) := by
  induction items with
  | nil => rw [renderItems, List.map_nil]
  | cons item rest ih => rw [renderItems, List.map_cons, ih]

theorem renderMembers_eq (layout : Layout) (depth : Nat) (members : List (String × Json)) :
    renderMembers layout depth members = members.map (memberText layout depth) := by
  induction members with
  | nil => rw [renderMembers, List.map_nil]
  | cons entry rest ih =>
    obtain ⟨name, value⟩ := entry
    rw [renderMembers, List.map_cons, ih, memberText]

/-- A member is told from others by its name and its value. -/
theorem decodes_memberText {layout : Layout} {depth : Nat} {entry : String × Json}
    (decodes : Decodes (renderAt layout depth) entry.2) :
    Decodes (memberText layout depth) entry := by
  rintro ⟨otherName, other⟩ rest more stops stopsMore same
  obtain ⟨name, value⟩ := entry
  simp only [memberText, String.toList_append, List.append_assoc] at same
  obtain ⟨rfl, behind⟩ := stringText_append_inj same
  obtain ⟨rfl, last⟩ := decodes other rest more stops stopsMore (List.append_cancel_left behind)
  exact ⟨rfl, last⟩

theorem exists_first_member (layout : Layout) (depth : Nat) (entry : String × Json) :
    ∃ first more, (memberText layout depth entry).toList = first :: more ∧ ¬IsStop first := by
  rw [memberText, stringText, String.toList_append, String.toList_append, String.toList_ofList]
  exact ⟨'"', _, rfl, by decide⟩

/-- Values whose texts start a text alike are of one kind. -/
theorem shape_eq_of_append {layout : Layout} {depth : Nat} {value other : Json}
    {rest more : List Char}
    (same : (renderAt layout depth value).toList ++ rest
      = (renderAt layout depth other).toList ++ more) : value.shape = other.shape := by
  obtain ⟨first, behind, spelled, kind, -⟩ := exists_first layout depth value
  obtain ⟨second, behindOther, spelledOther, otherKind, -⟩ := exists_first layout depth other
  rw [spelled, spelledOther] at same
  rw [← kind, ← otherKind, (List.cons.inj same).1]

mutual

/-- The text of a value tells which value it is and where it ends. -/
theorem decodes_renderAt (layout : Layout) : ∀ (value : Json) (depth : Nat),
    Decodes (renderAt layout depth) value
  | .null, depth, other, rest, more, _, _, same => by
    cases other with
    | null => exact ⟨rfl, List.append_cancel_left same⟩
    | _ => cases shape_eq_of_append same
  | .bool value, depth, other, rest, more, stops, stopsMore, same => by
    cases other with
    | bool second =>
      rw [renderAt, renderAt] at same
      obtain ⟨word, last⟩ := word_append_inj (fun _ => not_isStop_of_mem_boolText)
        (fun _ => not_isStop_of_mem_boolText) stops stopsMore same
      have each : ∀ value second : Bool, (if value then "true" else "false").toList
          = (if second then "true" else "false").toList → value = second := by
        decide
      exact ⟨congrArg Json.bool (each value second word), last⟩
    | _ => cases shape_eq_of_append same
  | .number written, depth, other, rest, more, stops, stopsMore, same => by
    cases other with
    | number second =>
      rw [renderAt, renderAt] at same
      obtain ⟨word, last⟩ := word_append_inj (fun _ => not_isStop_of_mem_numberText)
        (fun _ => not_isStop_of_mem_numberText) stops stopsMore same
      exact ⟨congrArg Json.number (numberText_injective (String.toList_inj.mp word)), last⟩
    | _ => cases shape_eq_of_append same
  | .text content, depth, other, rest, more, _, _, same => by
    cases other with
    | text second =>
      rw [renderAt, renderAt] at same
      obtain ⟨rfl, last⟩ := stringText_append_inj same
      exact ⟨rfl, last⟩
    | _ => cases shape_eq_of_append same
  | .array items, depth, other, rest, more, _, _, same => by
    cases other with
    | array second =>
      -- What stands behind the array need not stop anything: the bracket ends it.
      rw [renderAt, renderAt, renderItems_eq, renderItems_eq] at same
      have first : ∀ value : Json, ∃ first more,
          (renderAt layout (depth + 1) value).toList = first :: more ∧ ¬IsStop first := by
        intro value
        obtain ⟨first, more, spelled, -, noStop⟩ := exists_first layout (depth + 1) value
        exact ⟨first, more, spelled, noStop⟩
      obtain ⟨rfl, last⟩ := enclose_append_inj '[' ']' (.inl rfl)
        (decodes_items layout items (depth + 1)) first same
      exact ⟨rfl, last⟩
    | _ => cases shape_eq_of_append same
  | .object members, depth, other, rest, more, _, _, same => by
    cases other with
    | object second =>
      rw [renderAt, renderAt, renderMembers_eq, renderMembers_eq] at same
      obtain ⟨rfl, last⟩ := enclose_append_inj '\x7b' '\x7d' (.inr rfl)
        (decodes_members layout members (depth + 1)) (exists_first_member layout (depth + 1)) same
      exact ⟨rfl, last⟩
    | _ => cases shape_eq_of_append same

theorem decodes_items (layout : Layout) : ∀ (items : List Json) (depth : Nat),
    ∀ item ∈ items, Decodes (renderAt layout depth) item
  | [], _ => fun _ member => absurd member List.not_mem_nil
  | item :: rest, depth =>
    List.forall_mem_cons.mpr
      ⟨decodes_renderAt layout item depth, decodes_items layout rest depth⟩

theorem decodes_members (layout : Layout) : ∀ (members : List (String × Json)) (depth : Nat),
    ∀ entry ∈ members, Decodes (memberText layout depth) entry
  | [], _ => fun _ member => absurd member List.not_mem_nil
  | (_, value) :: rest, depth =>
    List.forall_mem_cons.mpr
      ⟨decodes_memberText (decodes_renderAt layout value depth), decodes_members layout rest depth⟩

end

/-- The text of a value in a layout determines the value. -/
theorem render_injective {layout : Layout} {value other : Json}
    (same : value.render layout = other.render layout) : value = other := by
  refine (decodes_renderAt layout value 0 other [] [] stops_nil stops_nil ?_).1
  rw [List.append_nil, List.append_nil]
  exact congrArg String.toList same

end Json

end Prerender
