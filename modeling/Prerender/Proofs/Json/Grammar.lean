import Prerender.Proofs.Json.Reading
import Prerender.Proofs.Number

/-!
# The grammar of JSON

`IsJson` is the grammar of standard JSON texts, for texts in which some names may stand for values
besides `null`, `true` and `false`; without such names it is the standard itself. The texts of
strings and of finite numbers are written by it (`isString_stringText`, `isNumber_numberText`).
-/

namespace Prerender

namespace Json

/-! ### The grammar -/

/-- A character that may stand between the parts of a text. -/
def IsBlank (c : Char) : Prop :=
  c = ' ' ∨ c = '\t' ∨ c = '\n' ∨ c = '\r'

instance (c : Char) : Decidable (IsBlank c) :=
  inferInstanceAs (Decidable (c = ' ' ∨ c = '\t' ∨ c = '\n' ∨ c = '\r'))

/-- All characters are blanks. -/
def AllBlank (chars : List Char) : Prop :=
  ∀ c ∈ chars, IsBlank c

/-- A number: a whole number with or without a sign, a fraction and an exponent. -/
inductive IsNumber : List Char → Prop where
  | intro {sign whole fraction exponent : List Char} (signed : sign = [] ∨ sign = ['-'])
      (isWhole : IsWhole whole)
      (isFraction : fraction = [] ∨ ∃ digits, fraction = '.' :: digits ∧ digits ≠ []
        ∧ AllDigits digits)
      (isExponent : exponent = [] ∨ ∃ mark direction places, exponent = mark :: direction ++ places
        ∧ (mark = 'e' ∨ mark = 'E')
        ∧ (direction = [] ∨ direction = ['+'] ∨ direction = ['-']) ∧ places ≠ []
        ∧ AllDigits places) :
    IsNumber (sign ++ whole ++ fraction ++ exponent)

/-- A hexadecimal digit of either case. -/
def IsHexDigit (c : Char) : Prop :=
  c.isDigit = true ∨ 'a' ≤ c ∧ c ≤ 'f' ∨ 'A' ≤ c ∧ c ≤ 'F'

instance (c : Char) : Decidable (IsHexDigit c) :=
  inferInstanceAs (Decidable (c.isDigit = true ∨ 'a' ≤ c ∧ c ≤ 'f' ∨ 'A' ≤ c ∧ c ≤ 'F'))

/-- A character inside a string: itself, if it is neither a control character nor one of the marks,
or an escape. -/
inductive IsStringPart : List Char → Prop where
  | plain {c : Char} (visible : ' ' ≤ c) (noQuote : c ≠ '"') (noEscape : c ≠ '\\') :
    IsStringPart [c]
  | short {c : Char} (letter : c ∈ ['"', '\\', '/', 'b', 'f', 'n', 'r', 't']) :
    IsStringPart ['\\', c]
  | unit {digits : List Char} (four : digits.length = 4)
      (hexadecimal : ∀ c ∈ digits, IsHexDigit c) :
    IsStringPart ('\\' :: 'u' :: digits)

/-- A string: characters between quotation marks. -/
inductive IsString : List Char → Prop where
  | intro {parts : List (List Char)} (each : ∀ part ∈ parts, IsStringPart part) :
    IsString ('"' :: parts.flatten ++ ['"'])

/-- The texts of values, where some names stand for values besides the words of the standard. Blanks
may stand around every value and every name of a member, and between brackets. -/
inductive IsJson (names : List String) : List Char → Prop where
  | word {text : String} (reserved : text ∈ ["null", "true", "false"]) : IsJson names text.toList
  | name {text : String} (named : text ∈ names) : IsJson names text.toList
  | number {text : List Char} (isNumber : IsNumber text) : IsJson names text
  | string {text : List Char} (isString : IsString text) : IsJson names text
  | array {before after : List Char} {items : List (List Char)} (blankBefore : AllBlank before)
      (blankAfter : AllBlank after) (each : ∀ item ∈ items, IsJson names item) :
    IsJson names ('[' :: before ++ [','].intercalate items ++ after ++ [']'])
  | object {before after : List Char} {members : List (List Char × List Char)}
      (blankBefore : AllBlank before) (blankAfter : AllBlank after)
      (eachName : ∀ member ∈ members, ∃ front name behind, AllBlank front ∧ IsString name
        ∧ AllBlank behind ∧ member.1 = front ++ name ++ behind)
      (eachValue : ∀ member ∈ members, IsJson names member.2) :
    IsJson names ('\x7b' :: before
      ++ [','].intercalate (members.map fun member => member.1 ++ ':' :: member.2) ++ after
      ++ ['\x7d'])
  | padded {before after text : List Char} (blankBefore : AllBlank before)
      (blankAfter : AllBlank after) (isJson : IsJson names text) :
    IsJson names (before ++ text ++ after)

/-! ### Strings -/

theorem isHexDigit_lowerHex (value : Nat) : IsHexDigit (Text.lowerHex (value % 16)) := by
  have each : ∀ digit < 16, IsHexDigit (Text.lowerHex digit) := by decide
  exact each _ (Nat.mod_lt _ (by decide))

theorem isStringPart_escapedUnit (unit : Nat) : IsStringPart (escapedUnit unit) := by
  refine .unit rfl ?_
  simp only [Text.hexDigits, List.nil_append, List.cons_append, List.forall_mem_cons]
  exact ⟨isHexDigit_lowerHex _, isHexDigit_lowerHex _, isHexDigit_lowerHex _,
    isHexDigit_lowerHex _, fun _ member => absurd member List.not_mem_nil⟩

/-- A character is written as one part of a string, or as the two of a surrogate pair. -/
theorem exists_parts_escapedChar (c : Char) :
    ∃ parts : List (List Char), (∀ part ∈ parts, IsStringPart part)
      ∧ escapedChar c = parts.flatten := by
  have single : ∀ {part : List Char}, IsStringPart part →
      ∃ parts : List (List Char), (∀ part ∈ parts, IsStringPart part) ∧ part = parts.flatten :=
    fun {part} isPart => ⟨[part], List.forall_mem_singleton.mpr isPart, by simp⟩
  unfold escapedChar
  split_ifs with quote backslash newline carriage tab backspace feed printable small
  · exact single (.short (by decide))
  · exact single (.short (by decide))
  · exact single (.short (by decide))
  · exact single (.short (by decide))
  · exact single (.short (by decide))
  · exact single (.short (by decide))
  · exact single (.short (by decide))
  · exact single (.plain printable.1 quote backslash)
  · exact single (isStringPart_escapedUnit _)
  · refine ⟨[_, _], ?_, by rw [List.flatten_cons, List.flatten_cons, List.flatten_nil,
      List.append_nil]⟩
    exact List.forall_mem_cons.mpr ⟨isStringPart_escapedUnit _,
      List.forall_mem_singleton.mpr (isStringPart_escapedUnit _)⟩

theorem isString_stringText (content : String) : IsString (stringText content).toList := by
  have written : ∀ chars : List Char, ∃ parts : List (List Char),
      (∀ part ∈ parts, IsStringPart part) ∧ chars.flatMap escapedChar = parts.flatten := by
    intro chars
    induction chars with
    | nil => exact ⟨[], fun _ member => absurd member List.not_mem_nil, rfl⟩
    | cons c rest ih =>
      obtain ⟨first, each, same⟩ := exists_parts_escapedChar c
      obtain ⟨others, eachOther, behind⟩ := ih
      refine ⟨first ++ others, List.forall_mem_append.mpr ⟨each, eachOther⟩, ?_⟩
      rw [List.flatMap_cons, same, behind, List.flatten_append]
  obtain ⟨parts, each, same⟩ := written content.toList
  rw [stringText, String.toList_ofList, same]
  exact .intro each

/-! ### Numbers -/

/-- The text of a finite number is a number of the standard. -/
theorem isNumber_numberText {number : Number} (finite : number.IsFinite) :
    IsNumber (numberText number).toList := by
  match number, finite with
  | .int n, _ =>
    have plain : ∀ {sign : List Char}, sign = [] ∨ sign = ['-'] →
        IsNumber (sign ++ Nat.toDigits 10 n.natAbs) := by
      intro sign signed
      have isNumber := IsNumber.intro signed (isWhole_toDigits n.natAbs) (.inl rfl) (.inl rfl)
      rwa [List.append_nil, List.append_nil] at isNumber
    change IsNumber (toString n).toList
    rw [toList_toString_int]
    split
    · exact plain (.inr rfl)
    · exact plain (.inl rfl)
  | .float (.finite d), _ =>
    obtain ⟨whole, fraction, tail, spells, spelled⟩ := d.exists_spells
    change IsNumber d.text.toList
    rw [spelled]
    refine .intro ?_ spells.isWhole ?_ ?_
    · split
      · exact .inr rfl
      · exact .inl rfl
    · cases fraction with
      | nil => exact .inl rfl
      | cons first rest => exact .inr ⟨_, rfl, List.cons_ne_nil _ _, spells.fractionDigits⟩
    · by_cases none : tail = []
      · exact .inl none
      · obtain ⟨sign, places, rfl, signed, some, digits⟩ := spells.tail_eq none
        refine .inr ⟨'e', [sign], places, rfl, .inl rfl, .inr ?_, some, digits⟩
        rcases signed with rfl | rfl
        · exact .inr rfl
        · exact .inl rfl

end Json

end Prerender
