import Prerender.Proofs.Json.Grammar

/-!
# Values whose text is standard

A value that is laid out with blanks is written by the grammar of JSON if each number in it is
finite or goes by one of the names that the grammar allows (`isJson_renderAt`).

`bare` reads a text and keeps the characters outside of its strings. In a standard text none of
these is a letter that only the names of numbers have (`cleanIff_of_isJson`), while the text of a
value has such a letter exactly if some number in it is not finite (`cleanIff_renderAt`). So the
text of a value is standard exactly if all numbers in it are finite (`isJson_render_iff`).
-/

namespace Prerender

namespace Json

/-- What a value has whenever its parts have it is had by every value. -/
theorem induct {motive : Json → Prop} (null : motive .null) (bool : ∀ value, motive (.bool value))
    (number : ∀ value, motive (.number value)) (text : ∀ content, motive (.text content))
    (array : ∀ items, (∀ item ∈ items, motive item) → motive (.array items))
    (object : ∀ members, (∀ member ∈ members, motive member.2) → motive (.object members))
    (value : Json) : motive value :=
  @Json.rec motive (fun items => ∀ item ∈ items, motive item)
    (fun members => ∀ member ∈ members, motive member.2) (fun member => motive member.2)
    null bool number text array object
    (fun _ member => absurd member List.not_mem_nil)
    (fun _ _ here others => List.forall_mem_cons.mpr ⟨here, others⟩)
    (fun _ member => absurd member List.not_mem_nil)
    (fun _ _ here others => List.forall_mem_cons.mpr ⟨here, others⟩)
    (fun _ _ here => here)
    value

/-! ### The numbers in a value -/

mutual

/-- The numbers in a value, in their order. -/
def numbers : Json → List Number
  | .null => []
  | .bool _ => []
  | .number value => [value]
  | .text _ => []
  | .array items => numbersOfItems items
  | .object members => numbersOfMembers members
termination_by structural value => value

/-- The numbers in the items of an array. -/
def numbersOfItems : List Json → List Number
  | [] => []
  | item :: rest => numbers item ++ numbersOfItems rest
termination_by structural items => items

/-- The numbers in the values of an object's members. -/
def numbersOfMembers : List (String × Json) → List Number
  | [] => []
  | (_, value) :: rest => numbers value ++ numbersOfMembers rest
termination_by structural members => members

end

@[simp] theorem numbers_null : numbers .null = [] := rfl

@[simp] theorem numbers_bool (value : Bool) : numbers (.bool value) = [] := rfl

@[simp] theorem numbers_number (value : Number) : numbers (.number value) = [value] := rfl

@[simp] theorem numbers_text (content : String) : numbers (.text content) = [] := rfl

@[simp] theorem numbers_array (items : List Json) :
    numbers (.array items) = items.flatMap numbers := by
  rw [numbers]
  induction items with
  | nil => rw [numbersOfItems, List.flatMap_nil]
  | cons item rest ih => rw [numbersOfItems, List.flatMap_cons, ih]

@[simp] theorem numbers_object (members : List (String × Json)) :
    numbers (.object members) = members.flatMap fun member => member.2.numbers := by
  rw [numbers]
  induction members with
  | nil => rw [numbersOfMembers, List.flatMap_nil]
  | cons member rest ih =>
    obtain ⟨name, value⟩ := member
    rw [numbersOfMembers, List.flatMap_cons, ih]

/-! ### Blank layouts -/

/-- The unit that a layout indents by is blank. -/
def Layout.IsBlank : Layout → Prop
  | .oneLine => True
  | .lines unit => AllBlank unit.toList

theorem allBlank_nil : AllBlank [] := fun _ member => absurd member List.not_mem_nil

theorem AllBlank.append {chars more : List Char} (blank : AllBlank chars) (others : AllBlank more) :
    AllBlank (chars ++ more) :=
  List.forall_mem_append.mpr ⟨blank, others⟩

theorem Layout.IsBlank.allBlank_lineBreak {layout : Layout} (blank : layout.IsBlank) (depth : Nat) :
    AllBlank (layout.lineBreak depth).toList := by
  cases layout with
  | oneLine => exact allBlank_nil
  | lines unit =>
    rw [lineBreak, String.toList_append, String.toList_join]
    refine AllBlank.append (List.forall_mem_singleton.mpr (.inr (.inr (.inl rfl)))) ?_
    intro c member
    obtain ⟨part, isPart, inPart⟩ := List.mem_flatMap.mp member
    rw [List.eq_of_mem_replicate isPart] at inPart
    exact blank c inPart

theorem Layout.IsBlank.exists_separator {layout : Layout} (blank : layout.IsBlank) (depth : Nat) :
    ∃ tail, (layout.separator depth).toList = ',' :: tail ∧ AllBlank tail := by
  cases layout with
  | oneLine => exact ⟨[' '], by rw [separator]; decide, List.forall_mem_singleton.mpr (.inl rfl)⟩
  | lines unit =>
    refine ⟨((Layout.lines unit).lineBreak depth).toList, ?_, blank.allBlank_lineBreak depth⟩
    rw [separator, String.toList_append]
    rfl

theorem intercalate_cons_eq_flatMap (separator first : List Char) (rest : List (List Char)) :
    separator.intercalate (first :: rest) = first ++ rest.flatMap (separator ++ ·) := by
  induction rest generalizing first with
  | nil => rw [List.intercalate_singleton, List.flatMap_nil, List.append_nil]
  | cons second rest ih =>
    rw [List.intercalate_cons_cons, ih, List.flatMap_cons, List.append_assoc, List.append_assoc]

variable {layout : Layout} {depth : Nat}

/-- Texts in brackets, with the blanks in front of each of them and around all of them. -/
theorem exists_blanks_enclose {α : Type} (blank : layout.IsBlank) (text : α → String)
    (depth : Nat) (opening closing : Char) (as : List α) :
    ∃ (before after : List Char) (entries : List (List Char × α)),
      AllBlank before ∧ AllBlank after ∧ (∀ entry ∈ entries, AllBlank entry.1)
        ∧ entries.map (·.2) = as
        ∧ (enclose layout depth opening.toString closing.toString (as.map text)).toList
          = opening :: before
            ++ [','].intercalate (entries.map fun entry => entry.1 ++ (text entry.2).toList)
            ++ after ++ [closing] := by
  cases as with
  | nil =>
    refine ⟨[], [], [], allBlank_nil, allBlank_nil,
      fun _ member => absurd member List.not_mem_nil, rfl, ?_⟩
    rw [List.map_nil, toList_enclose_nil]
    rfl
  | cons a as =>
    obtain ⟨tail, comma, blankTail⟩ := blank.exists_separator (depth + 1)
    refine ⟨_, _, ([], a) :: as.map (tail, ·), blank.allBlank_lineBreak (depth + 1),
      blank.allBlank_lineBreak depth, ?_, ?_, ?_⟩
    · refine List.forall_mem_cons.mpr ⟨allBlank_nil, ?_⟩
      exact List.forall_mem_map.mpr fun _ _ => blankTail
    · rw [List.map_cons, List.map_map]
      exact congrArg (a :: ·) (List.map_id as)
    · rw [toList_enclose_cons, comma, List.map_cons, List.map_map, intercalate_cons_eq_flatMap,
        List.flatMap_map]
      simp only [List.append_assoc, List.cons_append, List.nil_append, Function.comp_apply]

/-- Blanks in front of a text do not matter. -/
theorem IsJson.indented {names : List String} {blanks text : List Char} (isJson : IsJson names text)
    (blank : AllBlank blanks) : IsJson names (blanks ++ text) := by
  have padded := IsJson.padded blank allBlank_nil isJson
  rwa [List.append_nil] at padded

/-- Members with blanks in front of them are written by the grammar if their values are. -/
theorem isJson_members {names : List String} {before after : List Char}
    {entries : List (List Char × String × Json)} (blankBefore : AllBlank before)
    (blankAfter : AllBlank after) (blankEach : ∀ entry ∈ entries, AllBlank entry.1)
    (each : ∀ entry ∈ entries, IsJson names (renderAt layout depth entry.2.2).toList) :
    IsJson names ('\x7b' :: before
      ++ [','].intercalate (entries.map fun entry =>
          entry.1 ++ (memberText layout depth entry.2).toList) ++ after ++ ['\x7d']) := by
  have parts : (entries.map fun entry => entry.1 ++ (memberText layout depth entry.2).toList)
      = (entries.map fun entry => (entry.1 ++ (stringText entry.2.1).toList,
          ' ' :: (renderAt layout depth entry.2.2).toList)).map
            fun member => member.1 ++ ':' :: member.2 := by
    rw [List.map_map]
    refine List.map_congr_left fun entry _ => ?_
    simp only [memberText, String.toList_append, List.append_assoc, Function.comp_apply]
    rfl
  rw [parts]
  refine .object blankBefore blankAfter ?_ ?_
  · refine List.forall_mem_map.mpr fun entry isEntry => ?_
    exact ⟨entry.1, _, [], blankEach entry isEntry, isString_stringText entry.2.1, allBlank_nil,
      (List.append_nil _).symm⟩
  · refine List.forall_mem_map.mpr fun entry isEntry => ?_
    exact (each entry isEntry).indented (List.forall_mem_singleton.mpr (.inl rfl))

/-- A value is written by the grammar if the name of every number in it that is not finite is
allowed. -/
theorem isJson_renderAt {names : List String} (blank : layout.IsBlank) (value : Json) (depth : Nat)
    (each : ∀ number ∈ value.numbers, number.IsFinite ∨ numberText number ∈ names) :
    IsJson names (renderAt layout depth value).toList := by
  induction value using induct generalizing depth with
  | null =>
    rw [renderAt]
    exact .word (by decide)
  | bool value =>
    rw [renderAt]
    exact .word (by cases value <;> decide)
  | number number =>
    rw [numbers_number, List.forall_mem_singleton] at each
    rw [renderAt]
    rcases each with finite | named
    · exact .number (isNumber_numberText finite)
    · exact .name named
  | text content =>
    rw [renderAt]
    exact .string (isString_stringText content)
  | array items ih =>
    simp only [numbers_array, List.mem_flatMap] at each
    obtain ⟨before, after, entries, blankBefore, blankAfter, blankEach, rfl, written⟩ :=
      exists_blanks_enclose blank (renderAt layout (depth + 1)) depth '[' ']' items
    rw [renderAt, renderItems_eq]
    refine written ▸ .array blankBefore blankAfter (List.forall_mem_map.mpr fun entry isEntry => ?_)
    have inItems := List.mem_map_of_mem (f := (·.2)) isEntry
    have isJson := ih entry.2 inItems (depth + 1) fun number member =>
      each number ⟨entry.2, inItems, member⟩
    exact isJson.indented (blankEach entry isEntry)
  | object members ih =>
    simp only [numbers_object, List.mem_flatMap] at each
    obtain ⟨before, after, entries, blankBefore, blankAfter, blankEach, rfl, written⟩ :=
      exists_blanks_enclose blank (memberText layout (depth + 1)) depth '\x7b' '\x7d' members
    rw [renderAt, renderMembers_eq]
    refine written ▸ isJson_members blankBefore blankAfter blankEach fun entry isEntry => ?_
    have inMembers := List.mem_map_of_mem (f := (·.2)) isEntry
    exact ih entry.2 inMembers (depth + 1) fun number member =>
      each number ⟨entry.2, inMembers, member⟩

/-! ### Outside of strings -/

/-- Where the reading of a text stands: outside of its strings, inside of one, or behind the mark of
an escape in one. -/
inductive Place where
  | outside
  | inside
  | escaped

/-- The characters that stand outside of the strings of a text, without the quotation marks. -/
def bare : Place → List Char → List Char
  | _, [] => []
  | .outside, c :: rest => if c = '"' then bare .inside rest else c :: bare .outside rest
  | .inside, c :: rest =>
    if c = '"' then bare .outside rest
    else if c = '\\' then bare .escaped rest
    else bare .inside rest
  | .escaped, _ :: rest => bare .inside rest

theorem bare_inside_append {chars : List Char} (plain : ∀ c ∈ chars, c ≠ '"' ∧ c ≠ '\\')
    (rest : List Char) : bare .inside (chars ++ rest) = bare .inside rest := by
  induction chars with
  | nil => rfl
  | cons c chars ih =>
    obtain ⟨⟨noQuote, noEscape⟩, others⟩ := List.forall_mem_cons.mp plain
    rw [List.cons_append, bare, if_neg noQuote, if_neg noEscape, ih others]

theorem IsHexDigit.plain {c : Char} (isHexDigit : IsHexDigit c) : c ≠ '"' ∧ c ≠ '\\' := by
  constructor <;> rintro rfl <;> revert isHexDigit <;> decide

/-- A part of a string does not end the string. -/
theorem bare_inside_part {part : List Char} (isPart : IsStringPart part) (rest : List Char) :
    bare .inside (part ++ rest) = bare .inside rest := by
  cases isPart with
  | plain _ noQuote noEscape =>
    exact bare_inside_append (List.forall_mem_singleton.mpr ⟨noQuote, noEscape⟩) rest
  | short _ => rfl
  | unit _ hexadecimal =>
    exact bare_inside_append (fun c member => (hexadecimal c member).plain) rest

theorem bare_string {text : List Char} (isString : IsString text) (rest : List Char) :
    bare .outside (text ++ rest) = bare .outside rest := by
  obtain ⟨each⟩ := isString
  rename_i parts
  have inside : bare .inside (parts.flatten ++ '"' :: rest) = bare .outside rest := by
    induction parts with
    | nil => rfl
    | cons part parts ih =>
      obtain ⟨isPart, others⟩ := List.forall_mem_cons.mp each
      rw [List.flatten_cons, List.append_assoc, bare_inside_part isPart, ih others]
  rw [List.cons_append, List.cons_append, List.append_assoc, bare, if_pos rfl]
  exact inside

/-- A letter that no standard text has outside of its strings, and the name of every number that is
not finite has. -/
def IsNameLetter (c : Char) : Prop :=
  c = 'I' ∨ c = 'N'

instance (c : Char) : Decidable (IsNameLetter c) :=
  inferInstanceAs (Decidable (c = 'I' ∨ c = 'N'))

/-- A character that may stand anywhere in a standard text. -/
def IsPlain (c : Char) : Prop :=
  c ≠ '"' ∧ ¬IsNameLetter c

instance (c : Char) : Decidable (IsPlain c) :=
  inferInstanceAs (Decidable (c ≠ '"' ∧ ¬IsNameLetter c))

/-- A text leaves no string open, and outside of its strings it has no letter of a name exactly if
some condition holds. -/
def CleanIff (text : List Char) (condition : Prop) : Prop :=
  ∃ shown, (∀ rest, bare .outside (text ++ rest) = shown ++ bare .outside rest)
    ∧ ((∀ c ∈ shown, ¬IsNameLetter c) ↔ condition)

section CleanIff

variable {text more : List Char} {p q : Prop}

theorem CleanIff.congr (clean : CleanIff text p) (same : p ↔ q) : CleanIff text q := by
  obtain ⟨shown, reads, letters⟩ := clean
  exact ⟨shown, reads, letters.trans same⟩

theorem CleanIff.unique (clean : CleanIff text p) (other : CleanIff text q) : p ↔ q := by
  obtain ⟨shown, reads, letters⟩ := clean
  obtain ⟨again, readsAgain, lettersAgain⟩ := other
  have same : shown ++ [] = again ++ [] := (reads []).symm.trans (readsAgain [])
  rw [List.append_nil, List.append_nil] at same
  exact letters.symm.trans (same ▸ lettersAgain)

theorem CleanIff.append (clean : CleanIff text p) (other : CleanIff more q) :
    CleanIff (text ++ more) (p ∧ q) := by
  obtain ⟨shown, reads, letters⟩ := clean
  obtain ⟨behind, readsBehind, lettersBehind⟩ := other
  refine ⟨shown ++ behind, fun rest => ?_, ?_⟩
  · rw [List.append_assoc, reads, readsBehind, List.append_assoc]
  · rw [List.forall_mem_append, letters, lettersBehind]

/-- Outside of its strings a text without quotation marks has all that it has. -/
theorem cleanIff_of_noQuote (noQuote : ∀ c ∈ text, c ≠ '"') :
    CleanIff text (∀ c ∈ text, ¬IsNameLetter c) := by
  refine ⟨text, fun rest => ?_, Iff.rfl⟩
  induction text with
  | nil => rfl
  | cons c text ih =>
    obtain ⟨here, others⟩ := List.forall_mem_cons.mp noQuote
    rw [List.cons_append, bare, if_neg here, ih others, List.cons_append]

theorem cleanIff_of_plain (plain : ∀ c ∈ text, IsPlain c) : CleanIff text True :=
  (cleanIff_of_noQuote fun c member => (plain c member).1).congr
    (iff_true_intro fun c member => (plain c member).2)

/-- The same for a given text, which can be looked through. -/
theorem cleanIff_of_all (plain : text.all (fun c => IsPlain c) = true) : CleanIff text True :=
  cleanIff_of_plain fun c member => of_decide_eq_true (List.all_eq_true.mp plain c member)

theorem cleanIff_string (isString : IsString text) : CleanIff text True :=
  ⟨[], bare_string isString, iff_true_intro fun _ member => absurd member List.not_mem_nil⟩

theorem cleanIff_blank (blank : AllBlank text) : CleanIff text True := by
  refine cleanIff_of_plain fun c member => ?_
  rcases blank c member with rfl | rfl | rfl | rfl <;> decide

/-- Texts with commas between them are clean if each of them is. -/
theorem cleanIff_intercalate {α : Type} {text : α → List Char} {condition : α → Prop} {as : List α}
    (each : ∀ a ∈ as, CleanIff (text a) (condition a)) :
    CleanIff ([','].intercalate (as.map text)) (∀ a ∈ as, condition a) := by
  have comma : CleanIff [','] True := cleanIff_of_all (by decide)
  have behind : ∀ {as : List α}, (∀ a ∈ as, CleanIff (text a) (condition a)) →
      CleanIff ((as.map text).flatMap ([','] ++ ·)) (∀ a ∈ as, condition a) := by
    intro as each
    induction as with
    | nil =>
      exact (cleanIff_blank allBlank_nil).congr
        (iff_of_true trivial fun _ member => absurd member List.not_mem_nil)
    | cons a as ih =>
      obtain ⟨here, others⟩ := List.forall_mem_cons.mp each
      rw [List.map_cons, List.flatMap_cons, List.append_assoc]
      exact (comma.append (here.append (ih others))).congr
        ((iff_of_eq (true_and _)).trans List.forall_mem_cons.symm)
  cases as with
  | nil => exact behind each
  | cons a as =>
    obtain ⟨here, others⟩ := List.forall_mem_cons.mp each
    rw [List.map_cons, intercalate_cons_eq_flatMap]
    exact (here.append (behind others)).congr List.forall_mem_cons.symm

/-- Brackets and blanks around a text do not matter. -/
theorem CleanIff.bracketed (clean : CleanIff text p) {opening closing : Char}
    (plainOpening : IsPlain opening) (plainClosing : IsPlain closing) {before after : List Char}
    (blankBefore : AllBlank before) (blankAfter : AllBlank after) :
    CleanIff (opening :: before ++ text ++ after ++ [closing]) p := by
  have front : CleanIff [opening] True :=
    cleanIff_of_plain (List.forall_mem_singleton.mpr plainOpening)
  have back : CleanIff [closing] True :=
    cleanIff_of_plain (List.forall_mem_singleton.mpr plainClosing)
  exact ((((front.append (cleanIff_blank blankBefore)).append clean).append
    (cleanIff_blank blankAfter)).append back).congr (by simp)

end CleanIff

/-! ### Standard texts -/

theorem cleanIff_number {text : List Char} (isNumber : IsNumber text) : CleanIff text True := by
  have digits : ∀ {chars : List Char}, AllDigits chars → CleanIff chars True := by
    intro chars allDigits
    refine cleanIff_of_plain fun c member => ⟨allDigits.ne member (by decide), ?_⟩
    rintro (rfl | rfl) <;> exact allDigits.ne member (by decide) rfl
  obtain ⟨signed, isWhole, isFraction, isExponent⟩ := isNumber
  rename_i sign whole fraction exponent
  have signClean : CleanIff sign True := by
    rcases signed with rfl | rfl <;> exact cleanIff_of_all (by decide)
  have fractionClean : CleanIff fraction True := by
    rcases isFraction with rfl | ⟨places, rfl, -, allDigits⟩
    · exact cleanIff_of_all (by decide)
    · have point : CleanIff ['.'] True := cleanIff_of_all (by decide)
      exact (point.append (digits allDigits)).congr (by simp)
  have exponentClean : CleanIff exponent True := by
    rcases isExponent with rfl | ⟨mark, direction, places, rfl, isMark, directed, -, allDigits⟩
    · exact cleanIff_of_all (by decide)
    · have front : CleanIff (mark :: direction) True := by
        rcases isMark with rfl | rfl <;> rcases directed with rfl | rfl | rfl <;>
          exact cleanIff_of_all (by decide)
      exact (front.append (digits allDigits)).congr (by simp)
  exact (((signClean.append (digits isWhole.allDigits)).append fractionClean).append
    exponentClean).congr (by simp)

/-- No standard text has a letter of a name outside of its strings. -/
theorem cleanIff_of_isJson {text : List Char} (isJson : IsJson [] text) : CleanIff text True := by
  induction isJson with
  | @word text reserved =>
    have each : ∀ text ∈ ["null", "true", "false"],
        text.toList.all (fun c => IsPlain c) = true := by
      decide
    exact cleanIff_of_all (each text reserved)
  | name named => exact absurd named List.not_mem_nil
  | number isNumber => exact cleanIff_number isNumber
  | string isString => exact cleanIff_string isString
  | @array _ _ items blankBefore blankAfter _ ih =>
    have inside := cleanIff_intercalate ih
    rw [List.map_id'] at inside
    exact (inside.bracketed (by decide) (by decide) blankBefore blankAfter).congr (by simp)
  | @object _ _ members blankBefore blankAfter eachName _ ih =>
    have inside : ∀ member ∈ members, CleanIff (member.1 ++ ':' :: member.2) True := by
      intro member isMember
      obtain ⟨front, name, behind, blankFront, isName, blankBehind, same⟩ :=
        eachName member isMember
      have colon : CleanIff [':'] True := cleanIff_of_all (by decide)
      have nameClean := ((cleanIff_blank blankFront).append (cleanIff_string isName)).append
        (cleanIff_blank blankBehind)
      rw [same]
      exact (nameClean.append (colon.append (ih member isMember))).congr (by simp)
    exact ((cleanIff_intercalate inside).bracketed (by decide) (by decide) blankBefore
      blankAfter).congr (by simp)
  | padded blankBefore blankAfter _ ih =>
    exact (((cleanIff_blank blankBefore).append ih).append (cleanIff_blank blankAfter)).congr
      (by simp)

/-! ### Texts of values -/

/-- A number that is not finite has a name. -/
theorem exists_floatName {number : Number} (infinite : ¬number.IsFinite) :
    ∃ floating, (floating, numberText number) ∈ floatNames := by
  match number with
  | .int _ => exact absurd trivial infinite
  | .float (.finite _) => exact absurd trivial infinite
  | .float (.infinite true) => exact ⟨.infinite true, by decide⟩
  | .float (.infinite false) => exact ⟨.infinite false, by decide⟩
  | .float .notANumber => exact ⟨.notANumber, by decide⟩

/-- The text of a number has a letter of a name exactly if the number is not finite. -/
theorem cleanIff_numberText (number : Number) :
    CleanIff (numberText number).toList number.IsFinite := by
  by_cases finite : number.IsFinite
  · exact (cleanIff_number (isNumber_numberText finite)).congr (iff_of_true trivial finite)
  · obtain ⟨floating, isName⟩ := exists_floatName finite
    have each : ∀ entry ∈ floatNames, entry.2.toList.all (fun c => c ≠ '"') = true
        ∧ entry.2.toList.any (fun c => IsNameLetter c) = true := by
      decide
    obtain ⟨noQuote, letter⟩ := each _ isName
    obtain ⟨c, member, isLetter⟩ := List.any_eq_true.mp letter
    refine (cleanIff_of_noQuote fun c member => ?_).congr (iff_of_false ?_ finite)
    · exact of_decide_eq_true (List.all_eq_true.mp noQuote c member)
    · exact fun clean => clean c member (of_decide_eq_true isLetter)

/-- The text of a value has a letter of a name outside of its strings exactly if some number in it
is not finite. -/
theorem cleanIff_renderAt (blank : layout.IsBlank) (value : Json) (depth : Nat) :
    CleanIff (renderAt layout depth value).toList (∀ number ∈ value.numbers, number.IsFinite) := by
  induction value using induct generalizing depth with
  | null =>
    rw [renderAt]
    exact (cleanIff_of_all (by decide)).congr (by simp)
  | bool value =>
    rw [renderAt]
    exact (cleanIff_of_all (by cases value <;> decide)).congr (by simp)
  | number number =>
    rw [renderAt]
    exact (cleanIff_numberText number).congr (by simp)
  | text content =>
    rw [renderAt]
    exact (cleanIff_string (isString_stringText content)).congr (by simp)
  | array items ih =>
    obtain ⟨before, after, entries, blankBefore, blankAfter, blankEach, rfl, written⟩ :=
      exists_blanks_enclose blank (renderAt layout (depth + 1)) depth '[' ']' items
    have inside : ∀ entry ∈ entries, CleanIff
        (entry.1 ++ (renderAt layout (depth + 1) entry.2).toList)
        (∀ number ∈ entry.2.numbers, number.IsFinite) := by
      intro entry isEntry
      have item := ih entry.2 (List.mem_map_of_mem (f := (·.2)) isEntry) (depth + 1)
      exact ((cleanIff_blank (blankEach entry isEntry)).append item).congr (iff_of_eq (true_and _))
    rw [renderAt, renderItems_eq]
    refine written ▸ ((cleanIff_intercalate inside).bracketed (by decide) (by decide) blankBefore
      blankAfter).congr ?_
    rw [numbers_array, List.forall_mem_flatMap, List.forall_mem_map]
  | object members ih =>
    obtain ⟨before, after, entries, blankBefore, blankAfter, blankEach, rfl, written⟩ :=
      exists_blanks_enclose blank (memberText layout (depth + 1)) depth '\x7b' '\x7d' members
    have inside : ∀ entry ∈ entries, CleanIff
        (entry.1 ++ (memberText layout (depth + 1) entry.2).toList)
        (∀ number ∈ entry.2.2.numbers, number.IsFinite) := by
      intro entry isEntry
      have value := ih entry.2 (List.mem_map_of_mem (f := (·.2)) isEntry) (depth + 1)
      have colon : CleanIff (": ").toList True := cleanIff_of_all (by decide)
      have name := (cleanIff_string (isString_stringText entry.2.1)).append colon
      rw [memberText, String.toList_append, String.toList_append]
      exact ((cleanIff_blank (blankEach entry isEntry)).append (name.append value)).congr (by simp)
    rw [renderAt, renderMembers_eq]
    refine written ▸ ((cleanIff_intercalate inside).bracketed (by decide) (by decide) blankBefore
      blankAfter).congr ?_
    rw [numbers_object, List.forall_mem_flatMap, List.forall_mem_map]

/-- The text of a value is standard exactly if all numbers in the value are finite. -/
theorem isJson_render_iff (blank : layout.IsBlank) (value : Json) :
    IsJson [] (value.render layout).toList ↔ ∀ number ∈ value.numbers, number.IsFinite := by
  constructor
  · intro isJson
    exact ((cleanIff_of_isJson isJson).unique (cleanIff_renderAt blank value 0)).mp trivial
  · exact fun finite => isJson_renderAt blank value 0 fun number member =>
      .inl (finite number member)

end Json

end Prerender
