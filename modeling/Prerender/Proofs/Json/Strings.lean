import Mathlib.Tactic.SplitIfs
import Prerender.Json

/-!
# Reading back a JSON string

`readChar` reads one character of a JSON string, escaped or not. It undoes the escapes
(`readChar_escapedChar`), so the text of a string tells where the string ends and what it holds
(`stringText_append_inj`).
-/

namespace Prerender

namespace Json

open Text (hexValue? lowerHex hexDigits)

/-! ### Code units -/

/-- Reads the code unit that is escaped by four hexadecimal digits. -/
def readUnit : List Char → Option (Nat × List Char)
  | a :: b :: c :: d :: rest => do
    let first ← hexValue? a
    let second ← hexValue? b
    let third ← hexValue? c
    let fourth ← hexValue? d
    return (((first * 16 + second) * 16 + third) * 16 + fourth, rest)
  | _ => none

theorem hexValue?_lowerHex {value : Nat} (digit : value < 16) :
    hexValue? (lowerHex value) = some value := by
  have each : ∀ value < 16, hexValue? (lowerHex value) = some value := by decide
  exact each value digit

/-- A code unit is read back. -/
theorem readUnit_hexDigits {unit : Nat} (fits : unit < 0x10000) (rest : List Char) :
    readUnit (hexDigits 4 unit ++ rest) = some (unit, rest) := by
  have digits : hexDigits 4 unit ++ rest
      = lowerHex (unit / 16 / 16 / 16 % 16) :: lowerHex (unit / 16 / 16 % 16)
        :: lowerHex (unit / 16 % 16) :: lowerHex (unit % 16) :: rest := by
    simp only [hexDigits, List.nil_append, List.cons_append]
  have digit : ∀ value : Nat, hexValue? (lowerHex (value % 16)) = some (value % 16) :=
    fun value => hexValue?_lowerHex (Nat.mod_lt _ (by decide))
  rw [digits, readUnit]
  simp only [digit]
  exact congrArg (fun value => some (value, rest)) (by omega)

/-! ### Characters -/

/-- Reads a character of a JSON string. A high surrogate has to be followed by the low one that
completes it. -/
def readChar : List Char → Option (Char × List Char)
  | '\\' :: 'u' :: rest => do
    let (unit, rest) ← readUnit rest
    if 0xD800 ≤ unit ∧ unit < 0xDC00 then
      match rest with
      | '\\' :: 'u' :: rest =>
        let (low, rest) ← readUnit rest
        return (Char.ofNat (0x10000 + (unit - 0xD800) * 0x400 + (low - 0xDC00)), rest)
      | _ => none
    else return (Char.ofNat unit, rest)
  | '\\' :: 'n' :: rest => some ('\n', rest)
  | '\\' :: 'r' :: rest => some ('\r', rest)
  | '\\' :: 't' :: rest => some ('\t', rest)
  | '\\' :: 'b' :: rest => some ('\x08', rest)
  | '\\' :: 'f' :: rest => some ('\x0c', rest)
  | '\\' :: c :: rest => some (c, rest)
  | c :: rest => some (c, rest)
  | [] => none

/-- A character within the Basic Multilingual Plane is read from its code unit, which is no
surrogate. -/
theorem readChar_unit {c : Char} (small : c.toNat < 0x10000) (rest : List Char) :
    readChar (escapedUnit c.toNat ++ rest) = some (c, rest) := by
  have valid : c.toNat < 0xD800 ∨ 0xDFFF < c.toNat ∧ c.toNat < 0x110000 := c.valid
  have scalar : ¬(0xD800 ≤ c.toNat ∧ c.toNat < 0xDC00) := by omega
  rw [escapedUnit, List.cons_append, List.cons_append, readChar, readUnit_hexDigits small]
  simp only [Option.bind_eq_bind, Option.bind_some, if_neg scalar, Char.ofNat_toNat,
    Option.pure_def]

/-- Any other character is read from its two surrogates. -/
theorem readChar_surrogates {c : Char} {offset : Nat} (is : c.toNat = 0x10000 + offset)
    (rest : List Char) :
    readChar (escapedUnit (0xD800 + offset / 0x400) ++ escapedUnit (0xDC00 + offset % 0x400)
        ++ rest)
      = some (c, rest) := by
  have valid : c.toNat < 0xD800 ∨ 0xDFFF < c.toNat ∧ c.toNat < 0x110000 := c.valid
  have high : 0xD800 ≤ 0xD800 + offset / 0x400 ∧ 0xD800 + offset / 0x400 < 0xDC00 := by omega
  have joined : 0x10000 + offset / 0x400 * 0x400 + offset % 0x400 = c.toNat := by
    rw [Nat.add_assoc, Nat.div_add_mod', is]
  simp only [escapedUnit, List.cons_append, List.append_assoc]
  rw [readChar, readUnit_hexDigits (by omega)]
  simp only [Option.bind_eq_bind, Option.bind_some, if_pos high]
  rw [readUnit_hexDigits (by omega)]
  simp only [Option.bind_some, Nat.add_sub_cancel_left, joined, Char.ofNat_toNat, Option.pure_def]

theorem readChar_plain {c : Char} (plain : c ≠ '\\') (rest : List Char) :
    readChar (c :: rest) = some (c, rest) := by
  unfold readChar
  split <;> simp_all

/-- An escape is undone. -/
theorem readChar_escapedChar (c : Char) (rest : List Char) :
    readChar (escapedChar c ++ rest) = some (c, rest) := by
  unfold escapedChar
  split_ifs with quote backslash newline carriage tab backspace feed printable small
  · rw [quote]
    rfl
  · rw [backslash]
    rfl
  · rw [newline]
    rfl
  · rw [carriage]
    rfl
  · rw [tab]
    rfl
  · rw [backspace]
    rfl
  · rw [feed]
    rfl
  · exact readChar_plain backslash rest
  · exact readChar_unit small rest
  · exact readChar_surrogates (by omega) rest

/-- No escape starts with the quotation mark that ends a string. -/
theorem escapedChar_ne_quote (c : Char) (rest more : List Char) :
    escapedChar c ++ rest ≠ '"' :: more := by
  intro same
  have read := congrArg readChar same
  rw [readChar_escapedChar, readChar_plain (by decide)] at read
  obtain ⟨rfl, rfl⟩ := Prod.mk.inj (Option.some.inj read)
  have escaped : '\\' :: '"' :: rest = '"' :: rest := same
  exact absurd (List.cons.inj escaped).1 (by decide)

/-! ### Strings -/

/-- The characters of a string and its end are told apart. -/
theorem flatMap_escapedChar_inj {as bs rest more : List Char}
    (same : as.flatMap escapedChar ++ '"' :: rest = bs.flatMap escapedChar ++ '"' :: more) :
    as = bs ∧ rest = more := by
  induction as generalizing bs with
  | nil =>
    cases bs with
    | nil => exact ⟨rfl, (List.cons.inj same).2⟩
    | cons b bs =>
      rw [List.flatMap_cons, List.append_assoc] at same
      exact absurd same.symm (escapedChar_ne_quote b _ _)
  | cons a as ih =>
    cases bs with
    | nil =>
      rw [List.flatMap_cons, List.append_assoc] at same
      exact absurd same (escapedChar_ne_quote a _ _)
    | cons b bs =>
      rw [List.flatMap_cons, List.flatMap_cons, List.append_assoc, List.append_assoc] at same
      have read := congrArg readChar same
      rw [readChar_escapedChar, readChar_escapedChar] at read
      obtain ⟨rfl, behind⟩ := Prod.mk.inj (Option.some.inj read)
      obtain ⟨rfl, rfl⟩ := ih behind
      exact ⟨rfl, rfl⟩

/-- The text of a JSON string tells where it ends and what it holds. -/
theorem stringText_append_inj {a b : String} {rest more : List Char}
    (same : (stringText a).toList ++ rest = (stringText b).toList ++ more) :
    a = b ∧ rest = more := by
  simp only [stringText, String.toList_ofList, List.cons_append, List.append_assoc,
    List.nil_append] at same
  obtain ⟨chars, behind⟩ := flatMap_escapedChar_inj (List.cons.inj same).2
  exact ⟨String.toList_inj.mp chars, behind⟩

end Json

end Prerender
