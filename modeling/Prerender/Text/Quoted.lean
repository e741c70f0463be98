import Prerender.Text.Hex
import Prerender.Text.Printable

/-!
# Quoted texts

Messages quote the names and values they speak of. A text is put between apostrophes, or between
double quotes when it holds an apostrophe and no double quote. Inside, the quote in use and the
backslash are escaped by a backslash, line feed, carriage return and tab have short escapes, and
any other character that is not printable is written by its code point.
-/

namespace Prerender.Text

/-- The mark a text is quoted with: the apostrophe, unless only that one occurs inside. -/
def quoteMark (text : List Char) : Char :=
  if text.contains '\'' && !text.contains '"' then '"' else '\''

/-- The escape of a character by its code point, in the shortest of the three widths. -/
def codeEscape (code : Nat) : List Char :=
  if code < 0x100 then '\\' :: 'x' :: hexDigits 2 code
  else if code < 0x10000 then '\\' :: 'u' :: hexDigits 4 code
  else '\\' :: 'U' :: hexDigits 8 code

/-- One character between the given quotes. -/
def quotedChar (mark c : Char) : List Char :=
  if c = mark ∨ c = '\\' then ['\\', c]
  else if c = '\n' then ['\\', 'n']
  else if c = '\r' then ['\\', 'r']
  else if c = '\t' then ['\\', 't']
  else if isPrintable c then [c]
  else codeEscape c.toNat

/-- A text between quotes. -/
def quote (text : String) : String :=
  let mark := quoteMark text.toList
  String.ofList (mark :: text.toList.flatMap (quotedChar mark) ++ [mark])

/-- One byte between the given quotes: ASCII stands for itself, all else is escaped. -/
def quotedByte (mark : Char) (byte : UInt8) : List Char :=
  let c := Char.ofNat byte.toNat
  if byte < 0x80 then quotedChar mark c else codeEscape byte.toNat

/-- A byte string between quotes, marked by a leading `b`. -/
def quoteBytes (bytes : List UInt8) : String :=
  let mark := quoteMark (bytes.map fun byte => Char.ofNat byte.toNat)
  String.ofList ('b' :: mark :: bytes.flatMap (quotedByte mark) ++ [mark])

/-- Already written items in square brackets. -/
def bracketed (items : List String) : String :=
  "[" ++ ", ".intercalate items ++ "]"

/-- Already written items in round brackets; a lone item keeps a comma behind it. -/
def parenthesized : List String → String
  | [item] => "(" ++ item ++ ",)"
  | items => "(" ++ ", ".intercalate items ++ ")"

/-- Names, each quoted, in square brackets. -/
def quoteNames (names : List String) : String :=
  bracketed (names.map quote)

end Prerender.Text
