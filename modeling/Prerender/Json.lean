import Prerender.Number
import Prerender.Text.Hex

/-!
# JSON text

A JSON value and its text. The text is pure ASCII: every other character is escaped, those beyond
the Basic Multilingual Plane as a surrogate pair. Members of an object are written in their
order. `Layout` says how the text is broken into lines.
-/

namespace Prerender

/-- A JSON value. -/
inductive Json where
  | null
  | bool (value : Bool)
  | number (value : Number)
  | text (content : String)
  | array (items : List Json)
  | object (members : List (String × Json))

namespace Json

/-- How the text of a value is laid out. -/
inductive Layout where
  /-- All on one line, with a blank behind every comma. -/
  | oneLine
  /-- An item or member a line, indented by one unit for each enclosing value. -/
  | lines (unit : String)
deriving DecidableEq, Repr

/-- The break in front of an item, and before the bracket that closes a value, at a depth. -/
def Layout.lineBreak (layout : Layout) (depth : Nat) : String :=
  match layout with
  | .oneLine => ""
  | .lines unit => "\n" ++ String.join (List.replicate depth unit)

/-- What stands between two items at a depth. -/
def Layout.separator (layout : Layout) (depth : Nat) : String :=
  match layout with
  | .oneLine => ", "
  | .lines _ => "," ++ layout.lineBreak depth

/-- The escape of a UTF-16 code unit. -/
def escapedUnit (unit : Nat) : List Char :=
  '\\' :: 'u' :: Text.hexDigits 4 unit

/-- A character inside a JSON string. -/
def escapedChar (c : Char) : List Char :=
  if c = '"' then ['\\', '"']
  else if c = '\\' then ['\\', '\\']
  else if c = '\n' then ['\\', 'n']
  else if c = '\r' then ['\\', 'r']
  else if c = '\t' then ['\\', 't']
  else if c = '\x08' then ['\\', 'b']
  else if c = '\x0c' then ['\\', 'f']
  else if ' ' ≤ c ∧ c ≤ '~' then [c]
  else if c.toNat < 0x10000 then escapedUnit c.toNat
  else
    let offset := c.toNat - 0x10000
    escapedUnit (0xD800 + offset / 0x400) ++ escapedUnit (0xDC00 + offset % 0x400)

/-- A JSON string. -/
def stringText (content : String) : String :=
  String.ofList ('"' :: content.toList.flatMap escapedChar ++ ['"'])

/-- A JSON number. What is infinite or not a number has a name. -/
def numberText : Number → String
  | .float (.infinite negative) => if negative then "-Infinity" else "Infinity"
  | .float .notANumber => "NaN"
  | value => value.text

/-- Written items between brackets, for a value that is enclosed by `depth` others. -/
def enclose (layout : Layout) (depth : Nat) (opening closing : String) (items : List String) :
    String :=
  if items.isEmpty then opening ++ closing
  else
    opening ++ layout.lineBreak (depth + 1)
      ++ (layout.separator (depth + 1)).intercalate items
      ++ layout.lineBreak depth ++ closing

mutual

/-- The text of a value that is enclosed by `depth` others. -/
def renderAt (layout : Layout) (depth : Nat) : Json → String
  | .null => "null"
  | .bool value => if value then "true" else "false"
  | .number value => numberText value
  | .text content => stringText content
  | .array items => enclose layout depth "[" "]" (renderItems layout (depth + 1) items)
  | .object members =>
    enclose layout depth "\x7b" "\x7d" (renderMembers layout (depth + 1) members)
termination_by structural value => value

/-- The texts of the items of an array. -/
def renderItems (layout : Layout) (depth : Nat) : List Json → List String
  | [] => []
  | item :: rest => renderAt layout depth item :: renderItems layout depth rest
termination_by structural items => items

/-- The texts of the members of an object. -/
def renderMembers (layout : Layout) (depth : Nat) : List (String × Json) → List String
  | [] => []
  | (name, value) :: rest =>
    (stringText name ++ ": " ++ renderAt layout depth value) :: renderMembers layout depth rest
termination_by structural members => members

end

mutual

/-- Whether all numbers of a value can be written. -/
def isWritable : Json → Bool
  | .number value => value.isWritable
  | .array items => areWritable items
  | .object members => membersAreWritable members
  | _ => true
termination_by structural value => value

/-- Whether all numbers of some values can be written. -/
def areWritable : List Json → Bool
  | [] => true
  | item :: rest => item.isWritable && areWritable rest
termination_by structural items => items

/-- Whether all numbers of the members of an object can be written. -/
def membersAreWritable : List (String × Json) → Bool
  | [] => true
  | (_, value) :: rest => value.isWritable && membersAreWritable rest
termination_by structural members => members

end

/-- The text of a value. -/
def render (layout : Layout) (value : Json) : String :=
  renderAt layout 0 value

end Json

end Prerender
