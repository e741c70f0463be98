import Prerender.Text.Hex
import Prerender.Text.Utf8

/-!
# Percent encoding

`percentEncode` writes a text as one component of a URL path: ASCII letters and digits and
`_ . - ~` stand for themselves, every other character is written as its UTF-8 bytes, a percent
sign and two upper case digits for each.

`percentDecode` reads any text. A percent sign with two hexadecimal digits behind it stands for a
byte, and consecutive bytes are read as UTF-8 with replacement; everything else stands for
itself, a percent sign without two such digits included.
-/

namespace Prerender.Text

/-- Characters that percent encoding leaves alone. -/
def isUnreserved (c : Char) : Bool :=
  c.isAlphanum || c = '_' || c = '.' || c = '-' || c = '~'

/-- The escape of a byte. -/
def escapedByte (byte : UInt8) : List Char :=
  ['%', upperHex (byte.toNat / 16), upperHex (byte.toNat % 16)]

/-- A text as one component of a URL path. -/
def percentEncode (text : List Char) : List Char :=
  text.flatMap fun c =>
    if isUnreserved c then [c] else (String.utf8EncodeChar c).flatMap escapedByte

/-- A piece of a percent encoded text. -/
inductive PercentPiece where
  /-- A byte given by its escape. -/
  | byte (byte : UInt8)
  /-- A character that stands for itself. -/
  | char (c : Char)
deriving DecidableEq, Repr

/-- The pieces of a text, read from left to right. -/
def percentPieces : List Char → List PercentPiece
  | [] => []
  | '%' :: a :: b :: rest =>
    match hexValue? a, hexValue? b with
    | some high, some low => .byte (UInt8.ofNat (16 * high + low)) :: percentPieces rest
    | _, _ => .char '%' :: percentPieces (a :: b :: rest)
  | c :: rest => .char c :: percentPieces rest

/-- The text that pieces spell. The bytes of an uninterrupted run are decoded together;
`pending` holds those of the current run, the last one first. -/
def joinPieces : (pending : List UInt8) → List PercentPiece → List Char
  | pending, [] => decodeUtf8 pending.reverse
  | pending, .byte byte :: rest => joinPieces (byte :: pending) rest
  | pending, .char c :: rest => decodeUtf8 pending.reverse ++ c :: joinPieces [] rest

/-- The text that a component of a URL path stands for. -/
def percentDecode (text : List Char) : List Char :=
  joinPieces [] (percentPieces text)

end Prerender.Text
