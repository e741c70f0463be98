/-!
# Reading UTF-8 with replacement

`decodeUtf8` reads any list of bytes. A well formed sequence is read as its character. Where the
bytes are not well formed, the longest start of a well formed sequence that stands there (a
single byte if there is none) is read as one replacement character U+FFFD, and reading goes on
behind it.
-/

namespace Prerender.Text

/-- What stands for bytes that are not well formed. -/
def replacementChar : Char := Char.ofNat 0xFFFD

/-- How a multi-byte sequence goes on behind its first byte: the bounds of the second byte, and
the number of further bytes behind that one. -/
structure Utf8Tail where
  low : UInt8
  high : UInt8
  more : Nat

/-- The tail that a first byte announces. None for ASCII and for bytes that start no sequence. -/
def utf8Tail? (first : UInt8) : Option Utf8Tail :=
  if first < 0xC2 then none
  else if first < 0xE0 then some ⟨0x80, 0xBF, 0⟩
  else if first = 0xE0 then some ⟨0xA0, 0xBF, 1⟩
  else if first = 0xED then some ⟨0x80, 0x9F, 1⟩
  else if first < 0xF0 then some ⟨0x80, 0xBF, 1⟩
  else if first = 0xF0 then some ⟨0x90, 0xBF, 2⟩
  else if first < 0xF4 then some ⟨0x80, 0xBF, 2⟩
  else if first = 0xF4 then some ⟨0x80, 0x8F, 2⟩
  else none

/-- Bytes behind the second one lie between these bounds. -/
def isContinuation (byte : UInt8) : Bool :=
  0x80 ≤ byte && byte ≤ 0xBF

/-- The six low bits that a continuation byte carries. -/
def continuationBits (byte : UInt8) : Nat :=
  byte.toNat % 0x40

/-- The characters that a list of bytes spells in UTF-8. -/
def decodeUtf8 : List UInt8 → List Char
  | [] => []
  | a :: rest =>
    if a < 0x80 then Char.ofNat a.toNat :: decodeUtf8 rest
    else match utf8Tail? a with
      | none => replacementChar :: decodeUtf8 rest
      | some tail =>
        match rest with
        | [] => [replacementChar]
        | b :: rest =>
          if tail.low ≤ b ∧ b ≤ tail.high then
            match tail.more, rest with
            | 0, rest =>
              Char.ofNat (a.toNat % 0x20 * 0x40 + continuationBits b) :: decodeUtf8 rest
            | _, [] => [replacementChar]
            | more + 1, c :: rest =>
              if isContinuation c then
                match more, rest with
                | 0, rest =>
                  Char.ofNat ((a.toNat % 0x10 * 0x40 + continuationBits b) * 0x40
                    + continuationBits c) :: decodeUtf8 rest
                | _, [] => [replacementChar]
                | _, d :: rest =>
                  if isContinuation d then
                    Char.ofNat (((a.toNat % 0x08 * 0x40 + continuationBits b) * 0x40
                      + continuationBits c) * 0x40 + continuationBits d) :: decodeUtf8 rest
                  else replacementChar :: decodeUtf8 (d :: rest)
              else replacementChar :: decodeUtf8 (c :: rest)
          else replacementChar :: decodeUtf8 (b :: rest)

end Prerender.Text
