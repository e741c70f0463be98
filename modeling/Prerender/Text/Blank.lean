import Prerender.Text.CodeRanges

/-!
# Blank characters

`trim` removes the blanks at both ends of a text. Blank are the white space characters of
Unicode together with the four information separators (U+001C to U+001F).
-/

namespace Prerender.Text

/-- White space, and the four information separators. -/
def blankRanges : CodeRanges := [
    (0x9, 0xd), (0x1c, 0x20), (0x85, 0x85), (0xa0, 0xa0), (0x1680, 0x1680), (0x2000, 0x200a),
    (0x2028, 0x2029), (0x202f, 0x202f), (0x205f, 0x205f), (0x3000, 0x3000)]

/-- Blanks are what `trim` removes. -/
def isBlank (c : Char) : Bool :=
  blankRanges.contains c

/-- A text without the blanks it starts and ends with. -/
def trim (text : List Char) : List Char :=
  ((text.dropWhile isBlank).reverse.dropWhile isBlank).reverse

end Prerender.Text
