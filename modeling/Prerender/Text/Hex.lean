/-!
# Hexadecimal digits

Digits in base sixteen, lower case for escapes inside quoted texts and upper case for percent
escapes. `hexValue?` reads a digit of either case.
-/

namespace Prerender.Text

/-- The value of a hexadecimal digit of either case. -/
def hexValue? (c : Char) : Option Nat :=
  if '0' ≤ c ∧ c ≤ '9' then some (c.toNat - '0'.toNat)
  else if 'a' ≤ c ∧ c ≤ 'f' then some (c.toNat - 'a'.toNat + 10)
  else if 'A' ≤ c ∧ c ≤ 'F' then some (c.toNat - 'A'.toNat + 10)
  else none

/-- The lower case digit of a value below sixteen. -/
def lowerHex (value : Nat) : Char :=
  if value < 10 then Char.ofNat ('0'.toNat + value) else Char.ofNat ('a'.toNat + value - 10)

/-- The upper case digit of a value below sixteen. -/
def upperHex (value : Nat) : Char :=
  if value < 10 then Char.ofNat ('0'.toNat + value) else Char.ofNat ('A'.toNat + value - 10)

/-- The last `width` lower case hexadecimal digits of a number, most significant first. -/
def hexDigits : (width : Nat) → (number : Nat) → List Char
  | 0, _ => []
  | width + 1, number => hexDigits width (number / 16) ++ [lowerHex (number % 16)]

end Prerender.Text
