/-!
# Numbers

Numbers of configuration values: integers of any size and binary floating-point numbers. A
floating-point number is held as the decimal with the fewest digits that is read back as it, so
its text is a matter of layout. Comparisons are exact: they compare the binary number that the
decimal stands for (`Decimal.binaryValue`), also with integers that no floating-point number
equals.

Every number has a text (`Number.text`), but integers are only written up to a number of digits
(`Number.isWritable`).
-/

namespace Prerender

/-- The decimal `digits * 10 ^ exponent` with a sign, without trailing zeros. -/
structure Decimal where
  negative : Bool
  digits : Nat
  exponent : Int
  reduced : digits % 10 ≠ 0 ∨ digits = 0 ∧ exponent = 0
deriving DecidableEq, Repr

namespace Decimal

/-- Zero, of either sign. -/
def zero (negative : Bool) : Decimal :=
  ⟨negative, 0, 0, .inr ⟨rfl, rfl⟩⟩

/-- The decimal `digits * 10 ^ exponent`, brought into its form without trailing zeros. -/
def ofDigits (negative : Bool) (digits : Nat) (exponent : Int) : Decimal :=
  if isZero : digits = 0 then zero negative
  else if ends : digits % 10 = 0 then ofDigits negative (digits / 10) (exponent + 1)
  else ⟨negative, digits, exponent, .inl ends⟩
termination_by digits
decreasing_by omega

/-- The fraction `num / den` divided by `2 ^ power`, again as numerator and denominator. -/
def scaled (num den : Nat) (power : Int) : Nat × Nat :=
  if 0 ≤ power then (num, den <<< power.toNat) else (num <<< (-power).toNat, den)

/-- The quotient rounded to the nearest integer, a tie going to the even one. -/
def roundedQuotient (num den : Nat) : Nat :=
  let quotient := num / den
  let twice := 2 * (num % den)
  if twice > den ∨ twice = den ∧ quotient % 2 = 1 then quotient + 1 else quotient

/-- The power of two at which a positive fraction has 53 binary digits before the point, at least
the least power that a double precision number has. -/
def binaryPower (num den : Nat) : Int :=
  let estimate : Int := num.log2 - den.log2 - 52
  let (n, d) := scaled num den estimate
  let power := if n < d <<< 52 then estimate - 1 else estimate
  if power < -1074 then -1074 else power

/-- The double precision number nearest to a positive fraction, exactly. -/
def nearestBinary (num den : Nat) : Rat :=
  let power := binaryPower num den
  let (n, d) := scaled num den power
  (roundedQuotient n d : Rat) * (2 : Rat) ^ power

/-- The binary number that the decimal is the shortest text of, exactly. -/
def binaryValue (d : Decimal) : Rat :=
  let magnitude :=
    if d.digits = 0 then 0
    else if 0 ≤ d.exponent then nearestBinary (d.digits * Nat.pow 10 d.exponent.toNat) 1
    else nearestBinary d.digits (Nat.pow 10 (-d.exponent).toNat)
  if d.negative then -magnitude else magnitude

/-- The text of the decimal. It is positional when the first digit stands between the places
`10 ^ -4` and `10 ^ 15`, with at least one digit on each side of the point. Otherwise one digit
stands before the point and the exponent has a sign and two digits or more. -/
def text (d : Decimal) : String :=
  let digits := (toString d.digits).toList
  let width : Int := digits.length
  let point := width + d.exponent
  let magnitude :=
    if point ≤ -4 ∨ 16 < point then
      let fraction := if digits.length = 1 then [] else '.' :: digits.drop 1
      let order := point - 1
      let sign := if order < 0 then '-' else '+'
      let places := (toString order.natAbs).toList
      let places := if places.length < 2 then '0' :: places else places
      digits.take 1 ++ fraction ++ 'e' :: sign :: places
    else if point ≤ 0 then
      '0' :: '.' :: List.replicate (-point).toNat '0' ++ digits
    else if point < width then
      digits.take point.toNat ++ '.' :: digits.drop point.toNat
    else
      digits ++ List.replicate (point - width).toNat '0' ++ ['.', '0']
  String.ofList (if d.negative then '-' :: magnitude else magnitude)

end Decimal

/-- A binary floating-point number. -/
inductive Floating where
  | finite (value : Decimal)
  | infinite (negative : Bool)
  | notANumber
deriving DecidableEq, Repr

namespace Floating

/-- The text of a floating-point number. -/
def text : Floating → String
  | .finite value => value.text
  | .infinite negative => if negative then "-inf" else "inf"
  | .notANumber => "nan"

/-- The value of decimal digits, most significant first, continuing from `start`. -/
def readDigits : (start : Nat) → List Char → Option Nat
  | start, [] => some start
  | start, c :: rest => if c.isDigit then readDigits (start * 10 + (c.toNat - 48)) rest else none

/-- An exponent: digits with or without a sign. -/
def readExponent : List Char → Option Int
  | '-' :: rest => (readDigits 0 rest).map fun n => -(n : Int)
  | '+' :: rest => (readDigits 0 rest).map fun n => (n : Int)
  | rest => (readDigits 0 rest).map fun n => (n : Int)

/-- A number without its sign. -/
def readMagnitude (negative : Bool) (text : List Char) : Option Floating := do
  if text = ['i', 'n', 'f'] then return .infinite negative
  if text = ['n', 'a', 'n'] then return .notANumber
  let mantissa := text.takeWhile (· ≠ 'e')
  let whole := mantissa.takeWhile (· ≠ '.')
  let fraction := (mantissa.dropWhile (· ≠ '.')).drop 1
  let exponent ← match text.dropWhile (· ≠ 'e') with
    | [] => some 0
    | _ :: rest => readExponent rest
  let digits ← readDigits 0 (whole ++ fraction)
  return .finite (Decimal.ofDigits negative digits (exponent - fraction.length))

/-- Reads the text of a floating-point number. -/
def ofText? (text : String) : Option Floating :=
  match text.toList with
  | '-' :: rest => readMagnitude true rest
  | rest => readMagnitude false rest

end Floating

/-- An integer or a floating-point number. -/
inductive Number where
  | int (value : Int)
  | float (value : Floating)
deriving DecidableEq, Repr

namespace Number

/-- The text of a number. -/
def text : Number → String
  | .int value => toString value
  | .float value => value.text

/-- The most digits that an integer is written with. -/
def digitLimit : Nat := 4300

/-- Whether a natural number has at most so many digits. -/
def fitsIn : Nat → Nat → Bool
  | 0, value => value = 0
  | digits + 1, value => value < 10 || fitsIn digits (value / 10)

/-- Whether a number can be written. -/
def isWritable : Number → Bool
  | .int value => fitsIn digitLimit value.natAbs
  | .float _ => true

/-- A number on the line from minus infinity to infinity; none for what is not a number. -/
inductive Extended where
  | minusInfinity
  | value (value : Rat)
  | plusInfinity
deriving DecidableEq

/-- Where a number lies, exactly. -/
def extended? : Number → Option Extended
  | .int value => some (.value value)
  | .float (.finite decimal) => some (.value decimal.binaryValue)
  | .float (.infinite negative) => some (if negative then .minusInfinity else .plusInfinity)
  | .float .notANumber => none

/-- The order of the extended line. -/
def Extended.less : Extended → Extended → Bool
  | .minusInfinity, .minusInfinity => false
  | .minusInfinity, _ => true
  | .value a, .value b => a < b
  | .value _, .plusInfinity => true
  | _, _ => false

/-- Whether one number is less than another. Nothing is less or greater than what is not a
number. -/
def less (a b : Number) : Bool :=
  match a.extended?, b.extended? with
  | some x, some y => x.less y
  | _, _ => false

/-- Whether two numbers have the same value, whatever their representation. -/
def sameValue (a b : Number) : Bool :=
  match a.extended?, b.extended? with
  | some x, some y => x = y
  | _, _ => false

/-- Zero and above; false for what is not a number. -/
def isNonnegative (a : Number) : Bool :=
  match a.extended? with
  | some x => !x.less (.value 0)
  | none => false

/-- The lesser of two numbers, the first one if neither is less. -/
def least (a b : Number) : Number :=
  if b.less a then b else a

end Number

end Prerender
