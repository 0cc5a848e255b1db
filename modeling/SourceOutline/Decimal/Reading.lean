/-!
# Numbers from decimals

A decimal is read as the nearest double. Places far beyond the range of doubles are
decided without the powers of ten that they would need.
-/

namespace SourceOutline.Decimal

/-- The value of decimal digits. -/
def digitsValue (digits : List Char) : Nat :=
  digits.foldl (fun value c => value * 10 + (c.toNat - '0'.toNat)) 0

/-- Digits without a sign, with the exponent of ten that belongs to the last of them. -/
def unsigned (digits : List Char) (exponent : Int) : Float :=
  let digits := digits.dropWhile (· == '0')
  let place := digits.length + exponent
  if digits.isEmpty then 0.0
  else if 400 < place then 1.0 / 0.0
  else if place < -400 then 0.0
  else Float.ofScientific (digitsValue digits) (decide (exponent < 0)) exponent.natAbs

/-- The double nearest to a decimal. -/
def double (negative : Bool) (digits : List Char) (exponent : Int) : Float :=
  if negative then -unsigned digits exponent else unsigned digits exponent

/-- A sign in front, and what stands behind it. -/
def splitSign : List Char → Bool × List Char
  | '-' :: rest => (true, rest)
  | '+' :: rest => (false, rest)
  | text => (false, text)

/-- Digits with a sign, if there is at least one digit. -/
def integer? (text : List Char) : Option Int :=
  let (negative, digits) := splitSign text
  if digits.isEmpty || !digits.all Char.isDigit then none
  else
    let value : Int := digitsValue digits
    some (if negative then -value else value)

/-- The exponent that a text behind the digits names: nothing, or a letter and a number. -/
def exponent? : List Char → Option Int
  | [] => some 0
  | mark :: rest => if mark == 'e' || mark == 'E' then integer? rest else none

/-- The double that a decimal stands for: digits with at most one point among them, and
an exponent. At least one digit is needed. -/
def ofText? (text : List Char) : Option Float :=
  let (negative, body) := splitSign text
  let whole := body.takeWhile Char.isDigit
  let afterWhole := body.drop whole.length
  let (fraction, rest) :=
    match afterWhole with
    | '.' :: rest => (rest.takeWhile Char.isDigit, rest.dropWhile Char.isDigit)
    | rest => ([], rest)
  if (whole ++ fraction).isEmpty then none
  else
    (exponent? rest).map fun exponent =>
      double negative (whole ++ fraction) (exponent - fraction.length)

end SourceOutline.Decimal
