import SourceOutline.Decimal.Shortest

/-!
# Numbers as text

How the shortest decimal of a number is written: with all its zeros, or with an exponent
beyond some bounds, with or without a point in whole numbers. A style also settles which
of two equally near decimals is written.
-/

namespace SourceOutline.Decimal

/-- A way to write numbers. -/
structure Style where
  /-- Whole numbers get a point and a zero. -/
  pointed : Bool
  /-- The places of the point, counted from the first digit, at which no exponent is
  written. -/
  positional : Int → Bool
  /-- Which of two equally near decimals is written. -/
  tie : Tie
  /-- The text of numbers that are too large. -/
  infinite : String
  /-- The text of results that are no number. -/
  undefined : String

/-- Zeros. -/
def zeros (count : Int) : List Char := List.replicate count.toNat '0'

/-- The digits with the point at a place. -/
def writePositional (pointed : Bool) (digits : List Char) (place : Int) : List Char :=
  if digits.length ≤ place then
    digits ++ zeros (place - digits.length) ++ (if pointed then ['.', '0'] else [])
  else if 0 < place then digits.take place.toNat ++ '.' :: digits.drop place.toNat
  else '0' :: '.' :: zeros (-place) ++ digits

/-- An integer in decimal. -/
def writeInt (value : Int) : List Char :=
  (if value < 0 then ['-'] else []) ++ (Nat.repr value.natAbs).toList

/-- The digits with a point behind the first and an exponent. -/
def writeExponent (digits : List Char) (place : Int) : List Char :=
  let mantissa :=
    match digits with
    | first :: second :: rest => first :: '.' :: second :: rest
    | short => short
  mantissa ++ 'e' :: writeInt (place - 1)

/-- The text of a decimal. -/
def Style.write (style : Style) (decimal : Digits) : List Char :=
  let digits := (Nat.repr decimal.digits).toList
  if decimal.digits = 0 then '0' :: (if style.pointed then ['.', '0'] else [])
  else
    let place := digits.length + decimal.exponent
    if style.positional place then writePositional style.pointed digits place
    else writeExponent digits place

/-- The text of a single. -/
def Style.text (style : Style) (value : Float32) : String :=
  if value.isNaN then style.undefined
  else
    let bits := value.toBits.toNat
    let sign := if 0x80000000 ≤ bits then ['-'] else []
    if value.isInf then String.ofList sign ++ style.infinite
    else String.ofList (sign ++ style.write (shortest style.tie bits))

/-- All digits, without a point in whole numbers. -/
def plain : Style := ⟨false, fun _ => true, .larger, "inf", "NaN"⟩

/-- An exponent from 10^16 on and below 10^-4, and a point in whole numbers. -/
def exact : Style := ⟨true, fun place => -4 < place && place ≤ 16, .larger, "inf", "NaN"⟩

/-- An exponent from 10^13 on and below 10^-6, and a point in whole numbers. -/
def json : Style := ⟨true, fun place => -6 < place && place ≤ 13, .even, "null", "null"⟩

/-- All digits, and a point in whole numbers. -/
def toml : Style := ⟨true, fun _ => true, .larger, "inf", "nan"⟩

end SourceOutline.Decimal
