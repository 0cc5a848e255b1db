/-!
# The fewest digits that read back

A binary number has a range of decimals that round to it. Among the decimals with the
fewest digits in that range the one nearest to the number is taken, and a rule decides
between two that are equally near.
-/

namespace SourceOutline.Decimal

/-- A non-negative number `mantissa * 2 ^ exponent`. -/
structure Binary where
  mantissa : Nat
  exponent : Int
  /-- The next smaller number is only half as far away as the next larger one. -/
  atPower : Bool
  deriving DecidableEq, Repr

/-- A non-negative number `digits * 10 ^ exponent`. -/
structure Digits where
  digits : Nat
  exponent : Int
  deriving DecidableEq, Repr

/-- Which of two equally near decimals is taken. -/
inductive Tie where
  /-- The larger one. -/
  | larger
  /-- The one whose last digit is even. -/
  | even
  deriving DecidableEq, Repr

/-- The finite number that the bits of a single stand for, without its sign. -/
def Binary.ofBits (bits : Nat) : Binary :=
  let fraction : Nat := bits % 0x800000
  let biased : Nat := bits / 0x800000 % 0x100
  if biased = 0 then ⟨fraction, -149, false⟩
  else ⟨fraction + 0x800000, (biased : Int) - 150, fraction == 0 && biased != 1⟩

/-- A power of a base with an exponent of either sign, as a fraction. -/
def powFraction (base : Nat) (exponent : Int) : Nat × Nat :=
  (Nat.pow base exponent.toNat, Nat.pow base (-exponent).toNat)

/-- Compares `a * 2 ^ p` with `b * 10 ^ q`. -/
def comparePowers (a : Nat) (p : Int) (b : Nat) (q : Int) : Ordering :=
  let (twos, undoTwos) := powFraction 2 p
  let (tens, undoTens) := powFraction 10 q
  compare (a * twos * undoTens) (b * tens * undoTwos)

/-- A number of quarters of the last binary place. -/
def Binary.quarters (number : Binary) : Nat := 4 * number.mantissa

/-- The decimal rounds to the binary number. Both ends of the range belong to it when the
mantissa is even. -/
def Binary.covers (number : Binary) (decimal : Digits) : Bool :=
  let low := number.quarters - (if number.atPower then 1 else 2)
  let high := number.quarters + 2
  let place := number.exponent - 2
  let below := comparePowers low place decimal.digits decimal.exponent
  let above := comparePowers high place decimal.digits decimal.exponent
  let closed := number.mantissa % 2 == 0
  (below == .lt || (below == .eq && closed)) && (above == .gt || (above == .eq && closed))

/-- The least exponent from `start` on whose power of ten exceeds the number. -/
def magnitude (number : Binary) : Nat → Int → Int
  | 0, start => start
  | fuel + 1, start =>
    if comparePowers number.mantissa number.exponent 1 start == .lt then start
    else magnitude number fuel (start + 1)

/-- The number in units of a power of ten, rounded down. -/
def unitsBelow (number : Binary) (exponent : Int) : Nat :=
  let (twos, undoTwos) := powFraction 2 number.exponent
  let (tens, undoTens) := powFraction 10 exponent
  number.mantissa * twos * undoTens / (undoTwos * tens)

/-- The smaller of two neighbours on a grid is taken: the number is nearer to it, or half
way and the rule for ties prefers it. -/
def takesBelow (tie : Tie) (number : Binary) (units : Nat) (exponent : Int) : Bool :=
  let (twos, undoTwos) := powFraction 2 number.exponent
  let (tens, undoTens) := powFraction 10 exponent
  let twice := 2 * number.mantissa * twos * undoTens
  let middle := (2 * units + 1) * (undoTwos * tens)
  twice < middle || (twice == middle && tie == .even && units % 2 == 0)

/-- The decimal on the grid of a power of ten that reads back, if there is one. -/
def onGrid? (tie : Tie) (number : Binary) (exponent : Int) : Option Digits :=
  let units := unitsBelow number exponent
  let below : Digits := ⟨units, exponent⟩
  let above : Digits := ⟨units + 1, exponent⟩
  match number.covers below && units != 0, number.covers above with
  | true, true => some (if takesBelow tie number units exponent then below else above)
  | true, false => some below
  | false, true => some above
  | false, false => none

/-- The first grid with a decimal that reads back, from the coarsest on. -/
def firstGrid (tie : Tie) (number : Binary) : Nat → Int → Digits
  | 0, exponent => ⟨unitsBelow number exponent, exponent⟩
  | fuel + 1, exponent =>
    (onGrid? tie number exponent).getD (firstGrid tie number fuel (exponent - 1))

/-- Without zeros at the end. The fuel bounds the number of digits. -/
def Digits.strip : Nat → Digits → Digits
  | 0, decimal => decimal
  | fuel + 1, decimal =>
    if decimal.digits ≠ 0 ∧ decimal.digits % 10 = 0 then
      strip fuel ⟨decimal.digits / 10, decimal.exponent + 1⟩
    else decimal

/-- The shortest decimal of a single that is neither infinite nor undefined. Nine digits
are enough for every single. -/
def shortest (tie : Tie) (bits : Nat) : Digits :=
  let number := Binary.ofBits bits
  if number.mantissa = 0 then ⟨0, 0⟩
  else (firstGrid tie number 9 (magnitude number 100 (-46) - 1)).strip 20

end SourceOutline.Decimal
