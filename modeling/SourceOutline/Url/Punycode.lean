/-!
# Host names in ASCII

A label with other characters is written as its ASCII characters and, behind the last
hyphen, the places and values of the others in order of their values. Each number has
digits of base 36 whose bounds follow the numbers before it.
-/

namespace SourceOutline.Url

/-- A digit of base 36: letters first. -/
def digit36 (digit : Nat) : Char :=
  if digit < 26 then Char.ofNat ('a'.toNat + digit) else Char.ofNat ('0'.toNat + (digit - 26))

/-- The bound of the digit at a place, which is a multiple of 36. -/
def digitBound (place bias : Nat) : Nat := min 26 (max 1 (place - bias))

/-- The digits of a number, the lowest first. The fuel is more than the number has
digits. -/
def punycodeDigits (bias : Nat) : Nat → Nat → Nat → List Char
  | 0, _, _ => []
  | fuel + 1, place, number =>
    let bound := digitBound place bias
    if number < bound then [digit36 number]
    else
      digit36 (bound + (number - bound) % (36 - bound)) ::
        punycodeDigits bias fuel (place + 36) ((number - bound) / (36 - bound))

/-- A number scaled down below a bound, and 36 for each step. -/
def scaleDown : Nat → Nat → Nat × Nat
  | 0, delta => (delta, 0)
  | fuel + 1, delta =>
    if 455 < delta then
      let (scaled, steps) := scaleDown fuel (delta / 35)
      (scaled, steps + 36)
    else (delta, 0)

/-- The bias behind a number, of so many characters written. -/
def nextBias (delta written : Nat) (first : Bool) : Nat :=
  let start := if first then delta / 700 else delta / 2
  let (scaled, steps) := scaleDown 64 (start + start / written)
  steps + 36 * scaled / (scaled + 38)

/-- The state between two characters. -/
structure PunycodeState where
  /-- The number to be written next. -/
  delta : Nat
  /-- The bias of its digits. -/
  bias : Nat
  /-- How many characters are written. -/
  written : Nat
  /-- The digits so far, the last first. -/
  digits : List Char

/-- One character of the label, when those of a value are written. -/
def punycodeChar (value plain : Nat) (state : PunycodeState) (c : Char) : PunycodeState :=
  if c.toNat < value then { state with delta := state.delta + 1 }
  else if c.toNat = value then
    { delta := 0
      bias := nextBias state.delta (state.written + 1) (state.written == plain)
      written := state.written + 1
      digits := (punycodeDigits state.bias 64 36 state.delta).reverse ++ state.digits }
  else state

/-- The characters of all values from the given one on. The fuel bounds their number. -/
def punycodeValues (label : List Char) (plain : Nat) : Nat → Nat → PunycodeState → PunycodeState
  | 0, _, state => state
  | fuel + 1, value, state =>
    match ((label.map Char.toNat).filter (value ≤ ·)).min? with
    | none => state
    | some next =>
      let start := { state with delta := state.delta + (next - value) * (state.written + 1) }
      let state := label.foldl (punycodeChar next plain) start
      punycodeValues label plain fuel (next + 1) { state with delta := state.delta + 1 }

/-- A label in ASCII. -/
def asciiLabel (label : List Char) : List Char :=
  let plain := label.filter (·.toNat < 0x80)
  if plain.length = label.length then label
  else
    let state := punycodeValues label plain.length label.length 0x80 ⟨0, 72, plain.length, []⟩
    let front := if plain.isEmpty then [] else plain ++ ['-']
    "xn--".toList ++ front ++ state.digits.reverse

end SourceOutline.Url
