/-!
# Text and bytes

Reading UTF-8 never fails: where the bytes are no text, one replacement character stands
for each longest run that could still have become a character.
-/

namespace SourceOutline.Text

/-- Stands for bytes that are no text. -/
def replacementChar : Char := '�'

/-- A byte that continues a character. -/
def isContinuation (byte : Nat) : Bool := 0x80 ≤ byte && byte ≤ 0xbf

/-- The second bytes that may follow a first byte, which also tells the width: overlong
forms, surrogates and values above the last code point are left out. -/
def secondByteRange? (first : Nat) : Option (Nat × Nat × Nat) :=
  if 0xc2 ≤ first ∧ first ≤ 0xdf then some (2, 0x80, 0xbf)
  else if first = 0xe0 then some (3, 0xa0, 0xbf)
  else if first = 0xed then some (3, 0x80, 0x9f)
  else if 0xe1 ≤ first ∧ first ≤ 0xef then some (3, 0x80, 0xbf)
  else if first = 0xf0 then some (4, 0x90, 0xbf)
  else if 0xf1 ≤ first ∧ first ≤ 0xf3 then some (4, 0x80, 0xbf)
  else if first = 0xf4 then some (4, 0x80, 0x8f)
  else none

/-- The payload of bytes behind the first. -/
def joinBytes (head : Nat) (tail : List Nat) : Char :=
  Char.ofNat (tail.foldl (fun value byte => value * 64 + byte % 64) head)

/-- The first character and the number of bytes that it takes. -/
def firstChar (first : Nat) (rest : List Nat) : Char × Nat :=
  if first < 0x80 then (Char.ofNat first, 1)
  else
    match secondByteRange? first, rest with
    | none, _ => (replacementChar, 1)
    | some _, [] => (replacementChar, 1)
    | some (width, low, high), second :: more =>
      if second < low ∨ high < second then (replacementChar, 1)
      else
        let tail := (more.takeWhile isContinuation).take (width - 2)
        if tail.length = width - 2 then
          (joinBytes (first % Nat.pow 2 (7 - width)) (second :: tail), width)
        else (replacementChar, 2 + tail.length)

/-- The characters of bytes. Each takes at least one byte, so the number of bytes is
enough fuel. -/
def decodeBytes : Nat → List Nat → List Char
  | 0, _ => []
  | _, [] => []
  | fuel + 1, first :: rest =>
    let (c, width) := firstChar first rest
    c :: decodeBytes fuel (rest.drop (width - 1))

/-- The text that bytes hold. -/
def ofBytes (bytes : List Nat) : List Char := decodeBytes bytes.length bytes

/-- The bytes of a character in UTF-8. -/
def charBytes (c : Char) : List Nat :=
  let n := c.toNat
  if n < 0x80 then [n]
  else if n < 0x800 then [0xc0 + n / 0x40, 0x80 + n % 0x40]
  else if n < 0x10000 then [0xe0 + n / 0x1000, 0x80 + n / 0x40 % 0x40, 0x80 + n % 0x40]
  else [0xf0 + n / 0x40000, 0x80 + n / 0x1000 % 0x40, 0x80 + n / 0x40 % 0x40, 0x80 + n % 0x40]

/-- The bytes of a text. -/
def toBytes (text : List Char) : List Nat := text.flatMap charBytes

/-- The text that bytes hold, if they are all of a text. -/
def ofBytes? (bytes : List Nat) : Option (List Char) :=
  let text := ofBytes bytes
  if toBytes text = bytes then some text else none

end SourceOutline.Text
