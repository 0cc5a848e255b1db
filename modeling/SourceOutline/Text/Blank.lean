/-!
# Blank characters and trimming

Blank means the White_Space property. Texts are lists of characters, so that
every cut below is a recursion on the text itself.
-/

namespace SourceOutline.Text

/-- A character with the White_Space property. -/
def isBlank (c : Char) : Bool :=
  let n := c.toNat
  (0x9 ≤ n && n ≤ 0xd) || n == 0x20 || n == 0x85 || n == 0xa0 || n == 0x1680 ||
    (0x2000 ≤ n && n ≤ 0x200a) || n == 0x2028 || n == 0x2029 || n == 0x202f ||
    n == 0x205f || n == 0x3000

/-- Drops the longest tail whose characters all satisfy the test. -/
def dropWhileEnd (test : Char → Bool) (text : List Char) : List Char :=
  (text.reverse.dropWhile test).reverse

/-- Drops blanks in front. -/
def trimStart (text : List Char) : List Char := text.dropWhile isBlank

/-- Drops blanks at the end. -/
def trimEnd (text : List Char) : List Char := dropWhileEnd isBlank text

/-- Drops blanks on both sides. -/
def trim (text : List Char) : List Char := trimEnd (trimStart text)

/-- A text without any character that is not blank. -/
def isBlankText (text : List Char) : Bool := text.all isBlank

/-- The first maximal run of characters that are not blank. -/
def firstWord? (text : List Char) : Option (List Char) :=
  match trimStart text with
  | [] => none
  | c :: rest => some (c :: rest.takeWhile (!isBlank ·))

/-- `trim` on strings. -/
def trimString (text : String) : String := String.ofList (trim text.toList)

end SourceOutline.Text
