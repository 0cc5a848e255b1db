import SourceOutline.Text.Lines

/-!
# Finding one text inside another
-/

namespace SourceOutline.Text

/-- The needle stands somewhere in the text. -/
def hasInfix (needle : List Char) : List Char → Bool
  | [] => needle.isEmpty
  | c :: rest => needle.isPrefixOf (c :: rest) || hasInfix needle rest

/-- The text around the first place where the needle stands. -/
def cutAt? (needle : List Char) : List Char → Option (List Char × List Char)
  | [] => if needle.isEmpty then some ([], []) else none
  | c :: rest =>
    if needle.isPrefixOf (c :: rest) then some ([], (c :: rest).drop needle.length)
    else (cutAt? needle rest).map fun (front, tail) => (c :: front, tail)

/-- The text without the given ending, when it has it. -/
def dropEnding? (ending text : List Char) : Option (List Char) :=
  if ending.isSuffixOf text then some (text.take (text.length - ending.length)) else none

/-- The text around the last place where the character stands. -/
def cutAtLast? (mark : Char) (text : List Char) : Option (List Char × List Char) :=
  let tail := (text.reverse.takeWhile (· != mark)).reverse
  if tail.length < text.length then some (text.take (text.length - tail.length - 1), tail)
  else none

/-- The pieces between places where the needle stands, cut from the left. The fuel is the
length of the text, since each cut shortens it. -/
def splitOnText (needle text : List Char) : List (List Char) :=
  go text.length text
where
  go : Nat → List Char → List (List Char)
    | 0, text => [text]
    | fuel + 1, text =>
      if needle.isEmpty then [text]
      else
        match cutAt? needle text with
        | none => [text]
        | some (front, tail) => front :: go fuel tail

/-- Upper-case ASCII letters become lower case. -/
def lowerAscii (text : List Char) : List Char := text.map Char.toLower

/-- Equality up to the case of ASCII letters. -/
def eqIgnoreAsciiCase (a b : List Char) : Bool := lowerAscii a == lowerAscii b

end SourceOutline.Text
