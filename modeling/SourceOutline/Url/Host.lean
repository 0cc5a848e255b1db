import SourceOutline.Decimal.Reading
import SourceOutline.Text.Search
import SourceOutline.Url.Percent
import SourceOutline.Url.Punycode

/-!
# Hosts

A host is a name, an address of four bytes or an address of eight pieces. Each has one
text: names are in lower case and in ASCII, and the longest run of zero pieces is left out.
-/

namespace SourceOutline.Url

open Text

/-- Why a text is no address. -/
inductive Fault where
  /-- There is no scheme. -/
  | relative
  | emptyHost
  | name
  | nameCharacter
  | fourBytes
  | eightPieces
  | portNumber
  deriving DecidableEq, Repr

/-- The fault as it is told. -/
def Fault.text : Fault → String
  | relative => "relative URL without a base"
  | emptyHost => "empty host"
  | name => "invalid international domain name"
  | nameCharacter => "invalid domain character"
  | fourBytes => "invalid IPv4 address"
  | eightPieces => "invalid IPv6 address"
  | portNumber => "invalid port number"

/-- Characters that stand in no host. -/
def isForbidden (c : Char) : Bool := "\x00\t\n\r #/:<>?@[\\]^|".toList.contains c

/-- Characters that stand in no name. -/
def isForbiddenInName (c : Char) : Bool :=
  isForbidden c || c.toNat < 0x20 || c == '%' || c.toNat == 0x7f

/-- A letter in lower case, and a wide character in its usual form. -/
def foldChar (c : Char) : Char :=
  let n := c.toNat
  if n = 0x3002 then '.'
  else if 0xff01 ≤ n ∧ n ≤ 0xff5e then (Char.ofNat (n - 0xfee0)).toLower
  else if (0xc0 ≤ n ∧ n ≤ 0xde ∧ n ≠ 0xd7) ∨ (0x391 ≤ n ∧ n ≤ 0x3a9) ∨ (0x410 ≤ n ∧ n ≤ 0x42f) then
    Char.ofNat (n + 32)
  else if 0x400 ≤ n ∧ n ≤ 0x40f then Char.ofNat (n + 80)
  else c.toLower

/-- A name in lower case and in ASCII. -/
def asciiName (name : List Char) : List Char :=
  List.intercalate ['.'] (((name.map foldChar).splitOn '.').map asciiLabel)

/-- A part of an address of four bytes: decimal, octal or hexadecimal. -/
def addressPart? (part : List Char) : Option Nat :=
  let value? (base : Nat) (digits : List Char) : Option Nat :=
    (digits.mapM Json.hexDigit?).bind fun values =>
      if values.all (· < base) then some (values.foldl (fun n digit => n * base + digit) 0)
      else none
  match part with
  | [] => none
  | '0' :: 'x' :: digits | '0' :: 'X' :: digits => value? 16 digits
  | '0' :: digit :: digits => value? 8 (digit :: digits)
  | digits => value? 10 digits

/-- The parts of a name, without an empty one behind a last point. -/
def nameParts (name : List Char) : List (List Char) :=
  match (name.splitOn '.').reverse with
  | [] :: part :: rest => (part :: rest).reverse
  | parts => parts.reverse

/-- The last part of a name is a number, so that the name must be an address. -/
def endsInNumber (name : List Char) : Bool :=
  match (nameParts name).getLast? with
  | none => false
  | some part =>
    (!part.isEmpty && part.all Char.isDigit) ||
      (match part with
        | '0' :: 'x' :: digits | '0' :: 'X' :: digits =>
          digits.all fun c => (Json.hexDigit? c).isSome
        | _ => false)

/-- Four bytes from the value of an address. -/
def fourByteText (value : Nat) : String :=
  let bytes := [value / 0x1000000, value / 0x10000 % 0x100, value / 0x100 % 0x100, value % 0x100]
  ".".intercalate (bytes.map Nat.repr)

/-- The text of an address of up to four parts. The last one fills all bytes that are
left. -/
def fourByteAddress? (name : List Char) : Option String :=
  match (nameParts name).mapM addressPart? with
  | none => none
  | some parts =>
    match parts.reverse with
    | [] => none
    | last :: front =>
      if 3 < front.length ∨ front.any (255 < ·) ∨ Nat.pow 256 (4 - front.length) ≤ last then none
      else
        let front := parts.dropLast.zipIdx.map fun (part, i) => part * Nat.pow 256 (3 - i)
        some (fourByteText (front.foldl (· + ·) last))

/-- One to four hexadecimal digits. -/
def piece? (text : List Char) : Option Nat :=
  if text.isEmpty ∨ 4 < text.length then none
  else (text.mapM Json.hexDigit?).map fun digits => digits.foldl (fun n digit => n * 16 + digit) 0

/-- Four decimal bytes without zeros in front, as two pieces. -/
def decimalPieces? (text : List Char) : Option (List Nat) :=
  let byte? (part : List Char) : Option Nat :=
    match part with
    | ['0'] => some 0
    | '0' :: _ => none
    | _ =>
      if part.isEmpty ∨ 3 < part.length ∨ !part.all Char.isDigit then none
      else
        let value := Decimal.digitsValue part
        if value ≤ 255 then some value else none
  match (text.splitOn '.').mapM byte? with
  | some [a, b, c, d] => some [a * 256 + b, c * 256 + d]
  | _ => none

/-- Pieces with colons between them. The last one may be four decimal bytes. -/
def pieces? : List (List Char) → Option (List Nat)
  | [] => some []
  | [last] => if last.contains '.' then decimalPieces? last else (piece? last).map ([·])
  | part :: rest =>
    match piece? part, pieces? rest with
    | some piece, some pieces => some (piece :: pieces)
    | _, _ => none

/-- Pieces of a text, which may be empty. -/
def piecesOf? (text : List Char) : Option (List Nat) :=
  if text.isEmpty then some [] else pieces? (text.splitOn ':')

/-- The eight pieces of an address. Two colons stand for zeros. -/
def eightPieces? (text : List Char) : Option (List Nat) :=
  match cutAt? [':', ':'] text with
  | none => (piecesOf? text).filter (·.length = 8)
  | some (front, back) =>
    match piecesOf? front, piecesOf? back with
    | some front', some back' =>
      if front'.length + back'.length ≤ 7 ∧ !(front.contains '.') then
        some (front' ++ List.replicate (8 - front'.length - back'.length) 0 ++ back')
      else none
    | _, _ => none

/-- The place and length of the longest run of zeros, the first of equal ones. -/
def longestZeros : List Nat → Nat → Nat × Nat
  | [], _ => (0, 0)
  | piece :: rest, index =>
    let run := ((piece :: rest).takeWhile (· == 0)).length
    let best := longestZeros rest (index + 1)
    if best.2 ≤ run then (index, run) else best

/-- The text of an address of eight pieces. -/
def eightPieceText (pieces : List Nat) : String :=
  let join (pieces : List Nat) :=
    ":".intercalate (pieces.map fun piece => String.ofList (Nat.toDigits 16 piece))
  let (start, run) := longestZeros pieces 0
  if run < 2 then join pieces
  else join (pieces.take start) ++ "::" ++ join (pieces.drop (start + run))

/-- An address behind its opening bracket. -/
def bracketed (text : List Char) : Except Fault String :=
  match (dropEnding? [']'] text).bind eightPieces? with
  | some pieces => .ok ("[" ++ eightPieceText pieces ++ "]")
  | none => .error .eightPieces

/-- The host of a scheme whose hosts are names or addresses. -/
def namedHost : List Char → Except Fault String
  | '[' :: rest => bracketed rest
  | text =>
    let name := asciiName (ofBytes (percentDecode text))
    if name.isEmpty then .error .emptyHost
    else if name.any isForbiddenInName then .error .name
    else if endsInNumber name then
      match fourByteAddress? name with
      | some address => .ok address
      | none => .error .fourBytes
    else .ok (String.ofList name)

/-- The host of any other scheme. -/
def otherHost : List Char → Except Fault String
  | '[' :: rest => bracketed rest
  | text =>
    if text.any isForbidden then .error .nameCharacter
    else .ok (String.ofList (percentEncode [] text))

end SourceOutline.Url
