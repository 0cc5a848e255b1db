import SourceOutline.Json.Reader
import SourceOutline.Text.Utf8

/-!
# Percent encoding

Characters that may not stand in a part of an address are written as the bytes of their
UTF-8 form, each behind a percent sign.
-/

namespace SourceOutline.Url

open Text (charBytes)

/-- A byte behind a percent sign. -/
def percentByte (byte : Nat) : List Char :=
  ['%', (Nat.digitChar (byte / 16)).toUpper, (Nat.digitChar (byte % 16)).toUpper]

/-- Characters that stand in no part of an address. -/
def isHidden (c : Char) : Bool := c.toNat < 0x20 || 0x7f ≤ c.toNat

/-- The text with the hidden and the given characters encoded. -/
def percentEncode (reserved : List Char) (text : List Char) : List Char :=
  text.flatMap fun c =>
    if isHidden c || reserved.contains c then (charBytes c).flatMap percentByte else [c]

/-- Characters that are encoded in the part behind the number sign. -/
def fragmentReserved : List Char := [' ', '"', '<', '>', '`']

/-- Characters that are encoded in a path. -/
def pathReserved : List Char := fragmentReserved ++ ['#', '?', '\x7b', '\x7d']

/-- Characters that are encoded in a name or password. -/
def userReserved : List Char := pathReserved ++ ['/', ':', ';', '=', '@', '[', '\\', ']', '^', '|']

/-- Characters that are encoded in a query. -/
def queryReserved : List Char := [' ', '"', '#', '<', '>']

/-- The bytes of a text with percent signs read back. -/
def percentDecode : List Char → List Nat
  | [] => []
  | '%' :: a :: b :: rest =>
    match Json.hexDigit? a, Json.hexDigit? b with
    | some high, some low => (high * 16 + low) :: percentDecode rest
    | _, _ => charBytes '%' ++ percentDecode (a :: b :: rest)
  | c :: rest => charBytes c ++ percentDecode rest

end SourceOutline.Url
