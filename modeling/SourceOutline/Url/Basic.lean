import SourceOutline.Url.Host

/-!
# Addresses of services

An address is read once and then has one text: the scheme and the host in lower case, no
number behind the host that the scheme implies, no dots in the path.
-/

namespace SourceOutline

/-- An address. -/
structure Url where
  /-- The scheme in lower case. -/
  scheme : String
  /-- The host, if the address names one. -/
  host : Option String
  /-- The number behind the host, unless the scheme implies it. -/
  portNumber : Option Nat
  /-- The name and password in front of the host, with their marks. -/
  credentials : String
  /-- The path. -/
  path : String
  /-- The query with its question mark, and the fragment with its number sign. -/
  rest : String
  deriving DecidableEq, Repr

namespace Url

open Text

/-- The number that a scheme implies behind a host. Schemes that have one are read
leniently. -/
def impliedPort? (scheme : String) : Option Nat :=
  match scheme with
  | "http" | "ws" => some 80
  | "https" | "wss" => some 443
  | "ftp" => some 21
  | _ => none

/-- Control characters and blanks around an address. -/
def isMargin (c : Char) : Bool := c.toNat ≤ 0x20

/-- The text without margins, tabs and line ends. -/
def clean (text : List Char) : List Char :=
  (dropWhileEnd isMargin (text.dropWhile isMargin)).filter fun c =>
    c != '\t' && c != '\n' && c != '\r'

/-- The scheme and what stands behind its colon. -/
def scheme? (text : List Char) : Option (String × List Char) :=
  let scheme := text.takeWhile fun c => c.isAlphanum || c == '+' || c == '-' || c == '.'
  match scheme, text.drop scheme.length with
  | first :: _, ':' :: rest =>
    if first.isAlpha then some (String.ofList (lowerAscii scheme), rest) else none
  | _, _ => none

/-- A slash, or a backslash where it counts as one. -/
def isSlash (lenient : Bool) (c : Char) : Bool := c == '/' || (lenient && c == '\\')

/-- Ends the part with the host. -/
def endsAuthority (lenient : Bool) (c : Char) : Bool := isSlash lenient c || c == '?' || c == '#'

/-- A name and password as they stand in front of a host. -/
def credentialsText (text : List Char) : String :=
  let name := text.takeWhile (· != ':')
  let password := text.drop (name.length + 1)
  if name.isEmpty && password.isEmpty then ""
  else
    let tail := if password.isEmpty then [] else ':' :: percentEncode userReserved password
    String.ofList (percentEncode userReserved name ++ tail ++ ['@'])

/-- The host of an authority, and what stands behind it. A colon between brackets belongs
to the host. -/
def splitHost : Bool → List Char → List Char × List Char
  | _, [] => ([], [])
  | inside, c :: rest =>
    if c = ':' ∧ !inside then ([], c :: rest)
    else
      let inside := c = '[' ∨ (inside ∧ c ≠ ']')
      let (host, tail) := splitHost inside rest
      (c :: host, tail)

/-- What stands behind the colon of a host: nothing, or a number of 16 bits. -/
def readPort (implied : Option Nat) (text : List Char) : Except Fault (Option Nat) :=
  if text.isEmpty then .ok none
  else
    let portNumber := Decimal.digitsValue text
    if !text.all Char.isDigit || 65535 < portNumber then .error .portNumber
    else .ok (if implied = some portNumber then none else some portNumber)

/-- The credentials, the host and the number behind it. -/
def readAuthority (scheme : String) (text : List Char) :
    Except Fault (String × String × Option Nat) := do
  let implied := impliedPort? scheme
  let (credentials, place) :=
    match cutAtLast? '@' text with
    | some (credentials, place) => (credentialsText credentials, place)
    | none => ("", text)
  let (name, tail) := splitHost false place
  let host ← if implied.isSome then namedHost name else otherHost name
  if host.isEmpty && (!tail.isEmpty || credentials != "") then .error .emptyHost
  else
    let portNumber ← readPort implied (tail.drop 1)
    return (credentials, host, portNumber)

/-- A segment that stands for the same place. -/
def isDot (segment : List Char) : Bool :=
  let segment := lowerAscii segment
  segment == ['.'] || segment == ['%', '2', 'e']

/-- A segment that stands for the place above. -/
def isDoubleDot (segment : List Char) : Bool :=
  ["..", ".%2e", "%2e.", "%2e%2e"].contains (String.ofList (lowerAscii segment))

/-- Adds segments to those in front of them, which are kept with the last first. Dots at
the end leave an empty segment. -/
def resolveDots : List (List Char) → List (List Char) → List (List Char)
  | [], done => done.reverse
  | segment :: rest, done =>
    if isDoubleDot segment then
      resolveDots rest (if rest.isEmpty then [] :: done.drop 1 else done.drop 1)
    else if isDot segment then resolveDots rest (if rest.isEmpty then [] :: done else done)
    else resolveDots rest (segment :: done)

/-- The segments of a text. -/
def segments (lenient : Bool) : List Char → List (List Char)
  | [] => [[]]
  | c :: rest =>
    let tail := segments lenient rest
    if isSlash lenient c then [] :: tail
    else
      match tail with
      | first :: more => (c :: first) :: more
      | [] => [[c]]

/-- The text of a path that begins with a slash, or is empty. -/
def pathText (lenient : Bool) (path : List Char) : String :=
  match path with
  | [] => if lenient then "/" else ""
  | c :: rest =>
    let parts := resolveDots (segments lenient (if isSlash lenient c then rest else path)) []
    String.ofList (parts.flatMap fun segment => '/' :: percentEncode pathReserved segment)

/-- The text of the query and the fragment. -/
def restText (lenient : Bool) (text : List Char) : String :=
  let query := text.takeWhile (· != '#')
  let fragment := text.drop query.length
  let reserved := if lenient then '\'' :: queryReserved else queryReserved
  String.ofList <|
    (match query with
      | [] => []
      | mark :: query => mark :: percentEncode reserved query) ++
    (match fragment with
      | [] => []
      | mark :: fragment => mark :: percentEncode fragmentReserved fragment)

/-- The path of a text, and its query and fragment. -/
def splitPath (text : List Char) : List Char × List Char :=
  let path := text.takeWhile fun c => c != '?' && c != '#'
  (path, text.drop path.length)

/-- The address behind the slashes in front of its host. -/
def withAuthority (scheme : String) (text : List Char) : Except Fault Url := do
  let lenient := (impliedPort? scheme).isSome
  let authority := text.takeWhile (!endsAuthority lenient ·)
  let (path, rest) := splitPath (text.drop authority.length)
  let (credentials, host, portNumber) ← readAuthority scheme authority
  return {
    scheme, host := some host, portNumber, credentials
    path := pathText lenient path
    rest := restText lenient rest }

/-- The address of a file. Its host may be missing. -/
def ofFile (text : List Char) : Except Fault Url := do
  let (path, rest) := splitPath text
  let url (host : String) (path : List Char) : Url :=
    { scheme := "file", host := some host, portNumber := none, credentials := ""
      path := pathText true path
      rest := restText true rest }
  match path with
  | a :: b :: inner =>
    let name := inner.takeWhile (!isSlash true ·)
    let below := inner.drop name.length
    if !(isSlash true a && isSlash true b) then return url "" path
    else if name.isEmpty || name == "localhost".toList then return url "" below
    else return url (← namedHost name) below
  | path => return url "" path

/-- The address that a text names. -/
def parse (text : List Char) : Except Fault Url :=
  match scheme? (clean text) with
  | none => .error .relative
  | some (scheme, text) =>
    if scheme = "file" then ofFile text
    else if (impliedPort? scheme).isSome then withAuthority scheme (text.dropWhile (isSlash true))
    else
      match text with
      | '/' :: '/' :: text => withAuthority scheme text
      | text =>
        let (path, rest) := splitPath text
        let path :=
          if path.head? = some '/' then pathText false path
          else String.ofList (percentEncode [] path)
        .ok {
          scheme, host := none, portNumber := none, credentials := "", path
          rest := restText false rest }

/-- The text of an address. -/
def text (url : Url) : String :=
  let portNumber :=
    match url.portNumber with
    | some portNumber => ":" ++ Nat.repr portNumber
    | none => ""
  let authority :=
    match url.host with
    | some host => "//" ++ url.credentials ++ host ++ portNumber
    | none => ""
  url.scheme ++ ":" ++ authority ++ url.path ++ url.rest

/-- A request can be sent to the address. -/
def isWeb (url : Url) : Bool := url.scheme == "http" || url.scheme == "https"

end Url

end SourceOutline
