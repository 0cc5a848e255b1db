import SourceOutline.Failure
import SourceOutline.Json.Writer
import SourceOutline.Url.Basic

/-!
# Requests and replies

A request is sent over the web, and a reply comes back or not. Some requests cannot even
be sent.
-/

namespace SourceOutline

/-- What a request does. -/
inductive Method where
  | get
  | post
  deriving DecidableEq, Repr

/-- The name of a method. -/
def Method.text : Method → String
  | get => "GET"
  | post => "POST"

/-- A request that can be sent. -/
structure Request where
  /-- What the request does. -/
  method : Method
  /-- Where it goes. -/
  url : Url
  /-- Who sends it. -/
  authorization : Option String
  /-- The format that the reply should have. -/
  accept : String
  /-- The content, as JSON. -/
  content : Option Json
  deriving Repr

/-- A reply to a request. -/
structure Reply where
  /-- The number that says whether the request was a success. -/
  status : Nat
  /-- The content. -/
  body : String
  deriving DecidableEq, Repr

/-- What became of a request. -/
inductive Delivery where
  | answered (reply : Reply)
  | unanswered
  deriving DecidableEq, Repr

namespace Request

/-- The content as it is sent. -/
def body? (request : Request) : Option String := request.content.map Json.compact

/-- The format of the content. -/
def contentType? (request : Request) : Option String :=
  request.content.map fun _ => "application/json"

/-- A key that can stand in a header. -/
def isKey (key : String) : Bool :=
  key.toList.all fun c => c == '\t' || (0x20 ≤ c.toNat && c.toNat != 0x7f)

/-- The address of a request, or why nothing can be sent there. -/
def target (address : String) : Except String Url :=
  match Url.parse address.toList with
  | .error _ => .error "builder error"
  | .ok url =>
    let url := { url with credentials := "" }
    if url.isWeb then .ok url else .error ("builder error for url (" ++ url.text ++ ")")

/-- A request to an address, with a key if there is one. -/
def make (method : Method) (address : String) (key : Option String) (accept : String)
    (content : Option Json) : Except String Request := do
  let url ← target address
  match key with
  | none => return { method, url, authorization := none, accept, content }
  | some key =>
    if isKey key then
      return { method, url, authorization := some ("Bearer " ++ key), accept, content }
    else .error "builder error"

/-- Why there is no reply. -/
def noReply (request : Request) : String :=
  "error sending request for url (" ++ request.url.text ++ ")"

end Request

namespace Reply

/-- The request was a success. -/
def isSuccess (reply : Reply) : Bool := 200 ≤ reply.status && reply.status ≤ 299

/-- The phrases of statuses. -/
def reasons : List (Nat × String) := [
  (100, "Continue"), (101, "Switching Protocols"), (102, "Processing"), (103, "Early Hints"),
  (200, "OK"), (201, "Created"), (202, "Accepted"), (203, "Non Authoritative Information"),
  (204, "No Content"), (205, "Reset Content"), (206, "Partial Content"), (207, "Multi-Status"),
  (208, "Already Reported"), (226, "IM Used"), (300, "Multiple Choices"),
  (301, "Moved Permanently"), (302, "Found"), (303, "See Other"), (304, "Not Modified"),
  (305, "Use Proxy"), (307, "Temporary Redirect"), (308, "Permanent Redirect"),
  (400, "Bad Request"), (401, "Unauthorized"), (402, "Payment Required"), (403, "Forbidden"),
  (404, "Not Found"), (405, "Method Not Allowed"), (406, "Not Acceptable"),
  (407, "Proxy Authentication Required"), (408, "Request Timeout"), (409, "Conflict"),
  (410, "Gone"), (411, "Length Required"), (412, "Precondition Failed"),
  (413, "Payload Too Large"), (414, "URI Too Long"), (415, "Unsupported Media Type"),
  (416, "Range Not Satisfiable"), (417, "Expectation Failed"), (418, "I'm a teapot"),
  (421, "Misdirected Request"), (422, "Unprocessable Entity"), (423, "Locked"),
  (424, "Failed Dependency"), (425, "Too Early"), (426, "Upgrade Required"),
  (428, "Precondition Required"), (429, "Too Many Requests"),
  (431, "Request Header Fields Too Large"), (451, "Unavailable For Legal Reasons"),
  (500, "Internal Server Error"), (501, "Not Implemented"), (502, "Bad Gateway"),
  (503, "Service Unavailable"), (504, "Gateway Timeout"), (505, "HTTP Version Not Supported"),
  (506, "Variant Also Negotiates"), (507, "Insufficient Storage"), (508, "Loop Detected"),
  (510, "Not Extended"), (511, "Network Authentication Required")]

/-- The status with its phrase. -/
def statusText (reply : Reply) : String :=
  Nat.repr reply.status ++ " " ++ (reasons.lookup reply.status).getD "<unknown status code>"

end Reply

end SourceOutline
