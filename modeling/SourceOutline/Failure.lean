/-!
# Failures

What can go wrong outside the reading of sources, and how it is told. Failures of the
assistant are shown with a tag that says who is at fault.
-/

namespace SourceOutline

/-- Who is at fault. -/
inductive FailureTag where
  /-- The model answered, and the answer is of no use. -/
  | model
  /-- The request did not get an answer. -/
  | http
  /-- Settings, files and all else. -/
  | system
  deriving DecidableEq, Repr

/-- The text of a tag. -/
def FailureTag.text : FailureTag → String
  | model => "MODEL_ERROR"
  | http => "HTTP_ERROR"
  | system => "SYSTEM_ERROR"

/-- Kinds of failed requests. -/
inductive RequestFault where
  | rateLimit
  | auth
  | network
  | unavailable
  | badRequest
  /-- The answer could not be understood. -/
  | unreadable
  | transient
  deriving DecidableEq, Repr

namespace RequestFault

/-- The name of a fault. -/
def text : RequestFault → String
  | rateLimit => "RATE_LIMIT"
  | auth => "AUTH"
  | network => "NETWORK"
  | unavailable => "UNAVAILABLE"
  | badRequest => "BAD_REQUEST"
  | unreadable => "PARSE_ERROR"
  | transient => "TRANSIENT"

/-- Every fault. -/
def all : List RequestFault :=
  [rateLimit, auth, network, unavailable, badRequest, unreadable, transient]

/-- The fault with this name. -/
def ofText? (text : String) : Option RequestFault := all.find? (·.text == text)

/-- Who is at fault. -/
def tag : RequestFault → FailureTag
  | unreadable => .model
  | _ => .http

/-- The fault that a status other than success stands for. -/
def ofStatus (status : Nat) : RequestFault :=
  if status = 429 then rateLimit
  else if status = 401 ∨ status = 403 then auth
  else if status = 400 ∨ status = 422 then badRequest
  else if status = 500 ∨ status = 502 ∨ status = 503 ∨ status = 504 then transient
  else unavailable

end RequestFault

/-- A request to a model that failed. -/
structure RequestFailure where
  /-- What kind of failure it is. -/
  fault : RequestFault
  /-- The details. -/
  message : String
  /-- The provider that the request went to. -/
  provider : Option String
  deriving DecidableEq, Repr

namespace RequestFailure

/-- The failure as it is told. -/
def text (failure : RequestFailure) : String :=
  match failure.provider with
  | some provider => "[" ++ provider ++ ":" ++ failure.fault.text ++ "] " ++ failure.message
  | none => "[" ++ failure.fault.text ++ "] " ++ failure.message

/-- A status other than success. -/
def ofStatus (status : Nat) (message provider : String) : RequestFailure :=
  ⟨.ofStatus status, message, some provider⟩

/-- An answer without text. -/
def emptyOutput (provider : String) : RequestFailure :=
  ⟨.unreadable, "model returned no text", some provider⟩

end RequestFailure

/-- What can go wrong. -/
inductive Failure where
  /-- A file could not be read or written. -/
  | io (message : String)
  /-- A value could not be written as JSON. -/
  | json (message : String)
  /-- Settings could not be written. -/
  | toml (message : String)
  /-- A request to a model failed. -/
  | request (failure : RequestFailure)
  /-- No request could be made. -/
  | client (message : String)
  /-- A file could not be understood. -/
  | parse (message path : String)
  /-- Settings are of no use. -/
  | settings (message : String)
  /-- There is no function with this name. -/
  | noFunction (name : String)
  deriving DecidableEq, Repr

namespace Failure

/-- The failure as it is told. -/
def text : Failure → String
  | io message => "IO error: " ++ message
  | json message => "JSON error: " ++ message
  | toml message => "TOML error: " ++ message
  | request failure => "LLM error: " ++ failure.text
  | client message => "LLM API error: " ++ message
  | parse message path => "Parse error in " ++ path ++ ": " ++ message
  | settings message => "Config error: " ++ message
  | noFunction name => "Function not found: " ++ name

/-- Who is at fault. -/
def tag : Failure → FailureTag
  | request failure => failure.fault.tag
  | json _ => .model
  | _ => .system

/-- The failure in place of an answer: its tag and its text. -/
def tagged (failure : Failure) : String :=
  let message :=
    match failure with
    | request failure => failure.text
    | other => other.text
  failure.tag.text ++ ": " ++ message

end Failure

end SourceOutline
