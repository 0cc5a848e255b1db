import SourceOutline.Model.Completion

/-!
# Checking a provider

A provider is in order when it answers a request about its models with success; a local
one must also have the chosen model.
-/

namespace SourceOutline

/-- The text without the ending, as often as it has it. The fuel is the length of the
text. -/
def dropEndings (ending : List Char) : Nat → List Char → List Char
  | 0, text => text
  | fuel + 1, text =>
    match Text.dropEnding? ending text with
    | some front => dropEndings ending fuel front
    | none => text

/-- One of the names is that of the model, or begins with it when the usual tag is left
out. -/
def hasModel (model : String) (names : List String) : Bool :=
  let bare := dropEndings ":latest".toList model.length model.toList
  names.any fun name => name == model || bare.isPrefixOf name.toList

/-- The names of models that a reply lists. -/
def modelNames? (json : Json) : Option (List String) :=
  match json.openRecord? ["models"] with
  | some [models] =>
    fieldOr (Json.listOf? fun model =>
      match model.record? ["name"] with
      | some [some name] => name.text?
      | _ => none) [] models
  | _ => none

/-- The value can be kept as a whole: its strings and keys have values, its numbers are in range,
and its arrays and objects stand inside each other no deeper than told. -/
def isKept : Nat → Json → Bool
  | _, .null | _, .bool _ | _, .string _ => true
  | _, .number literal => (Json.singleLiteral? literal).isSome
  | _, .unpaired _ => false
  | 0, .array _ | 0, .object _ => false
  | depth + 1, .array items => items.all (isKept depth)
  | depth + 1, .object members => members.all fun (_, value) => isKept depth value

/-- How deep a listed model may be. -/
def modelDepth : Nat := 125

/-- How many models a reply lists, if each of them can be kept. -/
def modelCount? (json : Json) : Option Nat :=
  match json.openRecord? ["modelSummaries"] with
  | some [models] =>
    fieldOr (fun models => (models.items.filter (·.all (isKept modelDepth))).map List.length) 0
      models
  | _ => none

namespace Provider

/-- The request that checks the provider. -/
def checkRequest (provider : Provider) : Except String Request :=
  let path :=
    match provider.service with
    | .bedrock => "/foundation-models"
    | .openai => "/models"
    | .ollama => "/api/tags"
  Request.make .get (provider.checkAddress ++ path) provider.key "*/*" none

/-- The result of a check that got no reply. -/
def failedCheck (provider : Provider) (reason : String) : Bool × Log :=
  match provider.service with
  | .ollama =>
    (false, Log.warn ("Ollama not available: " ++ reason ++ ". Start with: ollama serve"))
  | service => (false, Log.warn (service.title ++ " API check failed: " ++ reason))

/-- The result of a check that was a success. -/
def readCheck (provider : Provider) (body : String) : Bool × Log :=
  let json := Json.parse? body.toList
  match provider.service with
  | .bedrock =>
    let count := (json.bind modelCount?).getD 0
    (true, Log.info ("Bedrock API is available (" ++ Nat.repr count ++ " foundation models)"))
  | .openai => (true, Log.info "OpenAI API is available")
  | .ollama =>
    if hasModel provider.model ((json.bind modelNames?).getD []) then
      (true, Log.info ("Ollama is available with model: " ++ provider.model))
    else
      (false, Log.warn ("Ollama is running but model '" ++ provider.model
        ++ "' not found. Pull with: ollama pull " ++ provider.model))

/-- The provider is in order. -/
def check (provider : Provider) (send : Request → Delivery) : Bool × Log :=
  match provider.checkRequest with
  | .error reason => provider.failedCheck reason
  | .ok request =>
    match send request with
    | .unanswered => provider.failedCheck request.noReply
    | .answered reply =>
      if reply.isSuccess then provider.readCheck reply.body
      else
        (false, Log.warn (provider.service.title ++ " API check failed: " ++ reply.statusText))

end Provider

end SourceOutline
