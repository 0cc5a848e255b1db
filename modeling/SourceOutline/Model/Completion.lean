import SourceOutline.Json.Reader
import SourceOutline.Model.Provider
import SourceOutline.Model.Request
import SourceOutline.Settings.Exchange

/-!
# Asking a model

A question becomes a request in the form of the provider, and the text of the answer is
taken from the reply. An answer always has a character that is not blank.
-/

namespace SourceOutline

/-- A prompt for a model. -/
structure Question where
  /-- What is asked. -/
  prompt : String
  /-- The length of the answer at most. -/
  maxTokens : Nat
  deriving DecidableEq, Repr

namespace Provider

/-- Where a question is sent. -/
def questionAddress (provider : Provider) : String :=
  provider.address ++
    match provider.service with
    | .bedrock => "/model/" ++ provider.model ++ "/invoke"
    | .openai => "/chat/completions"
    | .ollama => "/api/generate"

/-- What the model is told in front of a question. -/
def systemPrompt : String := "You are a senior software engineer. Answer tersely."

/-- One message of a conversation. -/
def message (role content : String) : Json :=
  .object [("role", .string role), ("content", .string content)]

/-- The content of a request with a question. -/
def questionContent (provider : Provider) (question : Question) : Json :=
  let temperature := ("temperature", Json.ofSingle provider.temperature)
  let limit := Json.ofNat question.maxTokens
  match provider.service with
  | .bedrock =>
    .object [
      ("inputText", .string question.prompt),
      ("textGenerationConfig", .object [("maxTokenCount", limit), temperature])]
  | .openai =>
    .object [
      ("model", .string provider.model),
      ("messages", .array [message "system" systemPrompt, message "user" question.prompt]),
      temperature,
      ("max_tokens", limit)]
  | .ollama =>
    .object [
      ("model", .string provider.model),
      ("prompt", .string question.prompt),
      ("stream", .bool false),
      ("options", .object [temperature, ("num_predict", limit)])]

/-- The request that asks a question. -/
def questionRequest (provider : Provider) (question : Question) : Except String Request :=
  let accept := if provider.service = .bedrock then "application/json" else "*/*"
  Request.make .post provider.questionAddress provider.key accept
    (some (provider.questionContent question))

end Provider

/-- The texts of the results of a reply. -/
def resultTexts? (json : Json) : Option (List String) :=
  match json.openRecord? ["results"] with
  | some [results] =>
    fieldOr (Json.listOf? fun result =>
      match result.openRecord? ["outputText"] with
      | some [output] => fieldOr Json.text? "" output
      | _ => none) [] results
  | _ => none

/-- The text of a choice, which may be missing. -/
def choiceText? (json : Json) : Option (Option String) :=
  match json.record? ["message"] with
  | some [some message] =>
    match message.record? ["content"] with
    | some [content] => fieldOr Json.optionalText? none content
    | _ => none
  | _ => none

/-- The texts of the choices of a reply. -/
def choiceTexts? (json : Json) : Option (List (Option String)) :=
  match json.openRecord? ["choices"] with
  | some [choices] => fieldOr (Json.listOf? choiceText?) [] choices
  | _ => none

/-- The text of a reply that has one field for it. -/
def responseText? (json : Json) : Option String :=
  match json.openRecord? ["response"] with
  | some [response] => fieldOr Json.text? "" response
  | _ => none

namespace Service

/-- The first text of a reply, if it has the form of the service, and what is logged about
the reply. -/
def replyText? (service : Service) (json : Json) : Option (Option String × Log) :=
  match service with
  | bedrock =>
    (resultTexts? json).map fun texts =>
      (texts.head?, Log.debug ("Received " ++ Nat.repr texts.length ++ " result(s) from Bedrock"))
  | openai => (choiceTexts? json).map fun texts => (texts.head?.join, [])
  | ollama => (responseText? json).map fun text => (some text, [])

/-- The text of an answer without blanks around it. -/
def usableText (service : Service) (text : Option String) : Except RequestFailure String :=
  let text := Text.trimString (text.getD "")
  if text.isEmpty then .error (.emptyOutput service.name) else .ok text

/-- The answer that a reply holds. -/
def readReply (service : Service) (reply : Reply) : Except RequestFailure String × Log :=
  if reply.isSuccess then
    match (Json.parse? reply.body.toList).bind service.replyText? with
    | some (text, log) => (service.usableText text, log)
    | none => (.error ⟨.unreadable, "error decoding response body", some service.name⟩, [])
  else
    let message := "API error (" ++ reply.statusText ++ "): " ++ Text.trimString reply.body
    (.error (.ofStatus reply.status message service.name), [])

end Service

namespace Provider

/-- What is logged before a question is sent. -/
def questionLog (provider : Provider) (question : Question) : Log :=
  let title := provider.service.title
  let start := "Generating with " ++ title ++ " (model: " ++ provider.model
  match provider.service with
  | .bedrock => Log.info (start ++ ", max tokens: " ++ Nat.repr question.maxTokens ++ ")")
  | _ =>
    Log.info (start ++ ", temperature: " ++ Decimal.plain.text provider.temperature ++ ")")
      ++ Log.debug ("Sending request to " ++ title ++ " API")

/-- What is logged when nobody takes the request. -/
def unansweredLog (provider : Provider) : Log :=
  if provider.service = .ollama then
    Log.warn ("Failed to connect to Ollama at " ++ provider.address
      ++ ". Start with: ollama serve")
  else []

/-- The answer to a question. -/
def ask (provider : Provider) (send : Request → Delivery) (question : Question) :
    Except Failure String × Log :=
  let network (message : String) : Failure :=
    .request ⟨.network, message, some provider.service.name⟩
  let log := provider.questionLog question
  match provider.questionRequest question with
  | .error message => (.error (network message), log)
  | .ok request =>
    match send request with
    | .unanswered => (.error (network request.noReply), log ++ provider.unansweredLog)
    | .answered reply =>
      let (answer, replyLog) := provider.service.readReply reply
      (answer.mapError .request, log ++ replyLog)

end Provider

end SourceOutline
