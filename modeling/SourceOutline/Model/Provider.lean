import SourceOutline.Log
import SourceOutline.Settings.Basic
import SourceOutline.Text.Blank
import SourceOutline.Text.Quoted
import SourceOutline.Text.Search
import SourceOutline.Url.Basic

/-!
# Providers of models

A provider runs models and takes requests at an address. It is chosen by name, and what
the choice leaves open has a default of its own. No text about a provider shows its key.
-/

namespace SourceOutline

/-- Who runs a model. -/
inductive Service where
  | bedrock
  | openai
  | ollama
  deriving DecidableEq, Repr

namespace Service

/-- The name of a service. -/
def name : Service → String
  | bedrock => "bedrock"
  | openai => "openai"
  | ollama => "ollama"

/-- The service with this name. -/
def ofName? (name : String) : Option Service := [bedrock, openai, ollama].find? (·.name == name)

/-- The name of a service in messages. -/
def title : Service → String
  | bedrock => "Bedrock"
  | openai => "OpenAI"
  | ollama => "Ollama"

/-- The variable that holds the key, if the service needs one. -/
def keyVariable? : Service → Option String
  | bedrock => some "AWS_BEARER_TOKEN_BEDROCK"
  | openai => some "OPENAI_API_KEY"
  | ollama => none

/-- The model that is asked when none is chosen. -/
def defaultModel : Service → String
  | bedrock => "amazon.titan-text-lite-v1"
  | openai => "gpt-4o-mini"
  | ollama => "llama3:latest"

/-- The service can run a model. Those of one maker run only there. -/
def runs (service : Service) (model : String) : Bool :=
  service == bedrock || !"amazon.".toList.isPrefixOf model.toList

end Service

/-- What is chosen about a provider. -/
structure ProviderOptions where
  /-- The name of the provider. -/
  provider : String
  /-- The name of the model, if one is chosen. -/
  model : Option String
  /-- Where the model runs. -/
  region : String
  /-- How many seconds an answer may take. -/
  timeout : Nat
  /-- How freely the model answers. -/
  temperature : Float32
  /-- The key, if one is given. -/
  key : Option String
  /-- The address of the service, if it is not the usual one. -/
  address : Option String

/-- A provider that can be asked. -/
structure Provider where
  /-- Who runs the model. -/
  service : Service
  /-- The key, if the service needs one. -/
  key : Option String
  /-- Where prompts are sent. -/
  address : String
  /-- Where the service is checked. -/
  checkAddress : String
  /-- The name of the model. -/
  model : String
  /-- How freely the model answers. -/
  temperature : Float32

/-- A field of a record in a text. -/
def showField (name value : String) : String := name ++ ": " ++ value

/-- A text that may be missing, in a text. -/
def showOption : Option String → String
  | none => "None"
  | some value => "Some(" ++ Text.quoted value ++ ")"

/-- Stands for a key. -/
def hiddenKey : String := "[REDACTED]"

namespace ProviderOptions

/-- The choice that settings make. -/
def ofSettings (settings : ModelSettings) : ProviderOptions :=
  { provider := settings.provider
    model := if settings.model.isEmpty then none else some settings.model
    region := settings.region
    timeout := settings.timeout
    temperature := settings.temperature
    key := none
    address := settings.address }

/-- The choice as a text. -/
def describe (options : ProviderOptions) : String :=
  "ProviderConfig \x7b " ++ ", ".intercalate [
    showField "provider" (Text.quoted options.provider),
    showField "model" (showOption options.model),
    showField "region" (Text.quoted options.region),
    showField "timeout_secs" (Nat.repr options.timeout),
    showField "temperature" (Decimal.exact.text options.temperature),
    showField "api_key" (showOption (options.key.map fun _ => hiddenKey)),
    showField "api_base" (showOption options.address)] ++ " \x7d"

/-- The key that a service needs: the given one, or else that of the environment. -/
def resolveKey (options : ProviderOptions) (lookup : String → Option String)
    (service : Service) : Except Failure (Option String) :=
  match service.keyVariable? with
  | none => .ok none
  | some name =>
    match options.key.or (lookup name) with
    | some key => .ok (some key)
    | none =>
      .error (.settings (service.title ++ " API key not found. Set the " ++ name
        ++ " environment variable"))

/-- The chosen model, if the service can run it. -/
def resolveModel (options : ProviderOptions) (service : Service) : String :=
  (options.model.filter service.runs).getD service.defaultModel

end ProviderOptions

namespace Provider

/-- The text without slashes at its end. -/
def dropSlashes (address : String) : String :=
  String.ofList (Text.dropWhileEnd (· == '/') address.toList)

/-- The addresses of a service that runs in regions: for prompts, and for checks. -/
def regionAddresses (region : String) : String × String :=
  let region := Text.trimString region
  let region := if region.isEmpty then "us-west-2" else region
  ("https://bedrock-runtime." ++ region ++ ".amazonaws.com",
    "https://bedrock." ++ region ++ ".amazonaws.com")

/-- The hosts that stand for this machine. -/
def localHosts : List String := ["localhost", "127.0.0.1", "[::1]"]

/-- A warning about a host that is not this machine. -/
def hostWarning (url : Url) : Log :=
  match url.host with
  | none => []
  | some host =>
    if localHosts.contains host then []
    else Log.warn ("Ollama endpoint is not localhost: " ++ host ++ ". Ensure this is intentional.")

/-- The text of an address without one slash at its end. -/
def addressText (url : Url) : String :=
  match Text.dropEnding? ['/'] url.text.toList with
  | some text => String.ofList text
  | none => url.text

/-- The address of a service that usually runs on this machine. -/
def localAddress (address : String) : Except Failure String × Log :=
  match Url.parse address.toList with
  | .error fault =>
    (.error (.settings ("Invalid Ollama endpoint URL '" ++ address ++ "': " ++ fault.text)), [])
  | .ok url =>
    if url.isWeb then (.ok (addressText url), hostWarning url)
    else
      (.error (.settings
        ("Ollama endpoint must use http or https scheme, got: " ++ url.scheme)), [])

/-- The addresses of a service: for prompts, and for checks. -/
def addresses (options : ProviderOptions) : Service → Except Failure (String × String) × Log
  | .bedrock =>
    match options.address with
    | some address => (.ok (dropSlashes address, dropSlashes address), [])
    | none => (.ok (regionAddresses options.region), [])
  | .openai =>
    let address := dropSlashes (options.address.getD "https://api.openai.com/v1")
    (.ok (address, address), [])
  | .ollama =>
    let (address, log) := localAddress (options.address.getD "http://localhost:11434")
    (address.map fun address => (address, address), log)

/-- The provider of a service. -/
def ofService (options : ProviderOptions) (lookup : String → Option String)
    (service : Service) : Except Failure Provider × Log :=
  match options.resolveKey lookup service with
  | .error failure => (.error failure, [])
  | .ok key =>
    let (found, log) := addresses options service
    (found.map fun (address, checkAddress) =>
      { service, key, address, checkAddress
        model := options.resolveModel service
        temperature := options.temperature }, log)

/-- The provider that is chosen. -/
def create (options : ProviderOptions) (lookup : String → Option String) :
    Except Failure Provider × Log :=
  match Service.ofName? options.provider with
  | some service => ofService options lookup service
  | none =>
    (.error (.settings ("Unknown provider: " ++ options.provider
      ++ ". Supported: bedrock, openai, ollama")), [])

/-- The provider as a text. The last part of the text of a local one is not told here. -/
def describe (provider : Provider) : String :=
  let model := showField "model" (Text.quoted provider.model)
  let temperature := showField "temperature" (Decimal.exact.text provider.temperature)
  let key := showField "api_key" (Text.quoted hiddenKey)
  match provider.service with
  | .bedrock =>
    "BedrockProvider \x7b " ++ ", ".intercalate [
      key, showField "runtime_base" (Text.quoted provider.address), model, temperature] ++ " \x7d"
  | .openai =>
    "OpenAiProvider \x7b " ++ ", ".intercalate [
      key, showField "api_base" (Text.quoted provider.address), model, temperature] ++ " \x7d"
  | .ollama =>
    "OllamaProvider \x7b " ++ ", ".intercalate [
      showField "api_base" (Text.quoted provider.address), model, temperature]

end Provider

end SourceOutline
