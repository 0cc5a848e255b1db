import SourceOutline.Decimal.Reading
import SourceOutline.Json.Shape
import SourceOutline.Settings.Basic

/-!
# Settings as JSON

Every field may be missing and has its default then.
-/

namespace SourceOutline

/-- The largest number of 32 bits. -/
def maxHalfWord : Nat := UInt32.size - 1

namespace Json

/-- A number of 32 bits. -/
def halfWord? (value : Json) : Option Nat := value.word?.filter (· ≤ maxHalfWord)

/-- A literal as a single. Integers within a machine word are rounded once, all others
first to a double, which must be finite. -/
def singleLiteral? (literal : String) : Option Float32 :=
  let text := literal.toList
  let machine? := (Decimal.integer? text).filter fun (value : Int) =>
    Int64.minValue.toInt ≤ value && value ≤ maxWord && text != ['-', '0']
  match machine?, Decimal.ofText? text with
  | some value, _ => some (Float32.ofInt value)
  | none, some value => if value.isInf then none else some value.toFloat32
  | none, none => none

/-- A number as a single. -/
def single? : Json → Option Float32
  | number literal => singleLiteral? literal
  | _ => none

/-- A single as a number. -/
def ofSingle (value : Float32) : Json :=
  if value.isFinite then .number (Decimal.json.text value) else .null

end Json

/-- The value of a field, or its default. -/
def fieldOr {α β : Type} (read : α → Option β) (default : β) : Option α → Option β
  | none => some default
  | some value => read value

namespace AnalysisSettings

/-- The names of the fields in order. -/
def keys : List String := ["heuristic_window", "max_file_size", "label_param_limit"]

/-- The fields by name. -/
def toJson (settings : AnalysisSettings) : Json :=
  .object [
    ("heuristic_window", .ofNat settings.window),
    ("max_file_size", .ofNat settings.maxFileSize),
    ("label_param_limit", .ofNat settings.labelLimit)]

/-- The settings that an object or array describes. -/
def ofJson? (json : Json) : Option AnalysisSettings :=
  match json.openRecord? keys with
  | some [window, size, limit] => do
    let base : AnalysisSettings := {}
    let window ← fieldOr Json.word? base.window window
    let maxFileSize ← fieldOr Json.word? base.maxFileSize size
    let labelLimit ← fieldOr Json.word? base.labelLimit limit
    some { window, maxFileSize, labelLimit }
  | _ => none

end AnalysisSettings

namespace ModelSettings

/-- The names of the fields in order. -/
def keys : List String :=
  ["provider", "model", "region", "api_base", "timeout_secs", "temperature", "summary_max_tokens",
    "translate_max_tokens", "concurrency"]

/-- The fields by name. -/
def toJson (settings : ModelSettings) : Json :=
  .object [
    ("provider", .string settings.provider),
    ("model", .string settings.model),
    ("region", .string settings.region),
    ("api_base", .ofOption settings.address),
    ("timeout_secs", .ofNat settings.timeout),
    ("temperature", .ofSingle settings.temperature),
    ("summary_max_tokens", .ofNat settings.summaryTokens),
    ("translate_max_tokens", .ofNat settings.conversionTokens),
    ("concurrency", .ofNat settings.concurrency)]

/-- The settings that an object or array describes. -/
def ofJson? (json : Json) : Option ModelSettings :=
  match json.openRecord? keys with
  | some [provider, model, region, address, timeout, temperature, summary, conversion,
      parallel] => do
    let base : ModelSettings := {}
    let provider ← fieldOr Json.text? base.provider provider
    let model ← fieldOr Json.text? base.model model
    let region ← fieldOr Json.text? base.region region
    let address ← fieldOr Json.optionalText? base.address address
    let timeout ← fieldOr Json.word? base.timeout timeout
    let temperature ← fieldOr Json.single? base.temperature temperature
    let summaryTokens ← fieldOr Json.halfWord? base.summaryTokens summary
    let conversionTokens ← fieldOr Json.halfWord? base.conversionTokens conversion
    let concurrency ← fieldOr Json.word? base.concurrency parallel
    some {
      provider, model, region, address, timeout, temperature, summaryTokens, conversionTokens,
      concurrency }
  | _ => none

end ModelSettings

namespace Settings

/-- The names of the fields in order. -/
def keys : List String := ["version", "analysis", "llm"]

/-- The fields by name. -/
def toJson (settings : Settings) : Json :=
  .object [
    ("version", .string settings.version),
    ("analysis", settings.analysis.toJson),
    ("llm", settings.model.toJson)]

/-- The settings that an object or array describes. -/
def ofJson? (json : Json) : Option Settings :=
  match json.openRecord? keys with
  | some [version, analysis, model] => do
    let base : Settings := {}
    let version ← fieldOr Json.text? base.version version
    let analysis ← fieldOr AnalysisSettings.ofJson? base.analysis analysis
    let model ← fieldOr ModelSettings.ofJson? base.model model
    some { version, analysis, model }
  | _ => none

end Settings

end SourceOutline
