import SourceOutline.Log
import SourceOutline.Settings.Environment
import SourceOutline.Settings.Exchange
import SourceOutline.Toml.Document

/-!
# Settings from several sources

Files and environment variables are layers over the defaults. Each field has the value of
the highest layer that sets it. Values are checked only after the layers are put together,
so a higher layer may mend a lower one.
-/

namespace SourceOutline

open Toml (Value)

namespace Toml.Value

mutual

/-- A value over another one. Tables are joined key by key, and a date sets no key. -/
def stack : Value → Value → Value
  | .table upper, .table lower => .table (stackEntries upper lower)
  | .date _, .table lower => .table lower
  | upper, _ => upper

/-- Entries over others. -/
def stackEntries : List (String × Value) → List (String × Value) → List (String × Value)
  | [], lower => lower
  | (key, value) :: rest, lower =>
    match find? key lower with
    | some below => stackEntries rest (put key (stack value below) lower)
    | none => stackEntries rest (put key value lower)

end

/-- The fields of a record: by name, or as a list in order. A date has none of them. -/
def fields? (keys : List String) : Value → Option (List (Option Value))
  | .table entries => some (keys.map (find? · entries))
  | .array items => some (keys.zipIdx.map fun (_, index) => items[index]?)
  | .date _ => some (keys.map fun _ => none)
  | _ => none

/-- A text. -/
def text? : Value → Option String
  | .text value => some value
  | _ => none

/-- A number between zero and a bound. -/
def natUpTo? (bound : Nat) : Value → Option Nat
  | .integer value => if 0 ≤ value ∧ value ≤ bound then some value.toNat else none
  | _ => none

/-- A machine word. -/
def word? : Value → Option Nat := natUpTo? Json.maxWord

/-- A number of 32 bits. -/
def halfWord? : Value → Option Nat := natUpTo? maxHalfWord

/-- A number as a single. -/
def single? : Value → Option Float32
  | .integer value => some (Float32.ofInt value)
  | .real value => some value.toFloat32
  | _ => none

end Toml.Value

/-- How sources are read, as a table or list says it. -/
def AnalysisSettings.ofValue? (value : Value) : Option AnalysisSettings :=
  match value.fields? keys with
  | some [window, size, limit] => do
    let base : AnalysisSettings := {}
    let window ← fieldOr Value.word? base.window window
    let maxFileSize ← fieldOr Value.word? base.maxFileSize size
    let labelLimit ← fieldOr Value.word? base.labelLimit limit
    some { window, maxFileSize, labelLimit }
  | _ => none

/-- Which model is asked and how, as a table or list says it. -/
def ModelSettings.ofValue? (value : Value) : Option ModelSettings :=
  match value.fields? keys with
  | some [provider, model, region, address, timeout, temperature, summary, conversion,
      parallel] => do
    let base : ModelSettings := {}
    let provider ← fieldOr Value.text? base.provider provider
    let model ← fieldOr Value.text? base.model model
    let region ← fieldOr Value.text? base.region region
    let address ← fieldOr (fun value => value.text?.map some) base.address address
    let timeout ← fieldOr Value.word? base.timeout timeout
    let temperature ← fieldOr Value.single? base.temperature temperature
    let summaryTokens ← fieldOr Value.halfWord? base.summaryTokens summary
    let conversionTokens ← fieldOr Value.halfWord? base.conversionTokens conversion
    let concurrency ← fieldOr Value.word? base.concurrency parallel
    some {
      provider, model, region, address, timeout, temperature, summaryTokens, conversionTokens,
      concurrency }
  | _ => none

namespace Settings

/-- All settings, as a table says them. -/
def ofValue? (value : Value) : Option Settings :=
  match value.fields? keys with
  | some [version, analysis, model] => do
    let base : Settings := {}
    let version ← fieldOr Value.text? base.version version
    let analysis ← fieldOr AnalysisSettings.ofValue? base.analysis analysis
    let model ← fieldOr ModelSettings.ofValue? base.model model
    some { version, analysis, model }
  | _ => none

/-- The layers put together, the highest last. -/
def join (layers : List Value) : Value :=
  layers.foldl (fun lower upper => upper.stack lower) (.table [])

/-- Valid settings from layers, the highest last. -/
def ofLayers (layers : List Value) : Except Failure Settings :=
  match ofValue? (join layers) with
  | some settings => settings.validate
  | none => .error (.settings "Configuration error")

/-- What a settings file holds. -/
inductive FileContent where
  | text (content : String)
  /-- Something that is no file stands there, and it sets nothing. -/
  | noFile
  /-- The content is no text. -/
  | noText
  deriving DecidableEq, Repr

/-- A settings file that is there. -/
structure File where
  /-- What it is for. -/
  scope : String
  /-- Where it is. -/
  path : String
  /-- What it holds. -/
  content : FileContent
  deriving DecidableEq, Repr

/-- The layer that a settings file stands for. -/
def FileContent.layer? : FileContent → Option Value
  | text content => (Toml.parse? content.toList).map .table
  | noFile => some (.table [])
  | noText => none

/-- The settings of the files that are there, the highest last, and of the environment. -/
def load (files : List File) (environment : List (String × String)) :
    Except Failure Settings × Log :=
  let log := files.flatMap fun file =>
    Log.debug ("Loading " ++ file.scope ++ " config from: " ++ file.path)
  match files.mapM (·.content.layer?) with
  | some layers => (ofLayers (layers ++ Environment.layers environment), log)
  | none => (.error (.settings "Configuration error"), log)

end Settings

end SourceOutline
