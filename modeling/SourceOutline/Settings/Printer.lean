import SourceOutline.Settings.Basic
import SourceOutline.Toml.Quoted

/-!
# Settings as a TOML document

The text can be put into a settings file again.
-/

namespace SourceOutline.Settings

/-- A number, if the format can hold it. -/
def printNat (value : Nat) : Except Failure String :=
  if value ≤ Int64.maxValue.toInt then .ok (Nat.repr value)
  else .error (.toml "out-of-range value for u64 type")

/-- A line with a key and a value. -/
def printLine (key value : String) : String := key ++ " = " ++ value ++ "\n"

/-- The lines on how sources are read. -/
def printAnalysis (settings : AnalysisSettings) : Except Failure String := do
  let window ← printNat settings.window
  let size ← printNat settings.maxFileSize
  let limit ← printNat settings.labelLimit
  return "[analysis]\n" ++ printLine "heuristic_window" window ++ printLine "max_file_size" size
    ++ printLine "label_param_limit" limit

/-- The lines on which model is asked, and how. -/
def printModel (settings : ModelSettings) : Except Failure String := do
  let timeout ← printNat settings.timeout
  let concurrency ← printNat settings.concurrency
  let address :=
    match settings.address with
    | some address => printLine "api_base" (Toml.quoted address)
    | none => ""
  return "[llm]\n" ++ printLine "provider" (Toml.quoted settings.provider)
    ++ printLine "model" (Toml.quoted settings.model)
    ++ printLine "region" (Toml.quoted settings.region)
    ++ address
    ++ printLine "timeout_secs" timeout
    ++ printLine "temperature" (Decimal.toml.text settings.temperature)
    ++ printLine "summary_max_tokens" (Nat.repr settings.summaryTokens)
    ++ printLine "translate_max_tokens" (Nat.repr settings.conversionTokens)
    ++ printLine "concurrency" concurrency

/-- All settings. -/
def print (settings : Settings) : Except Failure String := do
  let analysis ← printAnalysis settings.analysis
  let model ← printModel settings.model
  return printLine "version" (Toml.quoted settings.version) ++ "\n" ++ analysis ++ "\n" ++ model

end SourceOutline.Settings
