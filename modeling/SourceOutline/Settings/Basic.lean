import SourceOutline.Decimal.Style
import SourceOutline.Failure

/-!
# Settings

What a user can choose, with a default for every field. Settings are in use only when
they are valid.
-/

namespace SourceOutline

/-- How sources are read. -/
structure AnalysisSettings where
  /-- How many lines of a function are kept when its end is not known. -/
  window : Nat := 20
  /-- The size in bytes of the largest file that is read. -/
  maxFileSize : Nat := 1048576
  /-- How many parameters a label shows. -/
  labelLimit : Nat := 3
  deriving DecidableEq, Repr

/-- Which model is asked, and how. -/
structure ModelSettings where
  /-- Who runs the model. -/
  provider : String := "bedrock"
  /-- The name of the model. -/
  model : String := "amazon.titan-text-lite-v1"
  /-- Where the model runs. -/
  region : String := "us-west-2"
  /-- The address of the service, if it is not the usual one. -/
  address : Option String := none
  /-- How many seconds an answer may take. -/
  timeout : Nat := 60
  /-- How freely the model answers. -/
  temperature : Float32 := 0.0
  /-- The length of a summary at most, in tokens. -/
  summaryTokens : Nat := 50
  /-- The length of a function in another language at most, in tokens. -/
  conversionTokens : Nat := 400
  /-- How many requests are under way at once. -/
  concurrency : Nat := 4
  deriving Repr

/-- Everything that a user can choose. -/
structure Settings where
  /-- The version of the format. -/
  version : String := "1.0"
  /-- How sources are read. -/
  analysis : AnalysisSettings := {}
  /-- Which model is asked, and how. -/
  model : ModelSettings := {}
  deriving Repr

namespace Settings

/-- The first rule that settings break. -/
def fault? (settings : Settings) : Option String :=
  if settings.analysis.window = 0 then some "analysis.heuristic_window must be greater than 0"
  else if settings.analysis.maxFileSize = 0 then
    some "analysis.max_file_size must be greater than 0"
  else if !(0.0 ≤ settings.model.temperature && settings.model.temperature ≤ 2.0) then
    some ("LLM temperature must be between 0.0 and 2.0, got "
      ++ Decimal.plain.text settings.model.temperature)
  else if settings.model.timeout = 0 then some "LLM timeout_secs must be greater than 0"
  else if settings.model.concurrency = 0 then some "LLM concurrency must be greater than 0"
  else if settings.model.summaryTokens = 0 ∨ settings.model.conversionTokens = 0 then
    some "LLM token limits must be greater than 0"
  else none

/-- Settings that break no rule. -/
def validate (settings : Settings) : Except Failure Settings :=
  match settings.fault? with
  | some fault => .error (.settings fault)
  | none => .ok settings

/-- Settings with another window, if one is given. -/
def withWindow (settings : Settings) : Option Nat → Except Failure Settings
  | none => .ok settings
  | some window => { settings with analysis.window := window }.validate

end Settings

end SourceOutline
