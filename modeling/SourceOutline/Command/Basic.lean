import SourceOutline.Command.Arguments
import SourceOutline.Decimal.Reading
import SourceOutline.Language.Basic
import SourceOutline.Log
import SourceOutline.Text.Search

/-!
# Commands

What the command line can be asked to do.
-/

namespace SourceOutline

/-- How a snapshot is shown. -/
inductive ReportFormat where
  | text
  | json
  | dot
  deriving DecidableEq, Repr

/-- The format with a name in any case. -/
def ReportFormat.parse (name : String) : Except String ReportFormat :=
  match String.ofList (Text.lowerAscii name.toList) with
  | "text" => .ok text
  | "json" => .ok json
  | "dot" => .ok dot
  | _ => .error ("Invalid format '" ++ name ++ "'. Valid values: text, json, dot")

/-- The language that a user names. -/
def Language.named (name : String) : Except String Language :=
  match (parse? name.toList).filter isKnown with
  | some language => .ok language
  | none =>
    .error ("Unknown language '" ++ name
      ++ "'. Use a name such as python, rust, go, java or c++")

/-- How a file is analyzed and shown. -/
structure AnalyzeRequest where
  /-- The path of the file. -/
  file : String
  /-- How the snapshot is shown. -/
  format : ReportFormat
  /-- The language to read the file as. -/
  language : Option Language
  /-- Summaries are written by the assistant. -/
  assisted : Bool
  /-- How many lines of a function are kept. -/
  window : Option Nat
  /-- The lines of the functions are shown. -/
  showsSource : Bool
  deriving DecidableEq, Repr

/-- Which function is converted. -/
structure ConvertRequest where
  /-- The path of the file. -/
  file : String
  /-- The name of the function. -/
  function : String
  /-- The language that it is converted to. -/
  target : String
  /-- The language to read the file as. -/
  language : Option Language
  deriving DecidableEq, Repr

/-- What the command line is asked to do. -/
inductive Command where
  | analyze (request : AnalyzeRequest)
  | convert (request : ConvertRequest)
  /-- Asks whether the provider is in order. -/
  | check
  | showSettings (format : String)
  | showPaths
  /-- Writes a first settings file, for all projects or for this one. -/
  | init (everywhere force : Bool)
  deriving DecidableEq, Repr

/-- A command and how much is told about its work. -/
structure Invocation where
  /-- What is done. -/
  command : Command
  /-- The lines of the log that are shown. -/
  shows : LogLevel → Bool

namespace Command

open Arguments

/-- Switches of every level. -/
def commonSwitches : List Name := [⟨"verbose", none⟩, ⟨"quiet", some 'q'⟩]

/-- An option that takes any value. -/
def anyValue (long : String) (letter : Char) : OptionRule := ⟨⟨long, some letter⟩, fun _ => true⟩

/-- A number of lines. -/
def windowValue? (text : String) : Option Nat :=
  match text.toList with
  | '-' :: _ => none
  | digits =>
    (Decimal.integer? digits).bind fun value =>
      if value < UInt64.size then some value.toNat else none

/-- The option for the language of a file. -/
def languageRule : OptionRule :=
  ⟨⟨"language", some 'l'⟩, fun value => (Language.named value).isOk⟩

/-- The level of the program itself. -/
def topLevel : Level := ⟨commonSwitches, [], 0, true⟩

/-- The level below a command that has commands of its own. -/
def groupLevel : Level := ⟨commonSwitches, [], 0, false⟩

/-- The level of the analysis. -/
def analyzeLevel : Level :=
  ⟨commonSwitches ++ [⟨"ai", none⟩, ⟨"source", none⟩],
    [⟨⟨"format", some 'f'⟩, fun value => (ReportFormat.parse value).isOk⟩, languageRule,
      ⟨⟨"window", none⟩, fun value => (windowValue? value).isSome⟩], 1, false⟩

/-- The level of the conversion. -/
def convertLevel : Level :=
  ⟨commonSwitches, [anyValue "function" 'n', anyValue "to" 't', languageRule], 1, false⟩

/-- The level of a command without anything of its own. -/
def bareLevel : Level := ⟨commonSwitches, [], 0, false⟩

/-- The level of the command that shows settings. -/
def showLevel : Level := ⟨commonSwitches, [anyValue "format" 'f'], 0, false⟩

/-- The level of the command that writes settings. -/
def initLevel : Level := ⟨commonSwitches ++ [⟨"global", some 'g'⟩, ⟨"force", none⟩], [], 0, false⟩

/-- The language that the arguments name. -/
def language? (reading : Reading) : Option Language :=
  (reading.value? "language").bind fun name => (Language.named name).toOption

/-- The analysis that the arguments ask for. -/
def ofAnalyze (reading : Reading) : Except Stop Command :=
  match reading.words with
  | [file] =>
    .ok (.analyze {
      file
      format := ((reading.value? "format").bind (ReportFormat.parse · |>.toOption)).getD .text
      language := language? reading
      assisted := reading.has "ai"
      window := (reading.value? "window").bind windowValue?
      showsSource := reading.has "source" })
  | _ => .error .invalid

/-- The conversion that the arguments ask for. -/
def ofConvert (reading : Reading) : Except Stop Command :=
  match reading.words, reading.value? "function", reading.value? "to" with
  | [file], some function, some target =>
    .ok (.convert { file, function, target, language := language? reading })
  | _, _, _ => .error .invalid

/-- Help about one of the commands with the given names. -/
def helpOn (names : List String) : List String → Stop
  | [] => .help
  | name :: _ => if names.contains name then .help else .invalid

/-- What the arguments say, and the command that they ask for. -/
def readLevel (level : Level) (make : Reading → Except Stop Command) (arguments : List String) :
    Except Stop (Reading × Command) := do
  let reading ← readAll level arguments
  return (reading, ← make reading)

/-- The command about settings that the arguments ask for. -/
def ofSettings (arguments : List String) : Except Stop (List Reading × Command) := do
  let (outer, name, rest) ← readCommand groupLevel {} arguments
  let (inner, command) ←
    match name with
    | "show" =>
      readLevel showLevel (fun r => .ok (.showSettings ((r.value? "format").getD "text"))) rest
    | "path" => readLevel bareLevel (fun _ => .ok .showPaths) rest
    | "init" => readLevel initLevel (fun r => .ok (.init (r.has "global") (r.has "force"))) rest
    | "help" => .error (helpOn ["show", "path", "init", "help"] rest)
    | _ => .error .invalid
  return ([outer, inner], command)

/-- The lines of the log that are shown. -/
def shownLevels (readings : List Reading) (level : LogLevel) : Bool :=
  if readings.any (·.has "verbose") then true
  else if readings.any (·.has "quiet") then false
  else level == .warn

/-- What the arguments ask for. -/
def parse (arguments : List String) : Except Stop Invocation := do
  let (top, name, rest) ← readCommand topLevel {} arguments
  let (readings, command) ←
    match name with
    | "analyze" => (readLevel analyzeLevel ofAnalyze rest).map fun (r, c) => ([r], c)
    | "translate" => (readLevel convertLevel ofConvert rest).map fun (r, c) => ([r], c)
    | "check" => (readLevel bareLevel (fun _ => .ok .check) rest).map fun (r, c) => ([r], c)
    | "config" => ofSettings rest
    | "help" => .error (helpOn ["analyze", "translate", "check", "config", "help"] rest)
    | _ => .error .invalid
  return ⟨command, shownLevels (top :: readings)⟩

end Command

end SourceOutline
