import SourceOutline.Command.Basic
import SourceOutline.Command.FileTree
import SourceOutline.Command.Report
import SourceOutline.Model.Health
import SourceOutline.Settings.Layers
import SourceOutline.Settings.Printer

/-!
# Running commands

A command looks at files and variables, asks a provider, and leaves texts for the user and
files to be written. It touches nothing itself.
-/

namespace SourceOutline.Command

/-- What a command can see and ask. -/
structure World where
  /-- What a path leads to. -/
  entry : String → Entry
  /-- The variables of the environment. -/
  environment : List (String × String)
  /-- What becomes of a request. -/
  send : Request → Delivery

/-- What a command leaves behind. -/
structure Outcome where
  /-- The command failed. -/
  failed : Bool := false
  /-- The result for the user. -/
  output : String := ""
  /-- What went wrong. -/
  complaint : String := ""
  /-- Files to be written, and their content. -/
  writes : List (String × String) := []
  /-- The log. -/
  log : Log := []

namespace Outcome

/-- The outcome with an earlier log in front. -/
def after (log : Log) (outcome : Outcome) : Outcome := { outcome with log := log ++ outcome.log }

/-- A result alone. -/
def result (output : String) : Outcome := { output }

/-- A failure alone. -/
def failure (failure : Failure) : Outcome :=
  { failed := true, complaint := "\x1b[31mError:\x1b[0m " ++ failure.text ++ "\n" }

end Outcome

/-- The next step with a value, or the failure that there is in its place. -/
def proceed {α : Type} (found : Except Failure α × Log) (next : α → Outcome) : Outcome :=
  match found with
  | (.ok value, log) => (next value).after log
  | (.error failure, log) => (Outcome.failure failure).after log

namespace World

/-- The value of a variable. -/
def lookup (world : World) (name : String) : Option String := world.environment.lookup name

end World

/-- A path below a folder. -/
def below (folder name : String) : String :=
  if folder.isEmpty then name
  else if folder.toList.getLast? = some '/' then folder ++ name
  else folder ++ "/" ++ name

/-- The folder of the settings of all projects. -/
def globalFolder? (world : World) : Option String :=
  let base? :=
    (world.lookup "XDG_CONFIG_HOME").or ((world.lookup "HOME").map (below · ".config"))
  base?.map (below · "codelens")

/-- The folder of the settings of one project. -/
def projectFolder : String := ".codelens"

/-- The settings file of a folder. -/
def settingsPath (folder : String) : String := below folder "config.toml"

/-- The settings file at a path, if something is there. -/
def settingsFile? (world : World) (scope path : String) : Option Settings.File :=
  match world.entry path with
  | .file bytes =>
    match Text.ofBytes? bytes with
    | some text => some ⟨scope, path, .text (String.ofList text)⟩
    | none => some ⟨scope, path, .noText⟩
  | .folder => some ⟨scope, path, .noFile⟩
  | .missing | .blocked => none

/-- The settings that are in force. -/
def settings (world : World) : Except Failure Settings × Log :=
  let everywhere := (globalFolder? world).bind fun folder =>
    settingsFile? world "global" (settingsPath folder)
  let here := settingsFile? world "project" (settingsPath projectFolder)
  Settings.load (everywhere.toList ++ here.toList) world.environment

/-- There is nothing at the path. -/
def noSuchFile : Failure := .io "No such file or directory (os error 2)"

/-- There is a file where a folder is needed. -/
def notAFolder : Failure := .io "Not a directory (os error 20)"

/-- There is a folder where a file is needed. -/
def isAFolder : Failure := .io "Is a directory (os error 21)"

/-- The snapshot of a file, unless the file is too large. -/
def takeSnapshot (world : World) (settings : Settings) (language : Option Language)
    (path : String) : Except Failure Snapshot × Log :=
  match world.entry path with
  | .missing => (.error noSuchFile, [])
  | .blocked => (.error notAFolder, [])
  | .folder => (.error isAFolder, [])
  | .file bytes =>
    let limit := settings.analysis.maxFileSize
    if limit < bytes.length then
      (.error (.settings (path ++ " is " ++ Nat.repr bytes.length
        ++ " bytes, above analysis.max_file_size (" ++ Nat.repr limit ++ ")")), [])
    else
      let options : Snapshot.Options := {
        window := settings.analysis.window
        labelLimit := settings.analysis.labelLimit
        language }
      let name := (Language.fileName? path.toList).getD []
      let (snapshot, log) := Snapshot.take options (String.ofList name) (Text.ofBytes bytes)
      (.ok snapshot, log)

/-- The provider that the settings choose. -/
def provider (world : World) (settings : Settings) : Except Failure Provider × Log :=
  Provider.create (.ofSettings settings.model) world.lookup

/-- The assistant that the settings choose. -/
def assistant (world : World) (settings : Settings) : Except Failure Assistant × Log :=
  let (provider, log) := provider world settings
  (provider.map fun provider => Assistant.ofProvider provider world.send settings.model, log)

/-- Shows a snapshot. -/
def report (request : AnalyzeRequest) (enhancement : Enhancement) : Outcome :=
  match request.format with
  | .json => .result ((Report.json enhancement).pretty ++ "\n")
  | .dot => .result (Report.dot enhancement.snapshot ++ "\n")
  | .text =>
    { output := Report.text request.file enhancement request.showsSource
      complaint := Report.failures enhancement }

/-- Analyzes a file. -/
def runAnalyze (world : World) (request : AnalyzeRequest) : Outcome :=
  proceed (settings world) fun settings =>
    proceed (settings.withWindow request.window, []) fun settings =>
      proceed (takeSnapshot world settings request.language request.file) fun snapshot =>
        if request.assisted then
          proceed (assistant world settings) fun assistant =>
            let answers := assistant.enhance snapshot
            (report request answers.value).after answers.log
        else report request ⟨snapshot, []⟩

/-- The names of the functions that there are. -/
def availableFunctions (snapshot : Snapshot) : String :=
  "✗ Available functions: " ++ ", ".intercalate (snapshot.functions.map (·.name)) ++ "\n"

/-- Converts a function into another language. -/
def runConvert (world : World) (request : ConvertRequest) : Outcome :=
  proceed (settings world) fun settings =>
    proceed (takeSnapshot world settings request.language request.file) fun snapshot =>
      match snapshot.function? request.function with
      | none =>
        let outcome := Outcome.failure (.noFunction request.function)
        { outcome with complaint := availableFunctions snapshot ++ outcome.complaint }
      | some record =>
        proceed (assistant world settings) fun assistant =>
          let answer := assistant.convertedText record.sourceSlice snapshot.language request.target
          (Outcome.result (answer.value ++ "\n")).after answer.log

/-- Checks the provider. -/
def runCheck (world : World) : Outcome :=
  proceed (settings world) fun settings =>
    proceed (provider world settings) fun provider =>
      let name := provider.service.name
      let region :=
        if provider.service = .bedrock then Report.field "Region" settings.model.region else ""
      let shown :=
        Report.title "Provider check" ++ Report.field "Provider" name
          ++ Report.field "Model" provider.model ++ region
      let (healthy, log) := provider.check world.send
      if healthy then
        { output := shown ++ "✓ " ++ name ++ " is reachable\n", log }
      else
        { output := shown
          complaint := "⚠ " ++ name
            ++ " did not answer the health check; see the log with --verbose\n"
          log }

/-- Shows the settings that are in force. -/
def runShowSettings (world : World) (format : String) : Outcome :=
  if format == "json" then
    proceed (settings world) fun settings => .result (settings.toJson.pretty ++ "\n")
  else if format == "text" || format == "toml" then
    proceed (settings world) fun settings =>
      proceed (settings.print, []) fun text => .result (text ++ "\n")
  else
    .failure (.settings ("Invalid format '" ++ format ++ "'. Valid values: text, json"))

/-- A path with a mark that tells whether something is there. -/
def markedPath (world : World) (path : String) : String :=
  (if (world.entry path).exists then "✓ " else "✗ ") ++ path

/-- Shows where settings are looked for. -/
def runShowPaths (world : World) : Outcome :=
  let everywhere :=
    match globalFolder? world with
    | some folder => markedPath world (settingsPath folder)
    | none => "(not available)"
  .result ("Configuration paths:\n\n  Global:  " ++ everywhere ++ "\n  Project: "
    ++ markedPath world (settingsPath projectFolder) ++ "\n")

/-- The first settings file of all projects. -/
def globalTemplate : String :=
  "# CodeLens Global Configuration\n" ++
  "# User-wide defaults. Project settings in .codelens/config.toml override these.\n" ++
  "# API keys are read from the environment (AWS_BEARER_TOKEN_BEDROCK, OPENAI_API_KEY).\n\n" ++
  "version = \"1.0\"\n\n[llm]\nprovider = \"bedrock\"\nmodel = \"amazon.titan-text-lite-v1\"\n" ++
  "region = \"us-west-2\"\ntimeout_secs = 60\nconcurrency = 4\n"

/-- The first settings file of one project. -/
def projectTemplate : String :=
  "# CodeLens Project Configuration\n" ++
  "# Project-specific settings that override global defaults.\n\n" ++
  "version = \"1.0\"\n\n[analysis]\nheuristic_window = 20\nmax_file_size = 1048576\n" ++
  "label_param_limit = 3\n"

/-- The files to be written for a settings file in a folder. One that is there stays,
unless it is replaced by force. -/
def settingsWrites (world : World) (folder template : String) (force : Bool) :
    Except Failure (List (String × String)) × Log :=
  let path := settingsPath folder
  match world.entry folder with
  | .file _ => (.error (.io "File exists (os error 17)"), [])
  | .blocked => (.error notAFolder, [])
  | .folder | .missing =>
    if (world.entry path).exists && !force then (.ok [], Log.info ("Config exists: " ++ path))
    else if world.entry path = .folder then (.error isAFolder, [])
    else (.ok [(path, template)], Log.info ("Created config: " ++ path))

/-- Writes a first settings file. -/
def runInit (world : World) (everywhere force : Bool) : Outcome :=
  let folder? := if everywhere then globalFolder? world else some projectFolder
  match folder? with
  | none => .failure (.settings "Cannot determine global config directory")
  | some folder =>
    let template := if everywhere then globalTemplate else projectTemplate
    let scope := if everywhere then "global" else "project"
    proceed (settingsWrites world folder template force) fun writes =>
      { output := "✓ Initialized " ++ scope ++ " configuration\n"
          ++ Report.field "Config" (settingsPath folder)
        writes }

/-- Runs a command. -/
def run (world : World) : Command → Outcome
  | analyze request => runAnalyze world request
  | convert request => runConvert world request
  | check => runCheck world
  | showSettings format => runShowSettings world format
  | showPaths => runShowPaths world
  | init everywhere force => runInit world everywhere force

/-- The paths that a command may look at. -/
def paths (world : World) (command : Command) : List String :=
  let folders := (globalFolder? world).toList ++ [projectFolder]
  let files :=
    match command with
    | analyze request => [request.file]
    | convert request => [request.file]
    | _ => []
  folders ++ folders.map settingsPath ++ files

/-- The version of the program. -/
def versionText : String := "codelens 0.1.0\n"

end SourceOutline.Command
