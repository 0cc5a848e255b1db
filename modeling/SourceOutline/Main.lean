import SourceOutline.Command.Run

/-!
# The command line program

Reads what a command may look at, runs the command and prints what it leaves behind. No
request leaves the program: it takes every provider for one that does not answer.
-/

namespace SourceOutline.Main

/-- The variables that commands look up. -/
def variableNames : List String :=
  ["HOME", "XDG_CONFIG_HOME", "AWS_BEARER_TOKEN_BEDROCK", "OPENAI_API_KEY", "CODELENS_VERSION",
      "CODELENS_ANALYSIS", "CODELENS_LLM"]
    ++ AnalysisSettings.keys.map (fun key => "CODELENS_ANALYSIS_" ++ key.toUpper)
    ++ ModelSettings.keys.map fun key => "CODELENS_LLM_" ++ key.toUpper

/-- The variables that are set. -/
def readVariables : IO (List (String × String)) :=
  variableNames.filterMapM fun name => do
    return (← IO.getEnv name).map fun value => (name, value)

/-- What a path leads to. -/
def readEntry (path : String) : IO Entry := do
  try
    let bytes ← IO.FS.readBinFile path
    return .file (bytes.toList.map UInt8.toNat)
  catch
    | .inappropriateType _ code _ => return if code = 21 then .folder else .blocked
    | _ => return .missing

/-- The text in front of the last slash of a path. -/
def folderOf (path : String) : String :=
  match Text.cutAtLast? '/' path.toList with
  | some (folder, _) => String.ofList folder
  | none => ""

/-- Writes a file and the folders above it. -/
def writeEntry (path content : String) : IO Unit := do
  let folder := folderOf path
  if !folder.isEmpty then IO.FS.createDirAll folder
  IO.FS.writeFile path content

/-- Runs a command and prints what it leaves behind. -/
def perform (invocation : Invocation) : IO UInt32 := do
  let environment ← readVariables
  let blind : Command.World := ⟨fun _ => .missing, environment, fun _ => .unanswered⟩
  let entries ← (Command.paths blind invocation.command).mapM fun path =>
    return (path, ← readEntry path)
  let world := { blind with entry := fun path => (entries.lookup path).getD .missing }
  let outcome := Command.run world invocation.command
  for line in outcome.log do
    if invocation.shows line.level then IO.eprintln line.text
  for (path, content) in outcome.writes do
    writeEntry path content
  IO.print outcome.output
  IO.eprint outcome.complaint
  return if outcome.failed then 1 else 0

/-- How the program is called. -/
def usage : String := "Usage: codelens [--verbose] [-q] <analyze|translate|check|config> ...\n"

end SourceOutline.Main

/-- The program. -/
def main (arguments : List String) : IO UInt32 := do
  match SourceOutline.Command.parse arguments with
  | .ok invocation => SourceOutline.Main.perform invocation
  | .error .version => IO.print SourceOutline.Command.versionText; return 0
  | .error .help => IO.print SourceOutline.Main.usage; return 0
  | .error .invalid => IO.eprint SourceOutline.Main.usage; return 2
