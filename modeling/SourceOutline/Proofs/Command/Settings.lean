import SourceOutline.Command.Run
import SourceOutline.Proofs.Settings.Layers

/-!
# Settings in use

What a command does with settings is done by a few tools: snapshots, providers and assistants. They
see valid settings only, since exchanging them for others that differ on settings that break a rule
changes no outcome.
-/

namespace SourceOutline.Command

/-- What settings are used for. -/
structure Tools where
  /-- Takes the snapshot of a file. -/
  snapshot : Settings → Option Language → String → Except Failure Snapshot × Log
  /-- Finds the provider. -/
  provider : Settings → Except Failure Provider × Log
  /-- Finds the assistant. -/
  assistant : Settings → Except Failure Assistant × Log

/-- The tools of the commands. -/
def World.tools (world : World) : Tools :=
  ⟨takeSnapshot world, provider world, assistant world⟩

/-- Runs a command with the given tools. -/
def runWith (tools : Tools) (world : World) : Command → Outcome
  | analyze request =>
    proceed (settings world) fun settings =>
      proceed (settings.withWindow request.window, []) fun settings =>
        proceed (tools.snapshot settings request.language request.file) fun snapshot =>
          if request.assisted then
            proceed (tools.assistant settings) fun assistant =>
              let answers := assistant.enhance snapshot
              (report request answers.value).after answers.log
          else report request ⟨snapshot, []⟩
  | convert request =>
    proceed (settings world) fun settings =>
      proceed (tools.snapshot settings request.language request.file) fun snapshot =>
        match snapshot.function? request.function with
        | none =>
          let outcome := Outcome.failure (.noFunction request.function)
          { outcome with complaint := availableFunctions snapshot ++ outcome.complaint }
        | some record =>
          proceed (tools.assistant settings) fun assistant =>
            let answer :=
              assistant.convertedText record.sourceSlice snapshot.language request.target
            (Outcome.result (answer.value ++ "\n")).after answer.log
  | check =>
    proceed (settings world) fun settings =>
      proceed (tools.provider settings) fun provider =>
        let name := provider.service.name
        let region :=
          if provider.service = .bedrock then Report.field "Region" settings.model.region else ""
        let shown :=
          Report.title "Provider check" ++ Report.field "Provider" name
            ++ Report.field "Model" provider.model ++ region
        let (healthy, log) := provider.check world.send
        if healthy then
          { output := shown ++ "✓ " ++ name ++ " is reachable\n", log }
        else
          { output := shown
            complaint := "⚠ " ++ name
              ++ " did not answer the health check; see the log with --verbose\n"
            log }
  | command => run world command

/-- Commands run with their own tools. -/
theorem runWith_tools (world : World) (command : Command) :
    runWith world.tools world command = run world command := by
  cases command <;> rfl

/-- The tools do the same with the settings. -/
structure Tools.AgreeOn (settings : Settings) (tools others : Tools) : Prop where
  /-- Snapshots are the same. -/
  snapshot : tools.snapshot settings = others.snapshot settings
  /-- Providers are the same. -/
  provider : tools.provider settings = others.provider settings
  /-- Assistants are the same. -/
  assistant : tools.assistant settings = others.assistant settings

/-- What comes next matters only for the value that there is. -/
theorem proceed_congr {α : Type} {found : Except Failure α × Log} {next other : α → Outcome}
    (same : ∀ value, found.1 = .ok value → next value = other value) :
    proceed found next = proceed found other := by
  obtain ⟨result, log⟩ := found
  cases result with
  | error failure => rfl
  | ok value => exact congrArg (Outcome.after log) (same value rfl)

/-- The settings in force are valid. -/
theorem fault?_of_settings {world : World} {inForce : Settings}
    (loaded : (settings world).1 = .ok inForce) : inForce.fault? = none :=
  Settings.fault?_of_load loaded

/-- Tools that do the same with valid settings are as good as each other. -/
theorem runWith_congr {tools others : Tools}
    (same : ∀ inForce : Settings, inForce.fault? = none → tools.AgreeOn inForce others)
    (world : World) (command : Command) :
    runWith tools world command = runWith others world command := by
  cases command with
  | analyze request =>
    apply proceed_congr
    intro loaded found
    apply proceed_congr
    intro inForce windowed
    have valid := Settings.fault?_of_withWindow (fault?_of_settings found) windowed
    rw [(same inForce valid).snapshot, (same inForce valid).assistant]
  | convert request =>
    apply proceed_congr
    intro inForce found
    have valid := fault?_of_settings found
    rw [(same inForce valid).snapshot, (same inForce valid).assistant]
  | check =>
    apply proceed_congr
    intro inForce found
    rw [(same inForce (fault?_of_settings found)).provider]
  | _ => rfl

end SourceOutline.Command

namespace SourceOutline.Settings

open Command

/-- Files and variables that assign values of the right kind to any fields are loaded exactly when
the settings that they make together are valid. Every field then has the value of the highest layer
that sets it, whatever the layers say about the others: the environment, the project, all projects,
the default. In the name of a variable only the first underscore separates the section from the key,
and every field has such a variable. A window given later is taken exactly when it is not empty, and
changes nothing else. So whatever a command uses settings for, it uses valid ones. -/
theorem load_takes_highest_layers (everywhere here : Option File)
    (environment : List (String × String))
    (files : ∀ file ∈ everywhere.toList ++ here.toList, file.WellTyped)
    (assigned : ∀ layer ∈ Environment.layers environment, WellTyped layer) :
    let loaded := (load (everywhere.toList ++ here.toList) environment).1
    let chosen := fun field : Field =>
      (highest? everywhere here environment field).getD (field.get {})
    ((∃ settings, loaded = .ok settings) ↔ (ofFields chosen).fault? = none) ∧
    (∀ settings, loaded = .ok settings →
      (∀ field : Field, field.get settings = chosen field) ∧
      ∀ window result, settings.withWindow (some window) = .ok result ↔
        0 < window ∧ result = { settings with analysis.window := window }) ∧
    (∀ group key : List Char, Environment.IsPart group → '_' ∉ group → Environment.IsPart key →
      Environment.path? (String.ofList (Environment.namePrefix ++ (group ++ '_' :: key))) =
        some [String.ofList (Text.lowerAscii group), String.ofList (Text.lowerAscii key)]) ∧
    (∀ (field : Field) (text : String),
      (Environment.layers [(field.variable, text)]).map field.value? =
        [field.read (Environment.value text)]) ∧
    ∀ (world : World) (command : Command) (tools : Tools),
      (∀ settings : Settings, settings.fault? = none → tools.AgreeOn settings world.tools) →
        runWith tools world command = run world command := by
  intro loaded chosen
  have same : loaded = (ofFields chosen).validate := load_eq files assigned
  refine ⟨?_, ?_, fun _ _ outer first inner => Environment.path?_eq outer first inner,
    value?_variable, ?_⟩
  · rw [same]
    simp only [validate_eq_ok_iff, exists_and_left, exists_eq, and_true]
  · intro settings ok
    rw [same] at ok
    obtain ⟨valid, rfl⟩ := (validate_eq_ok_iff _ _).mp ok
    exact ⟨get_ofFields chosen, withWindow_eq_ok_iff valid⟩
  · intro world command tools agree
    rw [runWith_congr agree, runWith_tools]

/-- A file for all projects whose window and timeout break rules. -/
def brokenFile : File :=
  ⟨"global", "g.toml", .text ("version = \"2.0\"\n[analysis]\nheuristic_window = 0\n" ++
    "label_param_limit = 5\n[llm]\ntimeout_secs = 0\nregion = \"eu-west-1\"\n")⟩

/-- A file of a project that mends the window. -/
def mendingFile : File :=
  ⟨"project", "p.toml", .text "[analysis]\nheuristic_window = 7\n[llm]\nmodel = \"small\"\n"⟩

/-- A variable that mends the timeout. -/
def mendingVariable : List (String × String) := [("CODELENS_LLM_TIMEOUT_SECS", "9")]

/-- Higher layers mend a lower one and leave the rest of its sections as it is. -/
theorem load_brokenFile :
    let loaded := (load [brokenFile, mendingFile] mendingVariable).1
    ∃ settings, loaded = .ok settings ∧
      settings.withWindow (some 3) = .ok { settings with analysis.window := 3 } ∧
      settings.version = "2.0" ∧ settings.analysis = ⟨7, 1048576, 5⟩ ∧
      settings.model.timeout = 9 ∧ settings.model.region = "eu-west-1" ∧
      settings.model.model = "small" := by
  intro loaded
  obtain ⟨succeeds, gives, _⟩ := load_takes_highest_layers (some brokenFile) (some mendingFile)
    mendingVariable (by decide +kernel) (by decide +kernel)
  obtain ⟨settings, ok⟩ := succeeds.mpr (by decide +kernel)
  obtain ⟨fields, windowed⟩ := gives settings ok
  obtain rfl : settings = ofFields _ := congrArg ofFields (funext fields)
  exact ⟨_, ok, (windowed 3 _).mpr ⟨by decide, rfl⟩, by decide +kernel⟩

end SourceOutline.Settings
