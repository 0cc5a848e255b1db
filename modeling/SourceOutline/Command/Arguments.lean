/-!
# Arguments of a command line

Arguments are read from left to right. Each level of a command has switches, options with
a value, and either words or commands of its own. The first argument that does not fit
decides: a request for help or the version wins only over what stands behind it.
-/

namespace SourceOutline.Arguments

/-- A switch or option: its long name, and perhaps a letter. -/
structure Name where
  /-- Behind two hyphens. -/
  long : String
  /-- Behind one hyphen. -/
  letter : Option Char := none
  deriving DecidableEq, Repr

/-- An option and the values that it takes. -/
structure OptionRule where
  /-- The name. -/
  name : Name
  /-- The value is taken. -/
  accepts : String → Bool

/-- What may stand at a level. -/
structure Level where
  /-- Names without a value. -/
  switches : List Name
  /-- Names with a value. -/
  options : List OptionRule
  /-- How many words may stand there. -/
  words : Nat
  /-- The version can be asked for. -/
  hasVersion : Bool

/-- Why no command is run. -/
inductive Stop where
  /-- The arguments do not fit. -/
  | invalid
  /-- Help is asked for. -/
  | help
  /-- The version is asked for. -/
  | version
  deriving DecidableEq, Repr

/-- What the arguments at a level say. -/
structure Reading where
  /-- Switches, by their long names. -/
  switches : List String := []
  /-- Options, by their long names, and their values. -/
  values : List (String × String) := []
  /-- Words in order. -/
  words : List String := []
  /-- The option that still needs its value. -/
  pending : Option OptionRule := none
  /-- Nothing behind is a switch or option. -/
  plain : Bool := false

namespace Reading

/-- The switch is there. -/
def has (reading : Reading) (switch : String) : Bool := reading.switches.contains switch

/-- The value of an option. -/
def value? (reading : Reading) (option : String) : Option String := reading.values.lookup option

/-- A switch that stands there for the first time. -/
def addSwitch (reading : Reading) (name : Name) : Except Stop Reading :=
  if reading.has name.long then .error .invalid
  else .ok { reading with switches := reading.switches ++ [name.long] }

/-- The value of an option that stands there for the first time. -/
def addValue (reading : Reading) (rule : OptionRule) (value : String) : Except Stop Reading :=
  if (reading.value? rule.name.long).isSome || !rule.accepts value then .error .invalid
  else
    .ok { reading with
      values := reading.values ++ [(rule.name.long, value)]
      pending := none }

/-- A word, which is not empty. -/
def addWord (level : Level) (reading : Reading) (word : String) : Except Stop Reading :=
  if level.words ≤ reading.words.length || word.isEmpty then .error .invalid
  else .ok { reading with words := reading.words ++ [word] }

/-- A name behind two hyphens, and a value behind an equals sign. -/
def addLong (level : Level) (reading : Reading) (name : String) (value? : Option String) :
    Except Stop Reading :=
  let option? := level.options.find? (·.name.long == name)
  let switch? := level.switches.find? (·.long == name)
  match option?, switch?, value? with
  | some rule, _, some value => reading.addValue rule value
  | some rule, _, none => .ok { reading with pending := some rule }
  | none, some switch, none => reading.addSwitch switch
  | none, none, none =>
    if name == "help" then .error .help
    else if name == "version" && level.hasVersion then .error .version
    else .error .invalid
  | none, _, some _ => .error .invalid

/-- Letters behind one hyphen. The rest behind the letter of an option is its value, with
or without an equals sign. -/
def addLetters (level : Level) (reading : Reading) : List Char → Except Stop Reading
  | [] => .ok reading
  | letter :: rest =>
    match level.options.find? (·.name.letter == some letter),
      level.switches.find? (·.letter == some letter) with
    | some rule, _ =>
      match rest with
      | [] => .ok { reading with pending := some rule }
      | '=' :: value => reading.addValue rule (String.ofList value)
      | value => reading.addValue rule (String.ofList value)
    | none, some switch =>
      match reading.addSwitch switch with
      | .ok reading => addLetters level reading rest
      | .error stop => .error stop
    | none, none =>
      if letter == 'h' then .error .help
      else if letter == 'V' && level.hasVersion then .error .version
      else .error .invalid

/-- The part in front of an equals sign, and the part behind it. -/
def splitValue (text : List Char) : String × Option String :=
  let name := text.takeWhile (· != '=')
  match text.drop name.length with
  | [] => (String.ofList name, none)
  | _ :: value => (String.ofList name, some (String.ofList value))

end Reading

/-- The argument is a switch or option, and no word or value. -/
def isMarked (argument : String) : Bool :=
  match argument.toList with
  | '-' :: _ :: _ => true
  | _ => false

/-- One more argument. -/
def step (level : Level) (reading : Reading) (argument : String) : Except Stop Reading :=
  match reading.pending with
  | some rule => if isMarked argument then .error .invalid else reading.addValue rule argument
  | none =>
    if reading.plain then reading.addWord level argument
    else
      match argument.toList with
      | ['-', '-'] => .ok { reading with plain := true }
      | '-' :: '-' :: rest =>
        let (name, value?) := Reading.splitValue rest
        reading.addLong level name value?
      | '-' :: letter :: rest => reading.addLetters level (letter :: rest)
      | _ => reading.addWord level argument

/-- All arguments have what they need. -/
def finish (reading : Reading) : Except Stop Reading :=
  if reading.pending.isSome then .error .invalid else .ok reading

/-- Reads all arguments of a level without commands. -/
def readAll (level : Level) (arguments : List String) : Except Stop Reading := do
  finish (← arguments.foldlM (step level) {})

/-- Reads arguments up to the first word, which is a command, and gives the command with
the arguments behind it. -/
def readCommand (level : Level) :
    Reading → List String → Except Stop (Reading × String × List String)
  | _, [] => .error .invalid
  | reading, argument :: rest =>
    if reading.pending.isNone && !reading.plain && !isMarked argument then
      .ok (reading, argument, rest)
    else
      match step level reading argument with
      | .ok reading => readCommand level reading rest
      | .error stop => .error stop

end SourceOutline.Arguments
