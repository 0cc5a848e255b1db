/-!
# Log lines

Work that reports what it does returns its log beside its result.
-/

namespace SourceOutline

/-- How important a line is. -/
inductive LogLevel where
  | debug
  | info
  | warn
  deriving DecidableEq, Repr

/-- The word in front of a line. -/
def LogLevel.label : LogLevel → String
  | debug => "DEBUG"
  | info => "INFO"
  | warn => "WARN"

/-- One line of a log. -/
structure LogLine where
  /-- How important it is. -/
  level : LogLevel
  /-- What it says. -/
  message : String
  deriving DecidableEq, Repr

/-- The level and the message. -/
def LogLine.text (line : LogLine) : String := line.level.label ++ " " ++ line.message

/-- Lines in the order in which they were written. -/
abbrev Log := List LogLine

namespace Log

/-- One line for developers. -/
def debug (message : String) : Log := [⟨.debug, message⟩]

/-- One line for users. -/
def info (message : String) : Log := [⟨.info, message⟩]

/-- One line of warning. -/
def warn (message : String) : Log := [⟨.warn, message⟩]

end Log

end SourceOutline
