import SourceOutline.Text.Search

/-!
# Prompts

A prompt is a list of sections with blank lines between them; facts that follow each other
share a block. Code stands in a prompt as it is written.
-/

namespace SourceOutline

open Text

namespace Prompt

/-- One section of a prompt. -/
inductive Section where
  /-- Instructions. -/
  | text (content : String)
  /-- A labelled fact on one line. -/
  | fact (label value : String)
  /-- Code without a fence. -/
  | code (content : String)
  deriving DecidableEq, Repr

/-- The section is a fact. -/
def Section.isFact : Section → Bool
  | fact _ _ => true
  | _ => false

/-- The section without blanks, or line feeds behind code, at its end. -/
def Section.render : Section → List Char
  | text content => trimEnd content.toList
  | fact label value => label.toList ++ ':' :: ' ' :: value.toList
  | code content => dropWhileEnd (· == '\n') content.toList

/-- What stands between a section and the text in front of it. -/
def separator (afterFact isFact : Bool) : List Char :=
  if afterFact && isFact then ['\n'] else ['\n', '\n']

/-- Appends sections to a prompt. Nothing separates a section from an empty prompt. -/
def append (prompt : List Char) (afterFact : Bool) : List Section → List Char
  | [] => prompt
  | next :: rest =>
    let gap := if prompt.isEmpty then [] else separator afterFact next.isFact
    append (prompt ++ gap ++ next.render) next.isFact rest

/-- The prompt made of sections. -/
def build (sections : List Section) : String := String.ofList (append [] false sections)

/-- Asks for one sentence about a function. -/
def summary (name language code : String) : String :=
  build
    [.text ("Describe what a function named '" ++ name ++ "' likely does in 1 sentence."),
      .fact "Language" language, .code code]

/-- Asks for a function in another language. -/
def conversion (source target code : String) : String :=
  build
    [.text ("Convert this " ++ source ++ " function to " ++ target ++
        ". Keep the same logic and functionality:"),
      .code code, .text "Provide only the converted code without explanations."]

end Prompt

/-- The mark of a code fence. -/
def fenceMark : List Char := ['`', '`', '`']

/-- The text without line feeds on both sides. -/
def trimLineFeeds (text : List Char) : List Char :=
  dropWhileEnd (· == '\n') (text.dropWhile (· == '\n'))

/-- What stands inside a fence: the lines behind the first, or all of a single line. -/
def fencedCode (body : List Char) : List Char :=
  match cutAt? ['\n'] body with
  | some (_, code) => trimLineFeeds code
  | none => trim body

/-- The text without blanks around it and without a code fence around that. -/
def stripFence (output : List Char) : List Char :=
  let trimmed := trim output
  if fenceMark.isPrefixOf trimmed then
    match dropEnding? fenceMark (trimmed.drop fenceMark.length) with
    | some body => fencedCode body
    | none => trimmed
  else trimmed

end SourceOutline
