import SourceOutline.Pattern.Basic

/-!
# Searching a text for a pattern

A search reports the match that starts first, and among those of one start the one whose
choices are preferred. The search reads the text once per start: it keeps the ways in
which the pattern can go on, best first, and drops a way that repeats a better one.
-/

namespace SourceOutline.Pattern

/-- The characters around a position. -/
structure Site where
  /-- The character in front. -/
  before : Option Char
  /-- The character behind. -/
  after : Option Char

/-- One way to go on from a position: end here, or read a character of a class and then
match what is left to do. -/
inductive Move where
  | stop
  | take (cls : CharClass) (todo : List Pattern)

/-- A move with the name edges passed on the way to it. -/
structure Step where
  /-- Edges passed, in order. -/
  edges : List Edge
  /-- What happens then. -/
  move : Move

namespace Site

/-- A word character stands on exactly one side. -/
def atWordEdge (site : Site) : Bool :=
  (site.before.any Text.isWordChar) != (site.after.any Text.isWordChar)

end Site

/-- The ways through an empty text: one if the condition holds, else none. -/
def passIf (condition : Bool) : List Step := if condition then [⟨[], .stop⟩] else []

/-- Goes on with what follows: steps that stop take the steps of the rest, and steps that
read a character have the rest to do behind their own. -/
def Step.andThen (rest : List Step) (pending : List Pattern) (step : Step) : List Step :=
  match step.move with
  | .stop => rest.map fun next => { next with edges := step.edges ++ next.edges }
  | .take cls todo => [{ step with move := .take cls (todo ++ pending) }]

/-- The ways into a pattern, best first. A round of a repetition reads something. -/
def steps (site : Site) : Pattern → List Step
  | empty => [⟨[], .stop⟩]
  | one cls => [⟨[], .take cls []⟩]
  | seq front back => (steps site front).flatMap (Step.andThen (steps site back) [back])
  | alt preferred other => steps site preferred ++ steps site other
  | star round => (steps site round).flatMap (Step.andThen [] [star round]) ++ [⟨[], .stop⟩]
  | mark edge => [⟨[edge], .stop⟩]
  | textStart => passIf site.before.isNone
  | textEnd => passIf site.after.isNone
  | lineStart => passIf (site.before.all (· == '\n'))
  | lineEnd => passIf (site.after.all (· == '\n'))
  | wordEdge => passIf site.atWordEdge

/-- The ways into a list of patterns to be matched one after the other. -/
def stepsOfList (site : Site) : List Pattern → List Step
  | [] => [⟨[], .stop⟩]
  | p :: ps => (steps site p).flatMap (Step.andThen (stepsOfList site ps) ps)

/-- The positions of the name edges passed so far. -/
structure Capture where
  /-- Where the name starts. -/
  first : Option Nat := none
  /-- Where the name ends. -/
  last : Option Nat := none
  deriving DecidableEq, Repr

/-- Notes the edges at a position. -/
def Capture.note (position : Nat) (capture : Capture) (edges : List Edge) : Capture :=
  edges.foldl (fun capture edge =>
    match edge with
    | .first => { capture with first := some position }
    | .last => { capture with last := some position }) capture

/-- One way in which the match can go on. -/
structure Thread where
  /-- What is left to match. -/
  todo : List Pattern
  /-- The name edges passed. -/
  capture : Capture
  deriving DecidableEq

/-- The ways of one thread that read a character, up to the first that ends here, and the
capture of the one that ends here. -/
def Thread.cut (thread : Thread) (position : Nat) :
    List Step → List (CharClass × Thread) × Option Capture
  | [] => ([], none)
  | step :: more =>
    let capture := thread.capture.note position step.edges
    match step.move with
    | .stop => ([], some capture)
    | .take cls todo =>
      let (ways, found) := thread.cut position more
      ((cls, ⟨todo, capture⟩) :: ways, found)

/-- The threads that read a character, in order of preference, and the capture of the best
match that ends here. Threads behind one that ends here are worse and are dropped. -/
def branch (site : Site) (position : Nat) :
    List Thread → List (CharClass × Thread) × Option Capture
  | [] => ([], none)
  | thread :: others =>
    match thread.cut position (stepsOfList site thread.todo) with
    | (ways, some capture) => (ways, some capture)
    | (ways, none) =>
      let (others, found) := branch site position others
      (ways ++ others, found)

/-- Keeps the best of the threads that have the same left to match. -/
def distinct (threads : List Thread) : List Thread :=
  threads.foldr (fun thread kept => thread :: kept.filter (·.todo != thread.todo)) []

/-- Reads on from a position with the threads given. The result is the capture of the best
match, with `best` for the best one found so far. -/
def follow (before : Option Char) (position : Nat) (threads : List Thread)
    (best : Option Capture) : List Char → Option Capture
  | [] =>
    ((branch ⟨before, none⟩ position threads).2).or best
  | c :: rest =>
    let (ways, found) := branch ⟨before, some c⟩ position threads
    let best := found.or best
    let threads := distinct (ways.filterMap fun (cls, thread) =>
      if cls.holds c then some thread else none)
    if threads.isEmpty then best else follow (some c) (position + 1) threads best rest

/-- The capture of the best match that starts here. -/
def matchHere (pattern : Pattern) (before : Option Char) (position : Nat) (text : List Char) :
    Option Capture :=
  follow before position [⟨[pattern], {}⟩] none text

/-- A match can only start where the text does. -/
def isAnchored : Pattern → Bool
  | textStart => true
  | seq front _ => isAnchored front
  | _ => false

/-- The capture of the match that starts first, from a position on. -/
def searchFrom (pattern : Pattern) (before : Option Char) (position : Nat) :
    List Char → Option Capture
  | [] => matchHere pattern before position []
  | c :: rest =>
    match matchHere pattern before position (c :: rest) with
    | some capture => some capture
    | none => searchFrom pattern (some c) (position + 1) rest

/-- The capture of the match that starts first. -/
def search (pattern : Pattern) (text : List Char) : Option Capture :=
  if pattern.isAnchored then matchHere pattern none 0 text
  else searchFrom pattern none 0 text

/-- The pattern matches somewhere in the text. -/
def isMatch (pattern : Pattern) (text : List Char) : Bool := (search pattern text).isSome

/-- A name found in a text, with what stands before and behind it. -/
structure Found where
  /-- The text in front of the name. -/
  before : List Char
  /-- The name. -/
  name : List Char
  /-- The text behind the name. -/
  after : List Char
  deriving DecidableEq, Repr

/-- The name that the pattern reports in the text. -/
def find? (pattern : Pattern) (text : List Char) : Option Found :=
  match search pattern text with
  | some ⟨some first, some last⟩ =>
    let name := (text.drop first).take (last - first)
    some ⟨text.take first, name, text.drop (first + (last - first))⟩
  | _ => none

end SourceOutline.Pattern
