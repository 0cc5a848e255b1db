import SourceOutline.Model.Completion
import SourceOutline.Prompt
import SourceOutline.Snapshot.Basic

/-!
# The assistant

An assistant writes summaries of functions and converts functions into other languages.
What goes wrong for one function is told for it and leaves the others alone.
-/

namespace SourceOutline

/-- An assistant that asks a model. -/
structure Assistant where
  /-- The name of the provider. -/
  name : String
  /-- The answer of the model, and what is logged about it. -/
  ask : Question → Except Failure String × Log
  /-- The length of a summary at most. -/
  summaryTokens : Nat
  /-- The length of a converted function at most. -/
  conversionTokens : Nat

/-- A result with the questions that led to it. -/
structure Consulted (α : Type) where
  /-- The result. -/
  value : α
  /-- The questions in the order in which they were put. -/
  questions : List Question
  /-- The log. -/
  log : Log

/-- A function without a written summary, and why. -/
structure SummaryFailure where
  /-- The name of the function. -/
  function : String
  /-- What went wrong. -/
  message : String
  deriving DecidableEq, Repr

/-- A snapshot with written summaries. -/
structure Enhancement where
  /-- The snapshot. -/
  snapshot : Snapshot
  /-- The functions that have none, in source order. -/
  failures : List SummaryFailure
  deriving DecidableEq, Repr

namespace Assistant

/-- An assistant that asks a provider. -/
def ofProvider (provider : Provider) (send : Request → Delivery) (settings : ModelSettings) :
    Assistant :=
  { name := provider.service.name
    ask := provider.ask send
    summaryTokens := settings.summaryTokens
    conversionTokens := settings.conversionTokens }

/-- The question about what a function does. -/
def summaryQuestion (assistant : Assistant) (name code : String) (language : Language) : Question :=
  ⟨Prompt.summary name language.displayName code, assistant.summaryTokens⟩

/-- The first line of an answer. -/
def firstLine (answer : String) : String :=
  String.ofList (Text.trim ((Text.textLines answer.toList).headD []))

/-- One sentence about a function. -/
def summarize (assistant : Assistant) (name code : String) (language : Language) :
    Consulted (Except Failure String) :=
  let question := assistant.summaryQuestion name code language
  let (answer, log) := assistant.ask question
  ⟨answer.map firstLine, [question], log⟩

/-- A function in another language. -/
def convert (assistant : Assistant) (code : String) (source : Language) (target : String) :
    Consulted (Except Failure String) :=
  let question : Question :=
    ⟨Prompt.conversion source.displayName target code, assistant.conversionTokens⟩
  let (answer, log) := assistant.ask question
  ⟨answer.map fun text => String.ofList (stripFence text.toList), [question],
    Log.info ("Translating " ++ source.displayName ++ " function to " ++ target ++ " via "
      ++ assistant.name) ++ log⟩

/-- What is shown in place of a converted function. -/
def convertedText (assistant : Assistant) (code : String) (source : Language) (target : String) :
    Consulted String :=
  let answer := assistant.convert code source target
  ⟨match answer.value with
    | .ok text => text
    | .error failure => failure.tagged,
    answer.questions, answer.log⟩

/-- A function with the answer about it: a new summary, or what went wrong. -/
def applyAnswer (record : FunctionRecord) :
    Except Failure String → FunctionRecord × Option SummaryFailure
  | .ok summary =>
    if summary.isEmpty then (record, some ⟨record.name, "MODEL_ERROR: empty summary"⟩)
    else ({ record with summary := summary, summarySource := .generated }, none)
  | .error failure => (record, some ⟨record.name, failure.tagged⟩)

/-- The functions with written summaries in place of those made from parameters. -/
def enhanceRecords (assistant : Assistant) (language : Language) :
    List FunctionRecord → Consulted (List FunctionRecord × List SummaryFailure)
  | [] => ⟨([], []), [], []⟩
  | record :: rest =>
    let others := enhanceRecords assistant language rest
    if record.isSynthesized then
      let answer := assistant.summarize record.name record.sourceSlice language
      let (record, failure?) := applyAnswer record answer.value
      ⟨(record :: others.value.1, failure?.toList ++ others.value.2),
        answer.questions ++ others.questions, answer.log ++ others.log⟩
    else { others with value := (record :: others.value.1, others.value.2) }

/-- A snapshot with written summaries in place of those made from parameters. -/
def enhance (assistant : Assistant) (snapshot : Snapshot) : Consulted Enhancement :=
  let answers := assistant.enhanceRecords snapshot.language snapshot.functions
  ⟨⟨{ snapshot with functions := answers.value.1 }, answers.value.2⟩, answers.questions,
    Log.debug ("Enhancing " ++ Nat.repr snapshot.pending.length ++ " of "
      ++ Nat.repr snapshot.functions.length ++ " function summaries") ++ answers.log⟩

end Assistant

end SourceOutline
