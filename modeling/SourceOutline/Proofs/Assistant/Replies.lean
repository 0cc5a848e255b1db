import SourceOutline.Proofs.Assistant.Rounds
import SourceOutline.Proofs.Json.Writing
import SourceOutline.Proofs.Model.Completion
import SourceOutline.Proofs.Prompt.Fence

/-!
# What an assistant makes of replies

The answer of a provider is trimmed and not empty. A summary is its first line, and the first line
of such a text is never blank, so no summary is empty, whatever the replies hold. A converted
function is the answer without the fence around it. Here blanks may be all that is left, but only of
a fence with nothing inside.
-/

namespace SourceOutline

open Text

/-! ## Answers of providers -/

namespace Provider

variable {provider : Provider} {send : Request → Delivery} {question : Question}

/-- A question comes to a fault of the network or to what is read in a reply. -/
theorem ask_cases (provider : Provider) (send : Request → Delivery) (question : Question) :
    (∃ message, (provider.ask send question).1 =
      .error (.request ⟨.network, message, some provider.service.name⟩)) ∨
    ∃ reply, (provider.ask send question).1 =
      (provider.service.readReply reply).1.mapError .request := by
  simp only [ask]
  split
  · exact .inl ⟨_, rfl⟩
  · split
    · exact .inl ⟨_, rfl⟩
    next reply _ => exact .inr ⟨reply, rfl⟩

/-- An answer is trimmed and not empty. -/
theorem trimmed_of_ask {text : String} (answered : (provider.ask send question).1 = .ok text) :
    trim text.toList = text.toList ∧ isBlankText text.toList = false := by
  rcases provider.ask_cases send question with ⟨message, failed⟩ | ⟨reply, read⟩
  · rw [failed] at answered
    contradiction
  · rw [read] at answered
    have holds := ((provider.service.reads_readReply reply).answer text).mp answered
    obtain ⟨_, json, first, _, _, notBlank, trims⟩ := holds
    rw [(trims_iff _ _).mp trims, trim_trim, isBlankText_trim]
    exact ⟨rfl, notBlank⟩

/-- What goes wrong is told as a failed request to the service. -/
theorem request_of_ask {failure : Failure}
    (failed : (provider.ask send question).1 = .error failure) :
    ∃ fault message, failure = .request ⟨fault, message, some provider.service.name⟩ := by
  rcases provider.ask_cases send question with ⟨message, unread⟩ | ⟨reply, read⟩
  · cases unread.symm.trans failed
    exact ⟨_, _, rfl⟩
  · rw [read] at failed
    cases answer : (provider.service.readReply reply).1 with
    | ok text =>
      rw [answer] at failed
      contradiction
    | error refusal =>
      rw [answer] at failed
      cases failed
      by_cases success : reply.isSuccess = true
      · obtain ⟨message, rfl⟩ := Service.readReply_eq_error success answer
        exact ⟨_, _, rfl⟩
      · obtain ⟨message, refused⟩ :=
          provider.service.readReply_of_refused (by simpa using success)
        cases answer.symm.trans refused
        exact ⟨_, _, rfl⟩

end Provider

/-- What is taken from an answer is there if the answer is. -/
theorem map_eq_ok_iff {answer : Except Failure String} {take : String → String} {taken : String} :
    answer.map take = .ok taken ↔ ∃ text, answer = .ok text ∧ take text = taken := by
  cases answer <;> simp [Except.map]

/-- A failure is passed on. -/
theorem map_eq_error_iff {answer : Except Failure String} {take : String → String}
    {failure : Failure} : answer.map take = .error failure ↔ answer = .error failure := by
  cases answer <;> simp [Except.map]

/-- A failed request to a service is not told as an empty summary. -/
theorem tagged_request_ne (fault : RequestFault) (message : String) (service : Service) :
    (Failure.request ⟨fault, message, some service.name⟩).tagged ≠
      "MODEL_ERROR: empty summary" := by
  obtain ⟨_, _, message, told⟩ := Failure.isTold_request fault message service
  rw [told]
  intro same
  have texts := congrArg String.toList same
  cases tag : fault.tag <;> simp [tag, FailureTag.text] at texts

/-! ## Replies with a text -/

namespace Service

/-- A reply of a service with a text and nothing else. -/
def replyWith (service : Service) (text : String) : Reply :=
  let body : Json := match service with
    | .bedrock => .object [("results", .array [.object [("outputText", .string text)]])]
    | .openai =>
      .object [("choices", .array [.object [("message", .object [("content", .string text)])]])]
    | .ollama => .object [("response", .string text)]
  ⟨200, body.compact⟩

/-- The reply holds its text without the blanks around it. -/
theorem holds_replyWith (service : Service) {text trimmed : String}
    (filled : isBlankText text.toList = false) (trims : Trims text.toList trimmed.toList) :
    service.Holds (service.replyWith text).body trimmed := by
  have plainText := Json.Plain.string text
  have record (key : String) {value : Json} (plain : Json.Plain value) :
      Json.Plain (.object [(key, value)]) := .object (by simpa using plain)
  have list {item : Json} (plain : Json.Plain item) : Json.Plain (.array [item]) :=
    .array (by simpa using plain)
  have reads {body : Json} (plain : Json.Plain body) : Json.IsText body.compact.toList body :=
    (Json.parse?_eq_some_iff _ _).mp plain.parse?_compact
  cases service with
  | bedrock =>
    exact ⟨_, text, reads (record _ (list (record _ plainText))),
      .results (.member rfl) (.cons (.given (.member rfl)) .nil), filled, trims⟩
  | openai =>
    exact ⟨_, text, reads (record _ (list (record _ (record _ plainText)))),
      .choices (.member rfl) (.cons (.given (.member rfl) (.member rfl)) .nil), filled, trims⟩
  | ollama =>
    exact ⟨_, text, reads (record _ plainText), .response (.member rfl), filled, trims⟩

/-- A provider of the service on this machine. -/
def nearby (service : Service) : Provider := { Provider.nearby with service }

/-- Every question to it is sent. -/
theorem exists_questionRequest_nearby (service : Service) (question : Question) :
    ∃ request, service.nearby.questionRequest question = .ok request := by
  have reachable : (Request.target service.nearby.questionAddress).isOk = true := by
    cases service <;> decide +kernel
  exact Provider.exists_questionRequest rfl reachable question

end Service

/-! ## First lines -/

/-- The second text is the first line of the first text, without the blanks around it. -/
def IsFirstLine (text line : List Char) : Prop :=
  ∃ first rest, text = first ++ rest ∧ '\n' ∉ first ∧ (rest = [] ∨ rest.head? = some '\n') ∧
    Trims first line

/-- Every text has a first line. -/
theorem exists_first_line (text : List Char) :
    ∃ first rest, text = first ++ rest ∧ '\n' ∉ first ∧ (rest = [] ∨ rest.head? = some '\n') := by
  by_cases feed : '\n' ∈ text
  · obtain ⟨first, rest, rfl, noFeed⟩ := List.eq_append_cons_of_mem feed
    exact ⟨first, '\n' :: rest, rfl, noFeed, .inr rfl⟩
  · exact ⟨text, [], by simp, feed, .inl rfl⟩

/-- The first of the terminated lines is the first line, but for a carriage return at its end. -/
theorem trim_headD_textLines {first rest : List Char} (noFeed : '\n' ∉ first)
    (ends : rest = [] ∨ rest.head? = some '\n') :
    trim ((textLines (first ++ rest)).headD []) = trim first := by
  cases rest with
  | nil =>
    rw [List.append_nil, textLines, splitLines, List.splitOn_eq_singleton noFeed, terminatedLines]
    cases first <;> rfl
  | cons feed behind =>
    obtain rfl : feed = '\n' := by simpa using ends
    obtain ⟨line, lines, more⟩ := List.exists_cons_of_ne_nil (List.splitOn_ne_nil '\n' behind)
    rw [textLines, splitLines, List.splitOn_append_cons_self_of_not_mem noFeed, more,
      terminatedLines, List.headD_cons, trim_dropReturn]
    simp

namespace Assistant

/-- What is taken from an answer is its first line. -/
theorem firstLine_eq_iff (answer line : String) :
    firstLine answer = line ↔ IsFirstLine answer.toList line.toList := by
  have taken {first rest : List Char} (cut : answer.toList = first ++ rest)
      (noFeed : '\n' ∉ first) (ends : rest = [] ∨ rest.head? = some '\n') :
      (firstLine answer).toList = trim first := by
    rw [firstLine, String.toList_ofList, cut, trim_headD_textLines noFeed ends]
  constructor
  · rintro rfl
    obtain ⟨first, rest, cut, noFeed, ends⟩ := exists_first_line answer.toList
    refine ⟨first, rest, cut, noFeed, ends, ?_⟩
    rw [trims_iff]
    exact taken cut noFeed ends
  · rintro ⟨first, rest, cut, noFeed, ends, trims⟩
    rw [← String.toList_inj, taken cut noFeed ends]
    exact ((trims_iff _ _).mp trims).symm

/-- The first line of a trimmed text with any character is not blank. -/
theorem firstLine_ne_empty {answer : String} (trimmed : trim answer.toList = answer.toList)
    (filled : isBlankText answer.toList = false) : firstLine answer ≠ "" := by
  intro empty
  obtain ⟨first, rest, cut, noFeed, ends, trims⟩ := (firstLine_eq_iff answer "").mp empty
  have blank : isBlankText first = true :=
    (trim_eq_nil_iff first).mp ((trims_iff first []).mp trims).symm
  have starts := (trims_trim answer.toList).starts
  rw [trimmed, cut] at starts
  rw [cut] at filled
  cases first with
  | cons c first =>
    -- The line begins as the text does.
    have ink := starts c rfl
    simp [isBlankText, ink] at blank
  | nil =>
    rcases ends with rfl | feed
    · contradiction
    · have ink := starts '\n' feed
      contradiction

/-! ## Summaries -/

section Summaries

variable {provider : Provider} {settings : ModelSettings}

/-- Each answer for a function that needs a summary is what an assistant over the provider says of
the function, whatever was delivered to the question about it. -/
def AnswersBy (provider : Provider) (settings : ModelSettings) (snapshot : Snapshot)
    (answers : Nat → Except Failure String) : Prop :=
  ∀ position record, snapshot.functions[position]? = some record → record.isSynthesized →
    ∃ send, answers position = ((ofProvider provider send settings).summarize record.name
      record.sourceSlice snapshot.language).value

/-- What is said of a function is the first line of the answer to the question about it. -/
theorem summarize_value (assistant : Assistant) (name code : String) (language : Language) :
    (assistant.summarize name code language).value =
      (assistant.ask (assistant.summaryQuestion name code language)).1.map firstLine := rfl

/-- A summary by a provider is not empty. -/
theorem summary_ne_empty {send : Request → Delivery} {name code summary : String}
    {language : Language}
    (said : ((ofProvider provider send settings).summarize name code language).value =
      .ok summary) : summary ≠ "" := by
  rw [summarize_value, map_eq_ok_iff] at said
  obtain ⟨text, asked, rfl⟩ := said
  obtain ⟨trimmed, filled⟩ := Provider.trimmed_of_ask asked
  exact firstLine_ne_empty trimmed filled

/-- No function is told to have an empty summary. -/
theorem message_ne_of_answersBy {snapshot : Snapshot} {answers : Nat → Except Failure String}
    (given : AnswersBy provider settings snapshot answers) :
    ∀ failure ∈ (snapshot.answered answers).failures,
      failure.message ≠ "MODEL_ERROR: empty summary" := by
  intro failure listed
  rw [Snapshot.answered_failures, List.mem_filterMap] at listed
  obtain ⟨position, pending, told⟩ := listed
  obtain ⟨record, found, told⟩ := Option.bind_eq_some_iff.mp told
  have synthesized : record.isSynthesized :=
    (Snapshot.isPending_iff found).mp ((snapshot.mem_pendingPositions position).mp pending)
  obtain ⟨send, same⟩ := given position record found synthesized
  cases answer : answers position with
  | ok summary =>
    rw [answer] at same told
    rw [applyAnswer_ok record (summary_ne_empty same.symm)] at told
    contradiction
  | error failed =>
    have asked := map_eq_error_iff.mp (same.symm.trans answer)
    obtain ⟨fault, message, rfl⟩ := Provider.request_of_ask asked
    rw [answer] at told
    cases told
    exact tagged_request_ne fault message provider.service

/-- What an assistant says of the function at a position. -/
def answersOf (assistant : Assistant) (snapshot : Snapshot) (position : Nat) :
    Except Failure String :=
  (snapshot.functions[position]?.map fun record =>
    (assistant.summarize record.name record.sourceSlice snapshot.language).value).getD (.ok "")

/-- The answers of an assistant are its answers. -/
theorem gives_answersOf (assistant : Assistant) (snapshot : Snapshot) :
    assistant.Gives snapshot (assistant.answersOf snapshot) := by
  intro position record found _
  simp [answersOf, found]

/-- The answers of an assistant over a provider are answers of the provider. -/
theorem answersBy_answersOf (send : Request → Delivery) (snapshot : Snapshot) :
    AnswersBy provider settings snapshot ((ofProvider provider send settings).answersOf snapshot) :=
  fun position record found synthesized =>
    ⟨send, gives_answersOf _ snapshot position record found synthesized⟩

/-- An assistant over a provider tells no function to have an empty summary. -/
theorem message_ne_of_enhance (send : Request → Delivery) (snapshot : Snapshot) :
    ∀ failure ∈ ((ofProvider provider send settings).enhance snapshot).value.failures,
      failure.message ≠ "MODEL_ERROR: empty summary" := by
  have value : ((ofProvider provider send settings).enhance snapshot).value =
      snapshot.answered ((ofProvider provider send settings).answersOf snapshot) := by
    rw [enhance, enhanceRecords_value _ snapshot.language (gives_answersOf _ snapshot),
      Snapshot.answered]
  rw [value]
  exact message_ne_of_answersBy (answersBy_answersOf send snapshot)

end Summaries

/-- For every provider and all settings: what an assistant says of a function is a failure or a text
that is not empty. If the question is answered, there is a summary exactly if the reply is a success
that holds an answer, and the summary is the first line of this answer. So no function is told to
have an empty summary, neither in a round with any order of answers, where each question may be
answered by another reply, nor by the assistant. -/
theorem summarize_is_first_line (provider : Provider) (settings : ModelSettings) :
    (∀ send name code language summary,
      ((ofProvider provider send settings).summarize name code language).value = .ok summary →
        summary ≠ "") ∧
    (∀ send name code language request reply,
      provider.questionRequest
        ((ofProvider provider send settings).summaryQuestion name code language) = .ok request →
      send request = .answered reply →
      ∀ summary, ((ofProvider provider send settings).summarize name code language).value =
          .ok summary ↔
        (200 ≤ reply.status ∧ reply.status ≤ 299) ∧ ∃ text,
          provider.service.Holds reply.body text ∧ IsFirstLine text.toList summary.toList) ∧
    (∀ (snapshot : Snapshot) (round : Round) (turn : Turn),
      AnswersBy provider settings snapshot round.answers → round.run? snapshot = some turn →
      ∀ failure ∈ turn.enhancement.failures, failure.message ≠ "MODEL_ERROR: empty summary") ∧
    ∀ send snapshot, ∀ failure ∈
      ((ofProvider provider send settings).enhance snapshot).value.failures,
        failure.message ≠ "MODEL_ERROR: empty summary" := by
  refine ⟨fun _ _ _ _ _ => summary_ne_empty, ?_, ?_, message_ne_of_enhance⟩
  · intro send name code language request reply sent answered summary
    have reads := provider.service.reads_readReply reply
    rw [← Provider.ask_of_answered sent answered] at reads
    rw [summarize_value, map_eq_ok_iff]
    constructor
    · rintro ⟨text, asked, line⟩
      obtain ⟨success, holds⟩ := (reads.answer text).mp asked
      exact ⟨success, text, holds, (firstLine_eq_iff text summary).mp line⟩
    · rintro ⟨success, text, holds, line⟩
      exact ⟨text, (reads.answer text).mpr ⟨success, holds⟩,
        (firstLine_eq_iff text summary).mpr line⟩
  · intro snapshot round turn given ran
    rw [(Round.turn_of_run? ran).2]
    exact message_ne_of_answersBy given

/-- An assistant of the service whose questions all get one reply. -/
def replying (service : Service) (reply : Reply) : Assistant :=
  ofProvider service.nearby (fun _ => .answered reply) {}

/-- A reply whose text begins with blanks and blank lines, has two carriage returns at the end of
its first line and ends with a blank. -/
def blankedReply : Reply :=
  Service.openai.replyWith "\u2003\r\n\n\u00a0Adds.\r\r\nMore\u3000"

/-- The summary is the first line that is not blank, and two questions at a time tell no function
to have an empty one. -/
theorem summarize_blankedReply :
    (∃ request, Service.openai.nearby.questionRequest ⟨Prompt.summary "f" "Python" "1", 50⟩ =
      .ok request) ∧
    ((replying .openai blankedReply).summarize "f" "1" .python).value = .ok "Adds." ∧
    ∃ schedule turn, (Round.mk ((replying .openai blankedReply).answersOf namesakes) 2
        schedule).run? namesakes = some turn ∧
      ∀ failure ∈ turn.enhancement.failures, failure.message ≠ "MODEL_ERROR: empty summary" := by
  obtain ⟨_, lines, rounds, _⟩ := summarize_is_first_line Service.openai.nearby {}
  obtain ⟨request, sent⟩ := Service.openai.exists_questionRequest_nearby
    ⟨Prompt.summary "f" "Python" "1", 50⟩
  obtain ⟨schedule, turn, ran⟩ := Round.exists_run? namesakes
    ((replying .openai blankedReply).answersOf namesakes) 2
  have holds : Service.openai.Holds blankedReply.body "Adds.\r\r\nMore" :=
    Service.openai.holds_replyWith (by decide) ((trims_iff _ _).mpr (by decide))
  have line : IsFirstLine "Adds.\r\r\nMore".toList "Adds.".toList :=
    ⟨"Adds.\r\r".toList, "\nMore".toList, rfl, by decide, .inr rfl,
      (trims_iff _ _).mpr (by decide)⟩
  exact ⟨⟨request, sent⟩,
    (lines _ "f" "1" .python request blankedReply sent rfl "Adds.").mpr
      ⟨by decide, _, holds, line⟩,
    schedule, turn, ran, rounds namesakes _ turn (answersBy_answersOf _ namesakes) ran⟩

/-! ## Converted functions -/

/-- What is shown of a success that holds an answer. -/
theorem convert_of_holds {provider : Provider} {settings : ModelSettings}
    {send : Request → Delivery} {code target text : String} {source : Language} {request : Request}
    {reply : Reply}
    (sent : provider.questionRequest
      ⟨Prompt.conversion source.displayName target code, settings.conversionTokens⟩ = .ok request)
    (answered : send request = .answered reply)
    (success : 200 ≤ reply.status ∧ reply.status ≤ 299)
    (holds : provider.service.Holds reply.body text) :
    ((ofProvider provider send settings).convert code source target).value =
      .ok (String.ofList (stripFence text.toList)) := by
  have reads := provider.service.reads_readReply reply
  rw [← Provider.ask_of_answered sent answered] at reads
  exact map_eq_ok_iff.mpr ⟨text, (reads.answer text).mpr ⟨success, holds⟩, rfl⟩

/-- For every provider, all settings, every function and every reply: what is shown of an answer is
blank just where the answer is a fence with nothing inside. If the question is answered by a
success, the answer that it holds is shown so, and a success that holds none is told as a fault of
the model. Any other status is told as a fault of the request. -/
theorem convert_blank_iff_emptyFence (provider : Provider) (settings : ModelSettings)
    (send : Request → Delivery) (code : String) (source : Language) (target : String) :
    let question : Question :=
      ⟨Prompt.conversion source.displayName target code, settings.conversionTokens⟩
    let converted := ((ofProvider provider send settings).convert code source target).value
    (∀ shown, converted = .ok shown → ∃ text, (provider.ask send question).1 = .ok text ∧
      (isBlankText shown.toList = true ↔ IsEmptyFence text.toList)) ∧
    ∀ request reply, provider.questionRequest question = .ok request →
      send request = .answered reply →
      (200 ≤ reply.status ∧ reply.status ≤ 299 →
        (∀ text, provider.service.Holds reply.body text → ∃ shown, converted = .ok shown ∧
          (isBlankText shown.toList = true ↔ IsEmptyFence text.toList)) ∧
        ((∀ text, ¬ provider.service.Holds reply.body text) → ∃ failure,
          converted = .error failure ∧
            failure.IsTold "MODEL_ERROR" "PARSE_ERROR" provider.service)) ∧
      (¬ (200 ≤ reply.status ∧ reply.status ≤ 299) → ∃ failure category,
        converted = .error failure ∧ StatusCategory reply.status category ∧
          failure.IsTold "HTTP_ERROR" category provider.service) := by
  intro question converted
  have value : converted = (provider.ask send question).1.map fun text =>
      String.ofList (stripFence text.toList) := rfl
  have blank {text : String} (asked : (provider.ask send question).1 = .ok text) :
      isBlankText (String.ofList (stripFence text.toList)).toList = true ↔
        IsEmptyFence text.toList := by
    obtain ⟨trimmed, filled⟩ := Provider.trimmed_of_ask asked
    rw [String.toList_ofList, isBlankText_stripFence_iff filled, trimmed]
  constructor
  · intro shown said
    rw [value, map_eq_ok_iff] at said
    obtain ⟨text, asked, rfl⟩ := said
    exact ⟨text, asked, blank asked⟩
  · intro request reply sent answered
    have reads := provider.service.reads_readReply reply
    rw [← Provider.ask_of_answered sent answered] at reads
    refine ⟨fun success => ⟨?_, ?_⟩, ?_⟩
    · intro text holds
      exact ⟨_, convert_of_holds sent answered success holds,
        blank ((reads.answer text).mpr ⟨success, holds⟩)⟩
    · intro none
      cases asked : (provider.ask send question).1 with
      | ok text => exact absurd ((reads.answer text).mp asked).2 (none text)
      | error failure =>
        exact ⟨failure, map_eq_error_iff.mpr asked, reads.unusable success failure asked⟩
    · intro refused
      obtain ⟨failure, category, asked, status, told⟩ := reads.refused refused
      exact ⟨failure, category, map_eq_error_iff.mpr asked, status, told⟩

/-- A reply whose text is a fence with a line of code. -/
def fencedReply : Reply := Service.openai.replyWith "```rust\n x\n```"

/-- A fence with a line of code is shown with something in it, and a reply without any text is told
as a fault of the model. -/
theorem convert_fencedReply :
    (∃ request, Service.openai.nearby.questionRequest
      ⟨Prompt.conversion "C" "Rust" "int x;", 400⟩ = .ok request) ∧
    (∃ shown, ((replying .openai fencedReply).convert "int x;" .c "Rust").value = .ok shown ∧
      isBlankText shown.toList = false) ∧
    ∃ failure, ((replying .openai ⟨200, ""⟩).convert "int x;" .c "Rust").value = .error failure ∧
      failure.IsTold "MODEL_ERROR" "PARSE_ERROR" .openai := by
  obtain ⟨request, sent⟩ := Service.openai.exists_questionRequest_nearby
    ⟨Prompt.conversion "C" "Rust" "int x;", 400⟩
  obtain ⟨_, answered⟩ := convert_blank_iff_emptyFence Service.openai.nearby {}
    (fun _ => .answered fencedReply) "int x;" .c "Rust"
  obtain ⟨_, unread⟩ := convert_blank_iff_emptyFence Service.openai.nearby {}
    (fun _ => .answered ⟨200, ""⟩) "int x;" .c "Rust"
  have holds : Service.openai.Holds fencedReply.body "```rust\n x\n```" :=
    Service.openai.holds_replyWith (by decide) ((trims_iff _ _).mpr (by decide))
  have inside : ¬ IsEmptyFence "```rust\n x\n```".toList := by
    have trimmed : trim "```rust\n x\n```".toList = "```rust\n x\n```".toList := by decide
    rw [← trimmed, ← isBlankText_stripFence_iff (by decide)]
    decide
  have noText (text : String) : ¬ Service.openai.Holds "" text := by
    rintro ⟨json, _, ⟨rest, stands, _⟩, _⟩
    exact absurd stands.length_lt (Nat.not_lt_zero _)
  obtain ⟨shown, said, blank⟩ := ((answered request fencedReply sent rfl).1 (by decide)).1 _ holds
  exact ⟨⟨request, sent⟩, ⟨shown, said, by simpa using mt blank.mp inside⟩,
    ((unread request ⟨200, ""⟩ sent rfl).1 (by decide)).2 noText⟩

/-- A fence with nothing inside is shown as an empty function, whatever the service is. -/
theorem convert_emptyFenceReply :
    [Service.bedrock, .openai, .ollama].map (fun service =>
      ((replying service (service.replyWith "```\n```")).convert "int x;" .c "Rust").value) =
      [.ok "", .ok "", .ok ""] := by
  have nothing : String.ofList (stripFence "```\n```".toList) = "" := by decide
  have shown (service : Service) :
      ((replying service (service.replyWith "```\n```")).convert "int x;" .c "Rust").value =
        .ok (String.ofList (stripFence "```\n```".toList)) := by
    obtain ⟨request, sent⟩ := service.exists_questionRequest_nearby
      ⟨Prompt.conversion "C" "Rust" "int x;", 400⟩
    have holds : service.Holds (service.replyWith "```\n```").body "```\n```" :=
      service.holds_replyWith (by decide) ((trims_iff _ _).mpr (by decide))
    exact convert_of_holds sent rfl ⟨Nat.le_refl 200, Nat.le_add_right 200 99⟩ holds
  simp only [List.map_cons, List.map_nil, shown, nothing]

end Assistant

end SourceOutline
