import Mathlib.Data.List.Forall2
import SourceOutline.Model.Completion
import SourceOutline.Proofs.Json.Reading
import SourceOutline.Proofs.Json.Writing
import SourceOutline.Proofs.Text.Trim

/-!
# Replies of the services

Each service has a shape for its replies, with fields that may be missing, and a first text in that
shape. The shapes are stated here without a reader (`FirstText`). A question is answered exactly if
the reply is a success whose first text is not blank. Every other reply is a failure, and its status
alone says whether the model or the request is at fault.
-/

namespace SourceOutline

open Json Text

/-! ## Shapes -/

/-- What a record of one field has there: the value at the key, which stands once, or the one item
of an array. A record may also lack the field. -/
inductive FieldAt (key : String) : Json → Option Json → Prop where
  | member {members : List (String × Json)} {value : Json}
    (once : members.filter (·.1 == key) = [(key, value)]) :
    FieldAt key (.object members) (some value)
  | noMember {members : List (String × Json)} (absent : ∀ entry ∈ members, entry.1 ≠ key) :
    FieldAt key (.object members) none
  | item (value : Json) : FieldAt key (.array [value]) (some value)
  | noItem : FieldAt key (.array []) none

/-- The text of a result. -/
inductive ResultText : Json → String → Prop where
  | given {result : Json} {text : String}
    (field : FieldAt "outputText" result (some (.string text))) : ResultText result text
  | missing {result : Json} (field : FieldAt "outputText" result none) : ResultText result ""

/-- The text of a choice, which has a message. The message may lack its content only by name. -/
inductive ChoiceText : Json → Option String → Prop where
  | given {choice message : Json} {text : String}
    (told : FieldAt "message" choice (some message))
    (field : FieldAt "content" message (some (.string text))) : ChoiceText choice (some text)
  | null {choice message : Json} (told : FieldAt "message" choice (some message))
    (field : FieldAt "content" message (some .null)) : ChoiceText choice none
  | missing {choice message : Json} (told : FieldAt "message" choice (some message))
    (field : FieldAt "content" message none) (named : message ≠ .array []) : ChoiceText choice none

/-- The reply has the shape of the service, and this is its first text if it has one. -/
inductive FirstText : Service → Json → Option String → Prop where
  | results {json : Json} {results : List Json} {texts : List String}
    (field : FieldAt "results" json (some (.array results)))
    (each : List.Forall₂ ResultText results texts) : FirstText .bedrock json texts.head?
  | noResults {json : Json} (field : FieldAt "results" json none) : FirstText .bedrock json none
  | choices {json : Json} {choices : List Json} {texts : List (Option String)}
    (field : FieldAt "choices" json (some (.array choices)))
    (each : List.Forall₂ ChoiceText choices texts) : FirstText .openai json texts.head?.join
  | noChoices {json : Json} (field : FieldAt "choices" json none) : FirstText .openai json none
  | response {json : Json} {text : String}
    (field : FieldAt "response" json (some (.string text))) : FirstText .ollama json (some text)
  | noResponse {json : Json} (field : FieldAt "response" json none) :
    FirstText .ollama json (some "")

/-! ## Shapes are read -/

/-- The values at a key that stands once. -/
theorem valuesAt_eq_singleton_iff (key : String) (members : List (String × Json)) (value : Json) :
    valuesAt key members = [value] ↔ members.filter (·.1 == key) = [(key, value)] := by
  constructor
  · intro one
    obtain ⟨entry, filtered, rfl⟩ := List.map_eq_singleton_iff.mp one
    have named : entry ∈ members.filter (·.1 == key) := filtered ▸ List.mem_singleton_self entry
    have same : entry.1 = key := by simpa using (List.mem_filter.mp named).2
    rw [filtered, ← same]
  · intro once
    rw [valuesAt, once]
    rfl

/-- There is no value at a key that does not stand. -/
theorem valuesAt_eq_nil_iff (key : String) (members : List (String × Json)) :
    valuesAt key members = [] ↔ ∀ entry ∈ members, entry.1 ≠ key := by
  simp [valuesAt, List.filter_eq_nil_iff]

/-- The field of an object is read. -/
theorem fieldsOfMembers?_eq_some_iff (key : String) (members : List (String × Json))
    (fields : List (Option Json)) :
    fieldsOfMembers? [key] members = some fields ↔
      ∃ field, fields = [field] ∧ FieldAt key (.object members) field := by
  constructor
  · intro found
    cases values : valuesAt key members with
    | nil =>
      simp [fieldsOfMembers?, values] at found
      exact ⟨none, found.symm, .noMember ((valuesAt_eq_nil_iff key members).mp values)⟩
    | cons value others =>
      cases others with
      | nil =>
        simp [fieldsOfMembers?, values] at found
        exact ⟨some value, found.symm,
          .member ((valuesAt_eq_singleton_iff key members value).mp values)⟩
      | cons second others => simp [fieldsOfMembers?, values] at found
  · rintro ⟨field, rfl, stands⟩
    cases stands with
    | member once =>
      simp [fieldsOfMembers?, (valuesAt_eq_singleton_iff key members _).mpr once]
    | noMember absent => simp [fieldsOfMembers?, (valuesAt_eq_nil_iff key members).mpr absent]

/-- The field of a record is read, also from an array that stops early. -/
theorem openRecord?_eq_some_iff (key : String) (json : Json) (fields : List (Option Json)) :
    json.openRecord? [key] = some fields ↔ ∃ field, fields = [field] ∧ FieldAt key json field := by
  constructor
  · intro found
    cases json with
    | object members => exact (fieldsOfMembers?_eq_some_iff key members fields).mp found
    | array items =>
      match items with
      | [] => cases found; exact ⟨none, rfl, .noItem⟩
      | [item] => cases found; exact ⟨some item, rfl, .item item⟩
      | first :: second :: items => simp [openRecord?] at found
    | _ => cases found
  · rintro ⟨field, rfl, stands⟩
    cases json with
    | object members => exact (fieldsOfMembers?_eq_some_iff key members _).mpr ⟨field, rfl, stands⟩
    | array items => cases stands <;> rfl
    | _ => cases stands

/-- The field of a record is read, but not from an array without it. -/
theorem record?_eq_some_iff (key : String) (json : Json) (fields : List (Option Json)) :
    json.record? [key] = some fields ↔
      ∃ field, fields = [field] ∧ FieldAt key json field ∧ json ≠ .array [] := by
  constructor
  · intro found
    cases json with
    | object members =>
      obtain ⟨field, rfl, stands⟩ := (fieldsOfMembers?_eq_some_iff key members fields).mp found
      exact ⟨field, rfl, stands, by simp⟩
    | array items =>
      match items with
      | [] => simp [record?] at found
      | [item] => cases found; exact ⟨some item, rfl, .item item, by simp⟩
      | first :: second :: items => simp [record?] at found
    | _ => cases found
  · rintro ⟨field, rfl, stands, nonempty⟩
    cases json with
    | object members => exact (fieldsOfMembers?_eq_some_iff key members _).mpr ⟨field, rfl, stands⟩
    | array items =>
      cases stands with
      | item value => rfl
      | noItem => exact absurd rfl nonempty
    | _ => cases stands

/-- A field that may be missing is read: its value, or else its default. -/
theorem openField_eq_some_iff {α : Type} (key : String) (read : Json → Option α) (default : α)
    (json : Json) (value : α) :
    (match json.openRecord? [key] with
      | some [field] => fieldOr read default field
      | _ => none) = some value ↔
      (∃ given, FieldAt key json (some given) ∧ read given = some value) ∨
        FieldAt key json none ∧ value = default := by
  constructor
  · intro found
    split at found
    next field fields =>
      obtain ⟨other, same, stands⟩ := (openRecord?_eq_some_iff key json _).mp fields
      cases same
      cases field with
      | none => exact .inr ⟨stands, (Option.some.inj found).symm⟩
      | some given => exact .inl ⟨given, stands, found⟩
    · contradiction
  · rintro (⟨given, stands, found⟩ | ⟨stands, rfl⟩)
    · rw [(openRecord?_eq_some_iff key json _).mpr ⟨_, rfl, stands⟩]
      exact found
    · rw [(openRecord?_eq_some_iff key json _).mpr ⟨_, rfl, stands⟩]
      rfl

/-- A list is read if all its items are. -/
theorem listOf?_eq_some_iff {α : Type} (read : Json → Option α) (json : Json) (values : List α) :
    json.listOf? read = some values ↔
      ∃ items, json = .array items ∧
        List.Forall₂ (fun item value => read item = some value) items values := by
  have all (items : List Json) (values : List α) : items.mapM read = some values ↔
      List.Forall₂ (fun item value => read item = some value) items values := by
    induction items generalizing values with
    | nil => simp [eq_comm]
    | cons item items induction =>
      simp only [List.mapM_cons, Option.bind_eq_bind, Option.bind_eq_some_iff, Option.pure_def,
        Option.some.injEq, induction, List.forall₂_cons_left_iff]
      constructor
      · rintro ⟨value, first, others, later, rfl⟩
        exact ⟨value, others, first, later, rfl⟩
      · rintro ⟨value, others, first, later, rfl⟩
        exact ⟨value, first, others, later, rfl⟩
  rw [listOf?, Option.bind_eq_some_iff]
  constructor
  · rintro ⟨items, isArray, read⟩
    cases json with
    | array others =>
      cases isArray
      exact ⟨items, rfl, (all items values).mp read⟩
    | _ => cases isArray
  · rintro ⟨items, rfl, each⟩
    exact ⟨items, rfl, (all items values).mpr each⟩

/-- A list that may be missing is read if all its items have one shape. -/
theorem openList_eq_some_iff {α : Type} (key : String) {read : Json → Option α}
    {shape : Json → α → Prop} (reads : ∀ item value, read item = some value ↔ shape item value)
    (json : Json) (values : List α) :
    (match json.openRecord? [key] with
      | some [field] => fieldOr (listOf? read) [] field
      | _ => none) = some values ↔
      (∃ items, FieldAt key json (some (.array items)) ∧ List.Forall₂ shape items values) ∨
        FieldAt key json none ∧ values = [] := by
  refine (openField_eq_some_iff key (listOf? read) [] json values).trans (or_congr_left ?_)
  constructor
  · rintro ⟨given, stands, found⟩
    obtain ⟨items, rfl, each⟩ := (listOf?_eq_some_iff read given values).mp found
    exact ⟨items, stands, each.imp fun item value => (reads item value).mp⟩
  · rintro ⟨items, stands, each⟩
    refine ⟨_, stands, (listOf?_eq_some_iff read _ values).mpr ⟨items, rfl, ?_⟩⟩
    exact each.imp fun item value => (reads item value).mpr

/-- A text is read from a string. -/
theorem text?_eq_some_iff (json : Json) (text : String) :
    json.text? = some text ↔ json = .string text := by
  cases json <;> simp [text?]

/-- The text of a result is read. -/
theorem resultText_iff (result : Json) (text : String) :
    (match result.openRecord? ["outputText"] with
      | some [output] => fieldOr Json.text? "" output
      | _ => none) = some text ↔ ResultText result text := by
  rw [openField_eq_some_iff]
  constructor
  · rintro (⟨given, stands, isText⟩ | ⟨stands, rfl⟩)
    · exact .given ((text?_eq_some_iff given text).mp isText ▸ stands)
    · exact .missing stands
  · rintro (stands | stands)
    · exact .inl ⟨_, stands, rfl⟩
    · exact .inr ⟨stands, rfl⟩

/-- The texts of the results are read. -/
theorem resultTexts?_eq_some_iff (json : Json) (texts : List String) :
    resultTexts? json = some texts ↔
      (∃ results, FieldAt "results" json (some (.array results)) ∧
        List.Forall₂ ResultText results texts) ∨ FieldAt "results" json none ∧ texts = [] :=
  openList_eq_some_iff "results" resultText_iff json texts

/-- The text of a choice is read. -/
theorem choiceText?_eq_some_iff (choice : Json) (text : Option String) :
    choiceText? choice = some text ↔ ChoiceText choice text := by
  constructor
  · intro found
    unfold choiceText? at found
    split at found
    next message fields =>
      obtain ⟨_, same, told, -⟩ := (record?_eq_some_iff _ _ _).mp fields
      cases same
      split at found
      next content fields =>
        obtain ⟨_, same, stands, named⟩ := (record?_eq_some_iff _ _ _).mp fields
        cases same
        match content, found with
        | none, rfl => exact .missing told stands named
        | some .null, rfl => exact .null told stands
        | some (.string text), rfl => exact .given told stands
      · contradiction
    · contradiction
  · have inner {message : Json} (told : FieldAt "message" choice (some message)) :
        choice.record? ["message"] = some [some message] := by
      refine (record?_eq_some_iff _ _ _).mpr ⟨_, rfl, told, ?_⟩
      rintro rfl
      cases told
    have given {message content : Json} (stands : FieldAt "content" message (some content)) :
        message.record? ["content"] = some [some content] := by
      refine (record?_eq_some_iff _ _ _).mpr ⟨_, rfl, stands, ?_⟩
      rintro rfl
      cases stands
    intro stands
    cases stands with
    | given told field => simp [choiceText?, inner told, given field, fieldOr, optionalText?]
    | null told field => simp [choiceText?, inner told, given field, fieldOr, optionalText?]
    | missing told field named =>
      have missing := (record?_eq_some_iff _ _ _).mpr ⟨_, rfl, field, named⟩
      simp [choiceText?, inner told, missing, fieldOr]

/-- The texts of the choices are read. -/
theorem choiceTexts?_eq_some_iff (json : Json) (texts : List (Option String)) :
    choiceTexts? json = some texts ↔
      (∃ choices, FieldAt "choices" json (some (.array choices)) ∧
        List.Forall₂ ChoiceText choices texts) ∨ FieldAt "choices" json none ∧ texts = [] :=
  openList_eq_some_iff "choices" choiceText?_eq_some_iff json texts

/-- The text of a reply with one field for it is read. -/
theorem responseText?_eq_some_iff (json : Json) (text : String) :
    responseText? json = some text ↔
      FieldAt "response" json (some (.string text)) ∨
        FieldAt "response" json none ∧ text = "" := by
  refine (openField_eq_some_iff "response" text? "" json text).trans (or_congr_left ?_)
  simp [text?_eq_some_iff]

/-- The first text of a reply is read if the reply has the shape of the service. -/
theorem Service.replyText?_iff (service : Service) (json : Json) (first : Option String) :
    (∃ log, service.replyText? json = some (first, log)) ↔ FirstText service json first := by
  constructor
  · rintro ⟨log, found⟩
    cases service with
    | bedrock =>
      obtain ⟨texts, read, same⟩ := Option.map_eq_some_iff.mp found
      cases same
      rcases (resultTexts?_eq_some_iff json texts).mp read with
        ⟨results, field, each⟩ | ⟨field, rfl⟩
      · exact .results field each
      · exact .noResults field
    | openai =>
      obtain ⟨texts, read, same⟩ := Option.map_eq_some_iff.mp found
      cases same
      rcases (choiceTexts?_eq_some_iff json texts).mp read with
        ⟨choices, field, each⟩ | ⟨field, rfl⟩
      · exact .choices field each
      · exact .noChoices field
    | ollama =>
      obtain ⟨text, read, same⟩ := Option.map_eq_some_iff.mp found
      cases same
      rcases (responseText?_eq_some_iff json text).mp read with field | ⟨field, rfl⟩
      · exact .response field
      · exact .noResponse field
  · intro shape
    cases shape with
    | results field each =>
      exact ⟨_, Option.map_eq_some_iff.mpr
        ⟨_, (resultTexts?_eq_some_iff json _).mpr (.inl ⟨_, field, each⟩), rfl⟩⟩
    | noResults field =>
      exact ⟨_, Option.map_eq_some_iff.mpr
        ⟨_, (resultTexts?_eq_some_iff json _).mpr (.inr ⟨field, rfl⟩), rfl⟩⟩
    | choices field each =>
      exact ⟨_, Option.map_eq_some_iff.mpr
        ⟨_, (choiceTexts?_eq_some_iff json _).mpr (.inl ⟨_, field, each⟩), rfl⟩⟩
    | noChoices field =>
      exact ⟨_, Option.map_eq_some_iff.mpr
        ⟨_, (choiceTexts?_eq_some_iff json _).mpr (.inr ⟨field, rfl⟩), rfl⟩⟩
    | response field =>
      exact ⟨_, Option.map_eq_some_iff.mpr
        ⟨_, (responseText?_eq_some_iff json _).mpr (.inl field), rfl⟩⟩
    | noResponse field =>
      exact ⟨_, Option.map_eq_some_iff.mpr
        ⟨_, (responseText?_eq_some_iff json _).mpr (.inr ⟨field, rfl⟩), rfl⟩⟩

/-! ## Answers and failures -/

/-- The category of a status that is no success. -/
inductive StatusCategory : Nat → String → Prop where
  | rateLimit : StatusCategory 429 "RATE_LIMIT"
  | auth {status : Nat} (one : status ∈ [401, 403]) : StatusCategory status "AUTH"
  | badRequest {status : Nat} (one : status ∈ [400, 422]) : StatusCategory status "BAD_REQUEST"
  | transient {status : Nat} (one : status ∈ [500, 502, 503, 504]) :
    StatusCategory status "TRANSIENT"
  | unavailable {status : Nat}
    (other : status ∉ [429, 401, 403, 400, 422, 500, 502, 503, 504]) :
    StatusCategory status "UNAVAILABLE"

/-- The failure has a tag and a category, names the service, and is told so. -/
structure Failure.IsTold (failure : Failure) (tag category : String) (service : Service) :
    Prop where
  /-- The tag says who is at fault. -/
  fault : failure.tag.text = tag
  /-- The failure is that of a request to the service. -/
  request : ∃ request : RequestFailure, failure = .request request ∧
    request.fault.text = category ∧ request.provider = some service.name
  /-- Tag, service and category begin the text. -/
  told : ∃ message,
    failure.tagged = tag ++ ": [" ++ service.name ++ ":" ++ category ++ "] " ++ message

/-- The body is JSON in the shape of the service, its first text is not blank, and the second text
is that text without the blanks around it. -/
def Service.Holds (service : Service) (body text : String) : Prop :=
  ∃ json first, IsText body.toList json ∧ FirstText service json (some first) ∧
    isBlankText first.toList = false ∧ Trims first.toList text.toList

/-- What a service makes of a reply. -/
structure Service.Reads (service : Service) (reply : Reply) (result : Except Failure String) :
    Prop where
  /-- There is an answer exactly if the reply is a success that holds one. -/
  answer : ∀ text, result = .ok text ↔
    (200 ≤ reply.status ∧ reply.status ≤ 299) ∧ service.Holds reply.body text
  /-- A success without an answer is the fault of the model. -/
  unusable : 200 ≤ reply.status ∧ reply.status ≤ 299 → ∀ failure, result = .error failure →
    failure.IsTold "MODEL_ERROR" "PARSE_ERROR" service
  /-- Any other status is the fault of the request, whatever the body is. -/
  refused : ¬ (200 ≤ reply.status ∧ reply.status ≤ 299) → ∃ failure category,
    result = .error failure ∧ StatusCategory reply.status category ∧
      failure.IsTold "HTTP_ERROR" category service

/-- The category of a failed request is that of its status. -/
theorem statusCategory_ofStatus (status : Nat) :
    StatusCategory status (RequestFault.ofStatus status).text := by
  unfold RequestFault.ofStatus
  split
  next rateLimit => exact rateLimit ▸ .rateLimit
  next noLimit =>
  split
  next auth => exact .auth (by simpa using auth)
  next noAuth =>
  split
  next bad => exact .badRequest (by simpa using bad)
  next notBad =>
  split
  next transient => exact .transient (by simpa using transient)
  next lasting =>
    refine .unavailable ?_
    simp only [List.mem_cons, List.not_mem_nil, or_false]
    tauto

/-- Only an answer that cannot be understood is the fault of the model. -/
theorem tag_ofStatus (status : Nat) : (RequestFault.ofStatus status).tag = .http := by
  unfold RequestFault.ofStatus
  repeat' split
  all_goals rfl

/-- A failed request is told with its tag, its service and its category. -/
theorem Failure.isTold_request (fault : RequestFault) (message : String) (service : Service) :
    (Failure.request ⟨fault, message, some service.name⟩).IsTold fault.tag.text fault.text
      service := by
  have bracket : ": [" = ": " ++ "[" := rfl
  refine ⟨rfl, ⟨_, rfl, rfl, rfl⟩, message, ?_⟩
  simp only [Failure.tagged, Failure.tag, RequestFailure.text, bracket, String.append_assoc]

/-- A text is an answer if it is there and not blank. -/
theorem Service.usableText_eq_ok_iff (service : Service) (first : Option String) (text : String) :
    service.usableText first = .ok text ↔
      ∃ given, first = some given ∧ isBlankText given.toList = false ∧
        Trims given.toList text.toList := by
  have trimmed (given : String) : (trimString given).isEmpty = isBlankText given.toList := by
    rw [Bool.eq_iff_iff, ← trim_eq_nil_iff]
    simp [trimString]
  constructor
  · intro usable
    cases first with
    | none => simp [usableText, trimString, trim, trimStart, trimEnd, dropWhileEnd] at usable
    | some given =>
      simp only [usableText, Option.getD_some, trimmed] at usable
      split at usable
      · contradiction
      next notBlank =>
        cases usable
        refine ⟨given, rfl, by simpa using notBlank, ?_⟩
        rw [trimString, String.toList_ofList]
        exact trims_trim _
  · rintro ⟨given, rfl, notBlank, trims⟩
    have same : trimString given = text := by
      rw [trimString, ← (trims_iff _ _).mp trims, String.ofList_toList]
    have nonempty : ¬ text.isEmpty = true := by rw [← same, trimmed, notBlank]; decide
    simp only [usableText, Option.getD_some, same, if_neg nonempty]

/-- A text that is no answer is the fault of the model. -/
theorem Service.usableText_eq_error {service : Service} {first : Option String}
    {failure : RequestFailure} (useless : service.usableText first = .error failure) :
    failure = .emptyOutput service.name := by
  simp only [usableText] at useless
  split at useless
  · exact (Except.error.inj useless).symm
  · cases useless

/-- The answer to a success is the one that its body holds. -/
theorem Service.readReply_eq_ok_iff {service : Service} {reply : Reply}
    (success : reply.isSuccess = true) (text : String) :
    (service.readReply reply).1 = .ok text ↔ service.Holds reply.body text := by
  simp only [readReply, success, if_true]
  constructor
  · intro answer
    cases read : (parse? reply.body.toList).bind service.replyText? with
    | none => simp [read] at answer
    | some found =>
      obtain ⟨first, log⟩ := found
      obtain ⟨json, parsed, found⟩ := Option.bind_eq_some_iff.mp read
      have shape := (service.replyText?_iff json first).mp ⟨log, found⟩
      simp only [read] at answer
      obtain ⟨given, rfl, notBlank, trims⟩ := (service.usableText_eq_ok_iff first text).mp answer
      exact ⟨json, given, (parse?_eq_some_iff _ json).mp parsed, shape, notBlank, trims⟩
  · rintro ⟨json, first, isText, shape, notBlank, trims⟩
    obtain ⟨log, found⟩ := (service.replyText?_iff json _).mpr shape
    have usable := (service.usableText_eq_ok_iff _ text).mpr ⟨first, rfl, notBlank, trims⟩
    simp only [(parse?_eq_some_iff _ json).mpr isText, Option.bind_some, found, usable]

/-- A success without an answer could not be understood. -/
theorem Service.readReply_eq_error {service : Service} {reply : Reply} {failure : RequestFailure}
    (success : reply.isSuccess = true) (useless : (service.readReply reply).1 = .error failure) :
    ∃ message, failure = ⟨.unreadable, message, some service.name⟩ := by
  simp only [readReply, success, if_true] at useless
  split at useless
  next first log _ =>
    have empty : service.usableText first = .error failure := by simpa only using useless
    exact ⟨_, usableText_eq_error empty⟩
  · exact ⟨_, (Except.error.inj useless).symm⟩

/-- Any other status is a failed request, whatever the body is. -/
theorem Service.readReply_of_refused {service : Service} {reply : Reply}
    (refused : reply.isSuccess = false) :
    ∃ message, (service.readReply reply).1 =
      .error ⟨.ofStatus reply.status, message, some service.name⟩ := by
  simp only [readReply, refused, Bool.false_eq_true, if_false]
  exact ⟨_, rfl⟩

/-- A service reads its replies by their shape. -/
theorem Service.reads_readReply (service : Service) (reply : Reply) :
    service.Reads reply ((service.readReply reply).1.mapError .request) := by
  by_cases success : 200 ≤ reply.status ∧ reply.status ≤ 299
  · have isSuccess : reply.isSuccess = true := by simpa [Reply.isSuccess] using success
    refine ⟨fun text => ?_, fun _ failure useless => ?_, fun refused => absurd success refused⟩
    · rw [and_iff_right success, ← service.readReply_eq_ok_iff isSuccess]
      cases (service.readReply reply).1 <;> simp [Except.mapError]
    · cases read : (service.readReply reply).1 with
      | ok text => simp [read, Except.mapError] at useless
      | error request =>
        obtain ⟨message, rfl⟩ := readReply_eq_error isSuccess read
        rw [read] at useless
        cases useless
        exact Failure.isTold_request .unreadable message service
  · have refused : reply.isSuccess = false := by simpa [Reply.isSuccess] using success
    obtain ⟨message, read⟩ := service.readReply_of_refused refused
    rw [read]
    refine ⟨fun text => ?_, fun other => absurd other success, fun _ => ?_⟩
    · simp [Except.mapError, success]
    · refine ⟨_, _, rfl, statusCategory_ofStatus reply.status, ?_⟩
      have told := Failure.isTold_request (.ofStatus reply.status) message service
      rwa [tag_ofStatus] at told

/-- A request with a key that can stand in a header, or without one, is made if there is an address
to send it to. -/
theorem Request.make_eq {key : Option String} (legal : key.all isKey = true) (method : Method)
    (address accept : String) (content : Option Json) :
    make method address key accept content =
      (target address).map fun url => ⟨method, url, key.map ("Bearer " ++ ·), accept, content⟩ := by
  cases found : target address with
  | error reason => simp [make, found, Except.map, bind, Except.bind]
  | ok url =>
    cases key with
    | none => simp [make, found, Except.map, bind, Except.bind, pure, Except.pure]
    | some key =>
      have legal : isKey key = true := legal
      simp [make, found, legal, Except.map, bind, Except.bind, pure, Except.pure]

namespace Provider

variable {provider : Provider} {send : Request → Delivery} {question : Question}

/-- A question is sent if its key can stand in a header and its address is one of the web. -/
theorem exists_questionRequest (legal : provider.key.all Request.isKey = true)
    (reachable : (Request.target provider.questionAddress).isOk = true) (question : Question) :
    ∃ request, provider.questionRequest question = .ok request := by
  rw [questionRequest, Request.make_eq legal]
  cases found : Request.target provider.questionAddress with
  | ok url => exact ⟨_, rfl⟩
  | error reason => simp [found, Except.isOk, Except.toBool] at reachable

/-- The answer to a question whose request is answered. -/
theorem ask_of_answered {request : Request} {reply : Reply}
    (sent : provider.questionRequest question = .ok request)
    (answered : send request = .answered reply) :
    (provider.ask send question).1 =
      (provider.service.readReply reply).1.mapError .request := by
  simp only [ask, sent, answered]

/-- A question fails by its request or by the reply, never by anything else. -/
theorem tag_ne_of_ask {failure : Failure}
    (failed : (provider.ask send question).1 = .error failure) : failure.tag ≠ .system := by
  have request (fault : RequestFault) : fault.tag ≠ .system := by
    cases fault <;> decide
  simp only [ask] at failed
  split at failed
  · cases failed
    exact request .network
  · split at failed
    · cases failed
      exact request .network
    next reply _ =>
      cases read : (provider.service.readReply reply).1 with
      | ok text => simp [read, Except.mapError] at failed
      | error refusal =>
        rw [read] at failed
        cases failed
        exact request refusal.fault

end Provider

/-- A question whose request is answered gets what its service reads in the reply. Neither a reply
nor the lack of one is told as a fault of the system. -/
theorem Provider.ask_reads_reply (provider : Provider) (question : Question)
    (send : Request → Delivery) (request : Request) (reply : Reply)
    (sent : provider.questionRequest question = .ok request)
    (answered : send request = .answered reply) :
    provider.service.Reads reply (provider.ask send question).1 ∧
      ∀ delivery failure, (provider.ask (fun _ => delivery) question).1 = .error failure →
        failure.tag.text ≠ "SYSTEM_ERROR" := by
  constructor
  · rw [ask_of_answered sent answered]
    exact provider.service.reads_readReply reply
  · intro delivery failure failed
    have noSystem := tag_ne_of_ask failed
    cases tag : failure.tag with
    | model => decide
    | http => decide
    | system => exact absurd tag noSystem

/-- A provider on this machine. -/
def Provider.nearby : Provider where
  service := .openai
  key := some "k"
  address := "http://localhost/v1"
  checkAddress := "http://localhost/v1"
  model := "m"
  temperature := 0

/-- A reply with blanks around its text, and with more than its shape asks for. -/
def Reply.spaced : Reply :=
  ⟨201, " \x7b\"id\": 1e9, \"choices\": [\x7b\"message\": [\" \\n\\u0041b \"]\x7d]\x7d\n"⟩

/-- The body of the reply is that of an object, with an answer in its second member. -/
theorem Reply.isText_spaced : IsText Reply.spaced.body.toList (.object [("id", .number "1e9"),
    ("choices", .array [.object [("message", .array [.string " \nAb "])]])]) := by
  have body : Reply.spaced.body.toList =
      ' ' :: '\x7b' :: '"' :: ("id".toList.flatMap escapeChar ++ '"' :: ':' :: ' ' ::
        (['1', 'e', '9'] ++ ',' :: ' ' :: '"' :: ("choices".toList.flatMap escapeChar ++
          '"' :: ':' :: ' ' :: '[' :: '\x7b' :: '"' :: ("message".toList.flatMap escapeChar ++
            '"' :: ':' :: ' ' :: '[' :: '"' :: ' ' :: '\\' :: 'n' :: '\\' :: 'u' :: '0' :: '0' ::
              '4' :: '1' :: 'b' :: ' ' :: '"' :: [']', '\x7d', ']', '\x7d', '\n'])))) := by
    decide +kernel
  have blank (text : List Char) : Spaced (' ' :: text) text := .cons rfl (.refl _)
  have number : IsNumber ['1', 'e', '9'] :=
    ⟨[], ['1'], [], ['e', '9'], rfl, .inl rfl,
      .inr ⟨⟨by simp, List.forall_mem_singleton.mpr rfl⟩, by decide⟩, .inl rfl,
      .inr ⟨'e', [], ['9'], rfl, .inl rfl, .inl rfl, by simp, List.forall_mem_singleton.mpr rfl⟩⟩
  have answer (rest : List Char) : StringAt (' ' :: '\\' :: 'n' :: '\\' :: 'u' :: '0' :: '0' ::
      '4' :: '1' :: 'b' :: ' ' :: '"' :: rest) [' ', '\n', 'A', 'b', ' '] rest :=
    .cons (.plain (by decide) (by decide) (by decide)) <| .cons (.simple rfl) <|
      .cons (.unit rfl fun half => absurd half.1 (by decide)) <|
      .cons (.plain (by decide) (by decide) (by decide)) <|
      .cons (.plain (by decide) (by decide) (by decide)) .close
  rw [body]
  refine ⟨['\n'], .object (blank _) (keyed?_entriesOf _) ?_, .cons rfl (.refl _)⟩
  refine .cons (.refl _) (quotedAt_escape "id" _) (.refl _)
    (.number (blank _) number (by simp [Ends])) (.refl _) ?_
  refine .last (blank _) (quotedAt_escape "choices" _) (.refl _) (.array (blank _) ?_) (.refl _)
  refine .last (.object (.refl _) (keyed?_entriesOf _) ?_) (.refl _)
  refine .last (.refl _) (quotedAt_escape "message" _) (.refl _) (.array (blank _) ?_) (.refl _)
  exact .last (.string (.refl _) (.value (answer _))) (.refl _)

/-- The text of the reply is the answer, without the blanks around it. -/
theorem Provider.ask_reads_spaced :
    ∃ request, Provider.nearby.questionRequest ⟨"", 0⟩ = .ok request ∧
      Service.openai.Reads .spaced (Provider.nearby.ask (fun _ => .answered .spaced) ⟨"", 0⟩).1 ∧
      (Provider.nearby.ask (fun _ => .answered .spaced) ⟨"", 0⟩).1 = .ok "Ab" := by
  obtain ⟨request, sent⟩ : ∃ request, Provider.nearby.questionRequest ⟨"", 0⟩ = .ok request :=
    exists_questionRequest (by decide) (by decide +kernel) ⟨"", 0⟩
  have reads := (ask_reads_reply .nearby ⟨"", 0⟩ (fun _ => .answered .spaced) request .spaced
    sent rfl).1
  refine ⟨request, sent, reads,
    (reads.answer "Ab").mpr ⟨by decide, _, " \nAb ", Reply.isText_spaced, ?_⟩⟩
  refine ⟨.choices (.member rfl) (.cons (.given (.member rfl) (.item _)) .nil), by decide, ?_⟩
  exact (trims_iff _ _).mpr (by decide)

end SourceOutline
