import SourceOutline.Model.Health
import SourceOutline.Proofs.Model.Completion

/-!
# Secrecy of the key

A session is everything that can be seen of a provider: its options and itself as texts, and for
every call the request, the result and the log. The peers of the calls see the requests too and
reply as they like, but alike for all keys. Two sessions that differ only in a key show the same but
for one header of their requests. The proof compares both with a provider that has no key at all.
-/

namespace SourceOutline

/-! ## Sessions -/

/-- What a provider is asked for. -/
inductive Call where
  /-- The answer to a question. -/
  | ask (question : Question)
  /-- Whether it is in order. -/
  | check

/-- What a call leads to. -/
inductive CallResult where
  | answer (answer : Except Failure String)
  | health (inOrder : Bool)

/-- What can be seen of a call. -/
structure SeenCall where
  /-- The request, or why there was none. -/
  request : Except String Request
  /-- What the caller gets. -/
  result : CallResult
  /-- The log. -/
  log : Log

/-- What can be seen of a provider and its calls. -/
structure Session where
  /-- The options as a text. -/
  options : String
  /-- The log of the choice of the provider. -/
  log : Log
  /-- The provider as a text, its name and its model, or why there is none. -/
  provider : Except Failure (String × String × String)
  /-- The calls in order. -/
  calls : List SeenCall

/-- A call, and what becomes of its request. -/
abbrev PeeredCall := Call × (Request → Delivery)

/-- A call as it is seen. -/
def Provider.perform (provider : Provider) : PeeredCall → SeenCall
  | (.ask question, send) =>
    let (answer, log) := provider.ask send question
    ⟨provider.questionRequest question, .answer answer, log⟩
  | (.check, send) =>
    let (inOrder, log) := provider.check send
    ⟨provider.checkRequest, .health inOrder, log⟩

/-- The request of a question is the one that is shown. -/
theorem Provider.request_perform_ask (provider : Provider) (question : Question)
    (send : Request → Delivery) :
    (provider.perform (.ask question, send)).request = provider.questionRequest question := rfl

/-- The session of a chosen provider. -/
def ProviderOptions.session (options : ProviderOptions) (lookup : String → Option String)
    (calls : List PeeredCall) : Session :=
  match Provider.create options lookup with
  | (.error failure, log) => ⟨options.describe, log, .error failure, []⟩
  | (.ok provider, log) =>
    ⟨options.describe, log, .ok (provider.describe, provider.service.name, provider.model),
      calls.map provider.perform⟩

/-- The options with a key. -/
def ProviderOptions.withKey (options : ProviderOptions) (key : String) : ProviderOptions :=
  { options with key := some key }

/-- The request without the header that the key is for. -/
def Request.withoutKey (request : Request) : Request := { request with authorization := none }

/-- The replies are the same for all keys. -/
def IgnoresKey (send : Request → Delivery) : Prop :=
  ∀ request, send request.withoutKey = send request

/-- The call without the header that the key is for. -/
def SeenCall.withoutKey (seen : SeenCall) : SeenCall :=
  { seen with request := seen.request.map Request.withoutKey }

/-- The session without the headers that the key is for. -/
def Session.withoutKeys (session : Session) : Session :=
  { session with calls := session.calls.map SeenCall.withoutKey }

/-- Every request of the session has this header. -/
def Session.Authorizes (session : Session) (header : Option String) : Prop :=
  ∀ seen ∈ session.calls, ∀ request, seen.request = .ok request → request.authorization = header

/-! ## A provider without its key -/

namespace Request

variable {key : Option String} {method : Method} {address accept : String} {content : Option Json}

/-- A key that can stand in a header leaves the rest of a request alone. -/
theorem make_withoutKey (legal : key.all isKey = true) :
    (make method address key accept content).map withoutKey =
      make method address none accept content := by
  rw [make_eq legal, make_eq rfl]
  cases target address <;> rfl

/-- The key stands in a header of its own. -/
theorem authorization_of_make (legal : key.all isKey = true) {request : Request}
    (made : make method address key accept content = .ok request) :
    request.authorization = key.map ("Bearer " ++ ·) := by
  rw [make_eq legal] at made
  cases found : target address with
  | error reason => simp [found, Except.map] at made
  | ok url =>
    rw [found] at made
    cases made
    rfl

end Request

namespace Provider

variable {key : Option String}

/-- The provider with another key, or with none. -/
def rekeyed (provider : Provider) (key : Option String) : Provider := { provider with key := key }

/-- No request is made without the key exactly if none is made with it. -/
theorem request_cases {made bare : Except String Request}
    (same : made.map Request.withoutKey = bare) :
    (∃ reason, made = .error reason ∧ bare = .error reason) ∨
      ∃ request, made = .ok request ∧ bare = .ok request.withoutKey := by
  cases made with
  | error reason => exact .inl ⟨reason, rfl, same.symm⟩
  | ok request => exact .inr ⟨request, rfl, same.symm⟩

/-- The answer to a question does not depend on the key. -/
theorem ask_rekeyed (provider : Provider) (legal : key.all Request.isKey = true)
    {send : Request → Delivery} (ignores : IgnoresKey send) (question : Question) :
    (provider.rekeyed key).ask send question = (provider.rekeyed none).ask send question := by
  have same : ((provider.rekeyed key).questionRequest question).map Request.withoutKey =
      (provider.rekeyed none).questionRequest question := Request.make_withoutKey legal
  rcases request_cases same with ⟨reason, made, bare⟩ | ⟨request, made, bare⟩
  · simp only [ask, made, bare]
    rfl
  · simp only [ask, made, bare, ignores request]
    cases send request <;> rfl

/-- The result of a check does not depend on the key. -/
theorem check_rekeyed (provider : Provider) (legal : key.all Request.isKey = true)
    {send : Request → Delivery} (ignores : IgnoresKey send) :
    (provider.rekeyed key).check send = (provider.rekeyed none).check send := by
  have same : (provider.rekeyed key).checkRequest.map Request.withoutKey =
      (provider.rekeyed none).checkRequest := Request.make_withoutKey legal
  rcases request_cases same with ⟨reason, made, bare⟩ | ⟨request, made, bare⟩
  · simp only [check, made, bare]
    rfl
  · simp only [check, made, bare, ignores request]
    cases send request <;> rfl

/-- A call shows the same as without a key, but for the header. -/
theorem perform_rekeyed (provider : Provider) (legal : key.all Request.isKey = true)
    {call : PeeredCall} (ignores : IgnoresKey call.2) :
    ((provider.rekeyed key).perform call).withoutKey = (provider.rekeyed none).perform call := by
  obtain ⟨call, send⟩ := call
  cases call with
  | ask question =>
    simp only [perform, SeenCall.withoutKey, ask_rekeyed provider legal ignores question]
    rw [SeenCall.mk.injEq]
    exact ⟨Request.make_withoutKey legal, rfl, rfl⟩
  | check =>
    simp only [perform, SeenCall.withoutKey, check_rekeyed provider legal ignores]
    rw [SeenCall.mk.injEq]
    exact ⟨Request.make_withoutKey legal, rfl, rfl⟩

/-- The header of a call holds the key. -/
theorem authorization_of_perform {provider : Provider}
    (legal : provider.key.all Request.isKey = true) {call : PeeredCall} {request : Request}
    (made : (provider.perform call).request = .ok request) :
    request.authorization = provider.key.map ("Bearer " ++ ·) := by
  obtain ⟨call, send⟩ := call
  cases call with
  | ask question => exact Request.authorization_of_make legal made
  | check => exact Request.authorization_of_make legal made

/-- A call hears only the reply to the request that it shows. -/
theorem perform_congr {provider : Provider} {call : Call} {send other : Request → Delivery}
    (alike : ∀ request, (provider.perform (call, send)).request = .ok request →
      send request = other request) :
    provider.perform (call, send) = provider.perform (call, other) := by
  cases call with
  | ask question =>
    cases made : provider.questionRequest question with
    | error reason => simp only [perform, ask, made]
    | ok request => simp only [perform, ask, made, alike request made]
  | check =>
    cases made : provider.checkRequest with
    | error reason => simp only [perform, check, made]
    | ok request => simp only [perform, check, made, alike request made]

end Provider

/-! ## Two sessions -/

/-- The key that a service takes: the given one, or none. -/
def Service.keyFor (service : Service) (key : String) : Option String :=
  service.keyVariable?.map fun _ => key

/-- A given key is taken before that of the environment. -/
theorem ProviderOptions.resolveKey_withKey (options : ProviderOptions)
    (lookup : String → Option String) (key : String) (service : Service) :
    (options.withKey key).resolveKey lookup service = .ok (service.keyFor key) := by
  cases service <;> rfl

/-- A provider is chosen or refused whatever the key is, and only its key depends on it. -/
theorem Provider.create_withKey (options : ProviderOptions) (lookup : String → Option String) :
    (∃ failure log, ∀ key, create (options.withKey key) lookup = (.error failure, log)) ∨
      ∃ (provider : Provider) (log : Log), provider.service.name = options.provider ∧ ∀ key,
        create (options.withKey key) lookup =
          (.ok (provider.rekeyed (provider.service.keyFor key)), log) := by
  cases chosen : Service.ofName? options.provider with
  | none =>
    refine .inl ⟨.settings ("Unknown provider: " ++ options.provider
      ++ ". Supported: bedrock, openai, ollama"), [], fun key => ?_⟩
    simp only [create, ProviderOptions.withKey, chosen]
  | some service =>
    have name : service.name = options.provider := by
      simpa using List.find?_some chosen
    have made (key : String) : create (options.withKey key) lookup =
        ofService (options.withKey key) lookup service := by
      simp only [create, ProviderOptions.withKey, chosen]
    have places (key : String) :
        addresses (options.withKey key) service = addresses options service := by
      cases service <;> rfl
    cases found : addresses options service with
    | mk result log =>
      cases result with
      | error failure =>
        refine .inl ⟨failure, log, fun key => ?_⟩
        simp only [made, ofService, ProviderOptions.resolveKey_withKey, places, found]
        rfl
      | ok pair =>
        obtain ⟨address, checkAddress⟩ := pair
        refine .inr ⟨⟨service, none, address, checkAddress, options.resolveModel service,
          options.temperature⟩, log, name, fun key => ?_⟩
        simp only [made, ofService, ProviderOptions.resolveKey_withKey, places, found]
        rfl

/-- A service takes a key that can stand in a header, or none. -/
theorem Service.keyFor_legal {key : String} (legal : Request.isKey key = true) (service : Service) :
    (service.keyFor key).all Request.isKey = true := by
  cases service <;> first | exact legal | rfl

/-- Only the local service takes no key. -/
theorem Service.keyFor_eq (service : Service) (key : String) :
    (service.keyFor key).map ("Bearer " ++ ·) =
      if service.name = "ollama" then none else some ("Bearer " ++ key) := by
  cases service <;> rfl

/-- A session with a key shows what the provider shows without one, and the key in the header. -/
theorem ProviderOptions.session_withKey (options : ProviderOptions)
    (lookup : String → Option String) {calls : List PeeredCall}
    (ignores : ∀ call ∈ calls, IgnoresKey call.2) :
    ∃ shown : Session, ∀ key, Request.isKey key = true →
      ((options.withKey key).session lookup calls).withoutKeys = shown ∧
      ((options.withKey key).session lookup calls).Authorizes
        (if options.provider = "ollama" then none else some ("Bearer " ++ key)) := by
  have text (key : String) : (options.withKey key).describe = (options.withKey "").describe := rfl
  rcases Provider.create_withKey options lookup with
    ⟨failure, log, created⟩ | ⟨provider, log, name, created⟩
  · refine ⟨⟨(options.withKey "").describe, log, .error failure, []⟩, fun key _ => ?_⟩
    simp [session, created, text key, Session.withoutKeys, Session.Authorizes]
  · refine ⟨⟨(options.withKey "").describe, log,
      .ok (provider.describe, provider.service.name, provider.model),
      calls.map (provider.rekeyed none).perform⟩, fun key legal => ?_⟩
    have taken := provider.service.keyFor_legal legal
    simp only [session, created, text key]
    constructor
    · have bare : calls.map (SeenCall.withoutKey ∘
          (provider.rekeyed (provider.service.keyFor key)).perform) =
          calls.map (provider.rekeyed none).perform :=
        List.map_congr_left fun call member => provider.perform_rekeyed taken (ignores call member)
      rw [Session.withoutKeys, List.map_map, bare]
      rfl
    · intro seen member request made
      obtain ⟨call, _, rfl⟩ := List.mem_map.mp member
      rw [Provider.authorization_of_perform taken made, ← name]
      exact provider.service.keyFor_eq key

/-- Two sessions with keys that can stand in a header, with the same calls, and with the same
replies for both keys, show the same texts, logs, results and requests but for the header that the
key is for. That header is the key behind the word for it, and a local service sends none. A call
hears nothing but the reply to the request that it shows. -/
theorem ProviderOptions.session_hides_key (options : ProviderOptions)
    (lookup : String → Option String) (calls : List PeeredCall) (key other : String)
    (ignores : ∀ call ∈ calls, IgnoresKey call.2) (legal : Request.isKey key = true)
    (otherLegal : Request.isKey other = true) :
    ((options.withKey key).session lookup calls).withoutKeys =
        ((options.withKey other).session lookup calls).withoutKeys ∧
      ((options.withKey key).session lookup calls).Authorizes
        (if options.provider = "ollama" then none else some ("Bearer " ++ key)) ∧
      ((options.withKey other).session lookup calls).Authorizes
        (if options.provider = "ollama" then none else some ("Bearer " ++ other)) ∧
      ∀ (provider : Provider) (call : Call) (send stranger : Request → Delivery),
        (∀ request, (provider.perform (call, send)).request = .ok request →
          send request = stranger request) →
        provider.perform (call, send) = provider.perform (call, stranger) := by
  obtain ⟨shown, each⟩ := options.session_withKey lookup ignores
  obtain ⟨first, header⟩ := each key legal
  obtain ⟨second, otherHeader⟩ := each other otherLegal
  exact ⟨first.trans second.symm, header, otherHeader, fun _ _ _ _ => Provider.perform_congr⟩

/-- A peer that answers questions and refuses checks. -/
def answersQuestions (request : Request) : Delivery :=
  if request.method = .post then .answered ⟨200, "\x7b\x7d"⟩ else .answered ⟨401, ""⟩

/-- Calls of which the first is answered, the second is refused and the third gets no reply. -/
def threeCalls : List PeeredCall :=
  [(.ask ⟨"p", 1⟩, answersQuestions), (.check, answersQuestions),
    (.ask ⟨"", 0⟩, fun _ => .unanswered)]

/-- Options of a provider with an address of its own. -/
def ProviderOptions.nearby : ProviderOptions :=
  ⟨"openai", none, "", 1, 0, none, some "http://localhost/v1/"⟩

/-- Three calls show two keys in their headers only, and the first call does send its key. -/
theorem ProviderOptions.session_hides_nearby :
    (∀ call ∈ threeCalls, IgnoresKey call.2) ∧ Request.isKey "k" = true ∧
      Request.isKey "ключ" = true ∧
      ((nearby.withKey "k").session (fun _ => none) threeCalls).withoutKeys =
        ((nearby.withKey "ключ").session (fun _ => none) threeCalls).withoutKeys ∧
      ∃ seen request, ((nearby.withKey "k").session (fun _ => none) threeCalls).calls.head? =
        some seen ∧ seen.request = .ok request ∧ request.authorization = some "Bearer k" := by
  have ignores : ∀ call ∈ threeCalls, IgnoresKey call.2 := by
    simp [threeCalls, IgnoresKey, answersQuestions, Request.withoutKey]
  obtain ⟨same, header, -⟩ := session_hides_key nearby (fun _ => none) threeCalls "k" "ключ"
    ignores (by decide) (by decide)
  have bearer : (if nearby.provider = "ollama" then none else some ("Bearer " ++ "k")) =
      some "Bearer k" := by decide
  rw [bearer] at header
  refine ⟨ignores, by decide, by decide, same, ?_⟩
  have chosen : Service.ofName? "openai" = some .openai := by decide
  let provider : Provider := ⟨.openai, some "k", Provider.dropSlashes "http://localhost/v1/",
    Provider.dropSlashes "http://localhost/v1/", "gpt-4o-mini", 0⟩
  have first : ((nearby.withKey "k").session (fun _ => none) threeCalls).calls.head? =
      some (provider.perform (.ask ⟨"p", 1⟩, answersQuestions)) := by
    simp only [session, Provider.create, withKey, nearby, chosen]
    rfl
  obtain ⟨request, sent⟩ : ∃ request, provider.questionRequest ⟨"p", 1⟩ = .ok request :=
    Provider.exists_questionRequest (by decide) (by decide +kernel) ⟨"p", 1⟩
  rw [← Provider.request_perform_ask provider _ answersQuestions] at sent
  have authorized := header _ (List.mem_of_head? first) request sent
  exact ⟨_, request, first, sent, authorized⟩

end SourceOutline
