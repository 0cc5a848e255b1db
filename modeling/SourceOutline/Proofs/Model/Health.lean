import SourceOutline.Model.Health
import SourceOutline.Proofs.Json.Writing
import SourceOutline.Proofs.Model.Completion
import SourceOutline.Proofs.Text.Search

/-!
# Which models a check finds

A model is there if its name is listed, or another tag of it where the name asks for no tag of its
own (`IsModel`). A check finds every such model. But it looks only at how the listed names begin, so
it also takes another model for the one asked for, if the name of this one goes on where the other
ends (`LooksLike`). There is no third way to pass the check (`hasModel_iff`).
-/

namespace SourceOutline

open Json Text

/-! ## Names and tags -/

/-- The tag that is meant where a name has none, with the mark in front. -/
def latestTag : List Char := ":latest".toList

/-- A name without its tag. -/
def modelBase (name : List Char) : List Char := name.takeWhile (· != ':')

/-- The name asks for no tag of its own: it has none, or the one that is meant anyway. -/
def AsksAnyTag (model : List Char) : Prop := ':' ∉ model ∨ model = modelBase model ++ latestTag
  deriving Decidable

/-- The second name is that of the model asked for: the same name, or that of another tag where any
tag will do. -/
def IsModel (model name : List Char) : Prop :=
  name = model ∨ AsksAnyTag model ∧ modelBase name = modelBase model
  deriving Decidable

/-- The second name is the first one without the tag that is meant anyway, however often it is
written. -/
structure Untagged (model bare : List Char) : Prop where
  /-- Only this tag stands behind it. -/
  cut : ∃ count, model = bare ++ (List.replicate count latestTag).flatten
  /-- It does not end with the tag. -/
  stops : ¬ latestTag <:+ bare

/-- The second name begins as the model asked for does, but it is another one. -/
inductive LooksLike (model : List Char) : List Char → Prop where
  /-- A model whose name goes on where the one asked for has its tag. -/
  | longerName {c : Char} {rest : List Char} (anyTag : AsksAnyTag model) (goesOn : c ≠ ':') :
    LooksLike model (modelBase model ++ c :: rest)
  /-- A model whose tag goes on where the one asked for ends. -/
  | longerTag {bare rest : List Char} (ownTag : ¬ AsksAnyTag model) (untagged : Untagged model bare)
    (other : bare ++ rest ≠ model) : LooksLike model (bare ++ rest)

/-! ## Dropping the tag -/

section Endings

variable {ending : List Char} (filled : ending ≠ [])

include filled

/-- What is left behind all endings does not have the ending. -/
theorem dropEndings_spec {fuel : Nat} {text : List Char} (enough : text.length ≤ fuel) :
    (∃ count, text = dropEndings ending fuel text ++ (List.replicate count ending).flatten) ∧
      ¬ ending <:+ dropEndings ending fuel text := by
  induction fuel generalizing text with
  | zero =>
    obtain rfl : text = [] := List.length_eq_zero_iff.mp (Nat.le_zero.mp enough)
    exact ⟨⟨0, rfl⟩, fun ends => filled (List.suffix_nil.mp ends)⟩
  | succ fuel ih =>
    rw [dropEndings]
    split
    next front dropped =>
      have cut := eq_of_dropEnding? dropped
      have positive := List.length_pos_iff.mpr filled
      have lengths := congrArg List.length cut
      rw [List.length_append] at lengths
      obtain ⟨⟨count, rest⟩, stops⟩ := ih (show front.length ≤ fuel by omega)
      refine ⟨⟨count + 1, ?_⟩, stops⟩
      rw [List.replicate_succ', List.flatten_append, List.flatten_singleton, ← List.append_assoc,
        ← rest, cut]
    next kept =>
      refine ⟨⟨0, by simp⟩, fun ends => ?_⟩
      rw [dropEnding?, if_pos (List.isSuffixOf_iff_suffix.mpr ends)] at kept
      contradiction

/-- A text without the ending is what is left of it with any number of endings. -/
theorem dropEndings_append {bare : List Char} (stops : ¬ ending <:+ bare) (count : Nat)
    {fuel : Nat} (enough : (bare ++ (List.replicate count ending).flatten).length ≤ fuel) :
    dropEndings ending fuel (bare ++ (List.replicate count ending).flatten) = bare := by
  induction count generalizing fuel with
  | zero =>
    have kept : dropEnding? ending bare = none := by
      rw [dropEnding?, if_neg (mt List.isSuffixOf_iff_suffix.mp stops)]
    cases fuel <;> simp [dropEndings, kept]
  | succ count ih =>
    have cut : bare ++ (List.replicate (count + 1) ending).flatten =
        bare ++ (List.replicate count ending).flatten ++ ending := by
      rw [List.replicate_succ', List.flatten_append, List.flatten_singleton, List.append_assoc]
    rw [cut, List.length_append] at enough
    have positive := List.length_pos_iff.mpr filled
    obtain ⟨fuel, rfl⟩ : ∃ rest, fuel = rest + 1 := ⟨fuel - 1, by omega⟩
    rw [cut, dropEndings, dropEnding?_append]
    exact ih (by omega)

end Endings

/-- There is one name without the tag. -/
theorem untagged_iff (model bare : List Char) :
    Untagged model bare ↔ bare = dropEndings latestTag model.length model := by
  have filled : latestTag ≠ [] := by decide
  constructor
  · rintro ⟨⟨count, cut⟩, stops⟩
    rw [cut]
    exact (dropEndings_append filled stops count (Nat.le_refl _)).symm
  · rintro rfl
    obtain ⟨cut, stops⟩ := dropEndings_spec filled (Nat.le_refl model.length)
    exact ⟨cut, stops⟩

/-- Two such names are one. -/
theorem Untagged.unique {model left right : List Char} (first : Untagged model left)
    (second : Untagged model right) : left = right := by
  rw [(untagged_iff model left).mp first, (untagged_iff model right).mp second]

/-- A name begins with what is left of it without the tag. -/
theorem Untagged.starts {model bare : List Char} (untagged : Untagged model bare) :
    bare <+: model := by
  obtain ⟨count, cut⟩ := untagged.cut
  exact ⟨_, cut.symm⟩

/-! ## How names begin -/

/-- The base of a name holds no mark of a tag. -/
theorem colon_not_mem_modelBase (name : List Char) : ':' ∉ modelBase name := by
  intro member
  simpa using List.mem_takeWhile_imp member

/-- A name without a tag is all of its name. -/
theorem modelBase_eq_self {name : List Char} (noTag : ':' ∉ name) : modelBase name = name := by
  have whole : modelBase (name ++ []) = name := takeWhile_ne_append noTag (by simp)
  rwa [List.append_nil] at whole

/-- What stands in front of a tag is the name without it. -/
theorem modelBase_append {base : List Char} (noTag : ':' ∉ base) (tag : List Char) :
    modelBase (base ++ ':' :: tag) = base :=
  takeWhile_ne_append noTag (by simp)

/-- A name goes on if a character other than the mark of a tag stands behind its beginning. -/
theorem modelBase_append_ne (base : List Char) {c : Char} (goesOn : c ≠ ':') (rest : List Char)
    (noTag : ':' ∉ base) : modelBase (base ++ c :: rest) ≠ base := by
  have all := List.takeWhile_eq_self_iff.mp (modelBase_eq_self noTag)
  rw [modelBase, List.takeWhile_append_of_pos all,
    List.takeWhile_cons_of_pos (by simpa using goesOn)]
  simp

/-- A name that begins with a base has this base, or goes on behind it. -/
theorem prefix_iff_modelBase {base : List Char} (noTag : ':' ∉ base) (name : List Char) :
    base <+: name ↔
      modelBase name = base ∨ ∃ c rest, c ≠ ':' ∧ name = base ++ c :: rest := by
  constructor
  · rintro ⟨rest, rfl⟩
    cases rest with
    | nil =>
      rw [List.append_nil]
      exact .inl (modelBase_eq_self noTag)
    | cons c rest =>
      by_cases mark : c = ':'
      · exact .inl (mark ▸ modelBase_append noTag rest)
      · exact .inr ⟨c, rest, mark, rfl⟩
  · rintro (rfl | ⟨c, rest, _, rfl⟩)
    · exact List.takeWhile_prefix _
    · exact List.prefix_append _ _

/-- A name that asks for no tag of its own is its base without the tag. -/
theorem AsksAnyTag.untagged {model : List Char} (anyTag : AsksAnyTag model) :
    Untagged model (modelBase model) := by
  refine ⟨?_, fun ends => colon_not_mem_modelBase model (ends.subset (by decide))⟩
  rcases anyTag with noTag | latest
  · exact ⟨0, by simp [modelBase_eq_self noTag]⟩
  · exact ⟨1, by simpa using latest⟩

/-- A listed name begins as the model does if it is the model, or only looks like it. -/
theorem prefix_iff_isModel_or_looksLike {model bare : List Char} (untagged : Untagged model bare)
    (name : List Char) : bare <+: name ↔ IsModel model name ∨ LooksLike model name := by
  by_cases anyTag : AsksAnyTag model
  · rw [untagged.unique anyTag.untagged, prefix_iff_modelBase (colon_not_mem_modelBase model)]
    constructor
    · rintro (base | ⟨c, rest, goesOn, rfl⟩)
      · exact .inl (.inr ⟨anyTag, base⟩)
      · exact .inr (.longerName anyTag goesOn)
    · rintro ((rfl | ⟨_, base⟩) | ⟨_, goesOn⟩ | ⟨ownTag, _⟩)
      · exact .inl rfl
      · exact .inl base
      · exact .inr ⟨_, _, goesOn, rfl⟩
      · exact absurd anyTag ownTag
  · constructor
    · rintro ⟨rest, rfl⟩
      by_cases same : bare ++ rest = model
      · exact .inl (.inl same)
      · exact .inr (.longerTag anyTag untagged same)
    · rintro ((rfl | ⟨anyTag', _⟩) | ⟨anyTag', _⟩ | ⟨_, other⟩)
      · exact untagged.starts
      · exact absurd anyTag' anyTag
      · exact absurd anyTag' anyTag
      · rw [untagged.unique other]
        exact List.prefix_append _ _

/-- A name that looks like the model is not the model. -/
theorem LooksLike.not_isModel {model name : List Char} (looks : LooksLike model name) :
    ¬ IsModel model name := by
  cases looks with
  | @longerName c rest anyTag goesOn =>
    have longer := modelBase_append_ne _ goesOn rest (colon_not_mem_modelBase model)
    rintro (same | ⟨_, base⟩)
    · exact longer (congrArg modelBase same)
    · exact longer base
  | longerTag ownTag _ other =>
    rintro (same | ⟨anyTag, _⟩)
    · exact other same
    · exact ownTag anyTag

/-- A name that begins as the model does looks like it if it is not the model. -/
theorem looksLike_iff (model name : List Char) :
    LooksLike model name ↔
      dropEndings latestTag model.length model <+: name ∧ ¬ IsModel model name := by
  have begins := prefix_iff_isModel_or_looksLike ((untagged_iff model _).mpr rfl) name
  constructor
  · exact fun looks => ⟨begins.mpr (.inr looks), looks.not_isModel⟩
  · rintro ⟨starts, other⟩
    exact (begins.mp starts).resolve_left other

/-- Whether a name looks like a model can be tested. -/
instance (model name : List Char) : Decidable (LooksLike model name) :=
  decidable_of_iff _ (looksLike_iff model name).symm

/-- A model is found if one of the names is the model or looks like it. -/
theorem hasModel_iff (model : String) (names : List String) :
    hasModel model names = true ↔
      ∃ name ∈ names, IsModel model.toList name.toList ∨ LooksLike model.toList name.toList := by
  have untagged := (untagged_iff model.toList _).mpr rfl
  simp only [← prefix_iff_isModel_or_looksLike untagged, hasModel, ← String.length_toList,
    List.any_eq_true, Bool.or_eq_true, beq_iff_eq, List.isPrefixOf_iff_prefix]
  refine exists_congr fun name => and_congr_right fun _ => ⟨?_, Or.inr⟩
  rintro (rfl | begins)
  · exact untagged.starts
  · exact begins

/-! ## Listed models -/

/-- The reply lists models with these names, or it has no list. -/
inductive ModelNames : Json → List String → Prop where
  | models {json : Json} {items : List Json} {names : List String}
    (field : FieldAt "models" json (some (.array items)))
    (each : List.Forall₂ (fun item name => FieldAt "name" item (some (.string name))) items names) :
    ModelNames json names
  | noModels {json : Json} (field : FieldAt "models" json none) : ModelNames json []

/-- The name of a listed model is read. -/
theorem modelName_iff (model : Json) (name : String) :
    (match model.record? ["name"] with
      | some [some name] => name.text?
      | _ => none) = some name ↔ FieldAt "name" model (some (.string name)) := by
  constructor
  · intro found
    split at found
    next value fields =>
      obtain ⟨_, same, stands, -⟩ := (record?_eq_some_iff _ _ _).mp fields
      cases same
      exact (text?_eq_some_iff value name).mp found ▸ stands
    · contradiction
  · intro stands
    have fields : model.record? ["name"] = some [some (.string name)] := by
      refine (record?_eq_some_iff _ _ _).mpr ⟨_, rfl, stands, ?_⟩
      rintro rfl
      cases stands
    rw [fields]
    rfl

/-- The names of listed models are read. -/
theorem modelNames?_eq_some_iff (json : Json) (names : List String) :
    modelNames? json = some names ↔ ModelNames json names := by
  refine (openList_eq_some_iff "models" modelName_iff json names).trans ?_
  constructor
  · rintro (⟨items, field, each⟩ | ⟨field, rfl⟩)
    · exact .models field each
    · exact .noModels field
  · rintro (⟨field, each⟩ | field)
    · exact .inl ⟨_, field, each⟩
    · exact .inr ⟨field, rfl⟩

/-- The body is JSON that lists models with these names. -/
def ListsModels (body : String) (names : List String) : Prop :=
  ∃ json, IsText body.toList json ∧ ModelNames json names

/-- A body that lists no models is read as if it listed none. -/
theorem exists_listed_iff (body : String) (found : String → Prop) :
    (∃ name ∈ ((parse? body.toList).bind modelNames?).getD [], found name) ↔
      ∃ names, ListsModels body names ∧ ∃ name ∈ names, found name := by
  have listed (names : List String) :
      (parse? body.toList).bind modelNames? = some names ↔ ListsModels body names := by
    simp only [Option.bind_eq_some_iff, parse?_eq_some_iff, modelNames?_eq_some_iff, ListsModels]
  constructor
  · intro some
    cases read : (parse? body.toList).bind modelNames? with
    | none => simp [read] at some
    | some names =>
      rw [read] at some
      exact ⟨names, (listed names).mp read, some⟩
  · rintro ⟨names, lists, some⟩
    rwa [(listed names).mpr lists]

namespace Provider

/-- A check whose request is answered is decided by the reply. -/
theorem check_of_answered {provider : Provider} {send : Request → Delivery} {request : Request}
    {reply : Reply} (sent : provider.checkRequest = .ok request)
    (answered : send request = .answered reply) :
    (provider.check send).1 = (reply.isSuccess && (provider.readCheck reply.body).1) := by
  simp only [check, sent, answered]
  cases reply.isSuccess <;> rfl

/-- A local provider is in order if its model is found among those that the reply lists. -/
theorem readCheck_ollama {provider : Provider} (isLocal : provider.service = .ollama)
    (body : String) :
    (provider.readCheck body).1 =
      hasModel provider.model (((parse? body.toList).bind modelNames?).getD []) := by
  simp only [readCheck, isLocal]
  split
  next found => rw [found]
  next missing => rw [Bool.not_eq_true _ |>.mp missing]

/-- A model is found exactly if one of the listed names is the model or looks like it, and no name
does both. So the model is found exactly if it is there, unless some listed name looks like it. A
check of a local provider of the model whose request is answered is passed exactly if the reply is a
success that lists such a name. -/
theorem check_finds_models_and_lookalikes (model : String) :
    (∀ names, hasModel model names = true ↔
      ∃ name ∈ names, IsModel model.toList name.toList ∨ LooksLike model.toList name.toList) ∧
    (∀ name, LooksLike model.toList name → ¬ IsModel model.toList name) ∧
    (∀ names : List String, (∀ name ∈ names, ¬ LooksLike model.toList name.toList) →
      (hasModel model names = true ↔ ∃ name ∈ names, IsModel model.toList name.toList)) ∧
    ∀ (provider : Provider) (send : Request → Delivery) (request : Request) (reply : Reply),
      provider.service = .ollama → provider.model = model →
      provider.checkRequest = .ok request → send request = .answered reply →
        ((provider.check send).1 = true ↔ (200 ≤ reply.status ∧ reply.status ≤ 299) ∧
          ∃ names, ListsModels reply.body names ∧ ∃ name ∈ names,
            IsModel model.toList name.toList ∨ LooksLike model.toList name.toList) := by
  refine ⟨hasModel_iff model, fun _ => LooksLike.not_isModel, ?_, ?_⟩
  · intro names plain
    rw [hasModel_iff]
    exact exists_congr fun name => and_congr_right fun listed => or_iff_left (plain name listed)
  · rintro provider send request reply isLocal rfl sent answered
    rw [check_of_answered sent answered, readCheck_ollama isLocal, Bool.and_eq_true, hasModel_iff,
      exists_listed_iff]
    simp [Reply.isSuccess]

/-- A provider on this machine with a model. -/
def ofModel (model : String) : Provider := { nearby with service := .ollama, key := none, model }

/-- Every check of it is sent. -/
theorem exists_checkRequest_ofModel (model : String) :
    ∃ request, (ofModel model).checkRequest = .ok request := by
  let address := "http://localhost/v1" ++ "/api/tags"
  have reachable : (Request.target address).isOk = true := by decide +kernel
  have made : (ofModel model).checkRequest =
      (Request.target address).map fun url => ⟨.get, url, none, "*/*", none⟩ :=
    @Request.make_eq none rfl .get address "*/*" none
  rw [made]
  cases found : Request.target address with
  | ok url => exact ⟨_, rfl⟩
  | error reason => simp [found, Except.isOk, Except.toBool] at reachable

end Provider

/-- A reply that lists models. -/
def Reply.listing (names : List String) : Reply :=
  ⟨200, (Json.object [("models",
    .array (names.map fun name => .object [("name", .string name)]))]).compact⟩

/-- The models that it lists. -/
theorem listsModels_listing (names : List String) :
    ListsModels (Reply.listing names).body names := by
  have plain : Plain (.object [("models",
      .array (names.map fun name => .object [("name", .string name)]))]) := by
    refine .object fun entry member => ?_
    rw [List.mem_singleton.mp member]
    exact plain_array_map (fun name => .object (by simp [Plain.string])) names
  refine ⟨_, (parse?_eq_some_iff _ _).mp plain.parse?_compact, .models (.member rfl) ?_⟩
  rw [List.forall₂_map_left_iff]
  exact List.forall₂_same.mpr fun name _ => .member rfl

namespace Provider

/-- Another tag of a model is found where any tag will do, among names that do not look like it. A
name that goes on is found too, in place of the model. -/
theorem check_otherTag :
    (∀ name ∈ ["qwen2:7b", "llama3:8b"], ¬ LooksLike "llama3:latest".toList name.toList) ∧
    hasModel "llama3:latest" ["qwen2:7b", "llama3:8b"] = true ∧
    LooksLike "llama3:8b".toList "llama3:8b-text".toList ∧
    ((ofModel "llama3:8b").check fun _ => .answered (.listing ["llama3:8b-text"])).1 = true := by
  obtain ⟨_, _, plainly, _⟩ := check_finds_models_and_lookalikes "llama3:latest"
  obtain ⟨_, _, _, checked⟩ := check_finds_models_and_lookalikes "llama3:8b"
  have plain : ∀ name ∈ ["qwen2:7b", "llama3:8b"],
      ¬ LooksLike "llama3:latest".toList name.toList := by decide
  obtain ⟨request, sent⟩ := exists_checkRequest_ofModel "llama3:8b"
  have looks : LooksLike "llama3:8b".toList "llama3:8b-text".toList := by decide
  exact ⟨plain, (plainly _ plain).mpr (by decide), looks,
    (checked _ _ request _ rfl rfl sent rfl).mpr
      ⟨by decide, _, listsModels_listing _, _, List.mem_cons_self, .inr looks⟩⟩

/-- A model that is not there is found if the name of another one goes on behind its own. -/
theorem check_longerName :
    ¬ (∃ name ∈ ["llama3.1:8b"], IsModel "llama3".toList name.toList) ∧
    hasModel "llama3" ["llama3.1:8b"] = true ∧
    ((ofModel "llama3").check fun _ => .answered (.listing ["llama3.1:8b"])).1 = true := by
  refine ⟨by decide, by decide, ?_⟩
  obtain ⟨request, sent⟩ := exists_checkRequest_ofModel "llama3"
  rw [check_of_answered sent rfl, readCheck_ollama rfl]
  decide +kernel

end Provider

end SourceOutline
