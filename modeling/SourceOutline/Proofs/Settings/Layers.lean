import Mathlib.Data.List.Induction
import SourceOutline.Proofs.Text.Trim
import SourceOutline.Proofs.Toml.Keys

/-!
# Layers of settings

Each field of the settings has a path of keys. In layers that say nothing of the wrong kind at these
paths, a field has the value of the highest layer that says something at its path, whatever the
layers say about other fields.
-/

namespace SourceOutline.Toml.Value

/-! ## Stacked tables -/

/-- The value at a path of keys. -/
def at? : List String → Value → Option Value
  | [], value => some value
  | key :: path, .table entries => (find? key entries).bind (at? path)
  | _ :: _, _ => none

/-- Tables lead along the path as far as there is something, and what stands at its end fits. -/
def holds (fits : Value → Bool) : List String → Value → Bool
  | [], value => fits value
  | key :: path, .table entries => (find? key entries).all (holds fits path)
  | _ :: _, _ => false

/-- One value over another one, where there are such values. -/
def stack? : Option Value → Option Value → Option Value
  | some upper, some lower => some (upper.stack lower)
  | some upper, none => some upper
  | none, lower => lower

/-- The first entry of a key is found. -/
theorem find?_cons (key other : String) (value : Value) (entries : List (String × Value)) :
    find? key ((other, value) :: entries) =
      if other = key then some value else find? key entries := by
  rw [find?, List.find?_cons, find?]
  by_cases same : other = key
  · simp [same]
  · rw [beq_false_of_ne same, if_neg same]

/-- Nothing is found for a key that no entry has. -/
theorem find?_eq_none {key : String} {entries : List (String × Value)}
    (fresh : key ∉ entries.map (·.1)) : find? key entries = none := by
  rw [find?, Option.map_eq_none_iff, List.find?_eq_none]
  intro entry listed same
  exact fresh (List.mem_map.mpr ⟨entry, listed, eq_of_beq same⟩)

/-- What is put is found, and nothing else changes. -/
theorem find?_put (key other : String) (value : Value) (entries : List (String × Value)) :
    find? key (put other value entries) =
      if other = key then some value else find? key entries := by
  fun_induction put other value entries with
  | case1 => exact find?_cons key other value []
  | case2 first old rest same =>
    rw [eq_of_beq same, find?_cons, find?_cons]
    split <;> rfl
  | case3 first old rest different ih =>
    rw [find?_cons, find?_cons, ih]
    split
    · next here => rw [if_neg fun same => different (beq_iff_eq.mpr (here.trans same.symm))]
    · rfl

/-- At each key, what the upper entries say is put over what the lower ones say. -/
theorem find?_stackEntries {upper : List (String × Value)} (keys : (upper.map (·.1)).Nodup)
    (key : String) (lower : List (String × Value)) :
    find? key (stackEntries upper lower) = stack? (find? key upper) (find? key lower) := by
  induction upper generalizing lower with
  | nil =>
    rw [stackEntries]
    rfl
  | cons entry upper ih =>
    obtain ⟨other, value⟩ := entry
    obtain ⟨fresh, later⟩ := List.nodup_cons.mp keys
    have step : ∃ joined, stack? (some value) (find? other lower) = some joined ∧
        stackEntries ((other, value) :: upper) lower =
          stackEntries upper (put other joined lower) := by
      rw [stackEntries]
      cases find? other lower with
      | none => exact ⟨value, rfl, rfl⟩
      | some below => exact ⟨value.stack below, rfl, rfl⟩
    obtain ⟨joined, stacked, step⟩ := step
    rw [step, ih later, find?_put, find?_cons]
    by_cases same : other = key
    · subst same
      rw [if_pos rfl, if_pos rfl, find?_eq_none fresh, stacked]
      rfl
    · rw [if_neg same, if_neg same]

/-- Along a path on which both values are as they should be, the upper one is asked first. -/
theorem at?_stack {fits : Value → Bool}
    (leaf : ∀ value, fits value = true → ∀ lower, value.stack lower = value) {path : List String}
    {upper lower : Value} (distinct : upper.Distinct) (above : upper.holds fits path = true)
    (below : lower.holds fits path = true) :
    (upper.stack lower).at? path = (upper.at? path).or (lower.at? path) ∧
      (upper.stack lower).holds fits path = true := by
  induction path generalizing upper lower with
  | nil =>
    rw [leaf upper above lower]
    exact ⟨rfl, above⟩
  | cons key path ih =>
    cases upper <;> try contradiction
    cases lower <;> try contradiction
    case table upper lower =>
      have unique := distinct_table_iff.mp distinct
      rw [holds] at above below
      rw [stack, at?, at?, at?, holds, find?_stackEntries unique.keys]
      cases high : find? key upper with
      | none => exact ⟨rfl, below⟩
      | some first =>
        rw [high] at above
        cases low : find? key lower with
        | none =>
          rw [Option.bind_none, Option.or_none]
          exact ⟨rfl, above⟩
        | some second =>
          rw [low] at below
          exact ih (unique.found high) above below

/-- What stands at the end of a path fits. -/
theorem fits_of_at? {fits : Value → Bool} {path : List String} {value found : Value}
    (held : value.holds fits path = true) (there : value.at? path = some found) :
    fits found = true := by
  induction path generalizing value with
  | nil => exact Option.some.inj there ▸ held
  | cons key path ih =>
    cases value <;> try contradiction
    case table entries =>
      rw [holds] at held
      obtain ⟨inner, next, later⟩ := Option.bind_eq_some_iff.mp (there : _ = some found)
      rw [next] at held
      exact ih held later

end SourceOutline.Toml.Value

namespace SourceOutline.Settings

open Toml (Value)

/-! ## Fields -/

/-- A field of the settings. -/
inductive Field where
  | version | window | maxFileSize | labelLimit
  | provider | model | region | address | timeout | temperature
  | summaryTokens | conversionTokens | concurrency
  deriving DecidableEq, Repr

namespace Field

/-- All fields. -/
def all : List Field :=
  [version, window, maxFileSize, labelLimit, provider, model, region, address, timeout,
    temperature, summaryTokens, conversionTokens, concurrency]

/-- Every field is listed. -/
theorem mem_all (field : Field) : field ∈ all := by
  cases field <;> decide

/-- What a field holds. -/
def Content : Field → Type
  | version | provider | model | region => String
  | address => Option String
  | temperature => Float32
  | window | maxFileSize | labelLimit | timeout | summaryTokens | conversionTokens
  | concurrency => Nat

/-- The keys that lead to a field. -/
def path : Field → List String
  | version => ["version"]
  | window => ["analysis", "heuristic_window"]
  | maxFileSize => ["analysis", "max_file_size"]
  | labelLimit => ["analysis", "label_param_limit"]
  | provider => ["llm", "provider"]
  | model => ["llm", "model"]
  | region => ["llm", "region"]
  | address => ["llm", "api_base"]
  | timeout => ["llm", "timeout_secs"]
  | temperature => ["llm", "temperature"]
  | summaryTokens => ["llm", "summary_max_tokens"]
  | conversionTokens => ["llm", "translate_max_tokens"]
  | concurrency => ["llm", "concurrency"]

/-- A value as the content of a field, if it is of the right kind. -/
def read : (field : Field) → Value → Option field.Content
  | version | provider | model | region => Value.text?
  | address => fun value => value.text?.map some
  | temperature => Value.single?
  | window | maxFileSize | labelLimit | timeout | concurrency => Value.word?
  | summaryTokens | conversionTokens => Value.halfWord?

/-- The content of a field in settings. -/
def get (settings : Settings) : (field : Field) → field.Content
  | version => settings.version
  | window => settings.analysis.window
  | maxFileSize => settings.analysis.maxFileSize
  | labelLimit => settings.analysis.labelLimit
  | provider => settings.model.provider
  | model => settings.model.model
  | region => settings.model.region
  | address => settings.model.address
  | timeout => settings.model.timeout
  | temperature => settings.model.temperature
  | summaryTokens => settings.model.summaryTokens
  | conversionTokens => settings.model.conversionTokens
  | concurrency => settings.model.concurrency

/-- What a layer says about a field. -/
def value? (field : Field) (layer : Value) : Option field.Content :=
  (layer.at? field.path).bind field.read

/-- What a layer says about a field, if anything, is of the right kind. -/
def fits (field : Field) (layer : Value) : Bool :=
  layer.holds (fun value => (field.read value).isSome) field.path

end Field

/-- The settings with the given contents of the fields. -/
def ofFields (content : (field : Field) → field.Content) : Settings where
  version := content .version
  analysis := {
    window := content .window
    maxFileSize := content .maxFileSize
    labelLimit := content .labelLimit }
  model := {
    provider := content .provider
    model := content .model
    region := content .region
    address := content .address
    timeout := content .timeout
    temperature := content .temperature
    summaryTokens := content .summaryTokens
    conversionTokens := content .conversionTokens
    concurrency := content .concurrency }

/-- Each field has the content that the settings were made with. -/
@[simp]
theorem get_ofFields (content : (field : Field) → field.Content) (field : Field) :
    field.get (ofFields content) = content field := by
  cases field <;> rfl

/-- All that a layer says about any field is of the right kind. It may say more. -/
def WellTyped (layer : Value) : Prop := ∀ field : Field, field.fits layer = true

/-- Whether a layer is well typed can be tested. -/
instance (layer : Value) : Decidable (WellTyped layer) :=
  decidable_of_iff (∀ field ∈ Field.all, field.fits layer = true)
    ⟨fun fit field => fit field field.mem_all, fun typed field _ => typed field⟩

/-- What reads as the content of a field is never joined with what is below it. -/
theorem stack_of_read {field : Field} {value : Value} (reads : (field.read value).isSome = true)
    (lower : Value) : value.stack lower = value := by
  have plain : (∀ entries, value ≠ .table entries) ∧ ∀ literal, value ≠ .date literal := by
    constructor <;> rintro _ rfl <;> cases field <;> contradiction
  cases value with
  | table entries => exact absurd rfl (plain.1 entries)
  | date literal => exact absurd rfl (plain.2 literal)
  | _ => simp [Value.stack]

/-- Of layers put together, the highest that says something about a field is asked. -/
theorem value?_join {layers : List Value} (distinct : ∀ layer ∈ layers, layer.Distinct)
    (typed : ∀ layer ∈ layers, WellTyped layer) (field : Field) :
    field.value? (join layers) = layers.reverse.findSome? field.value? ∧
      field.fits (join layers) = true := by
  induction layers using List.reverseRecOn with
  | nil => cases field <;> exact ⟨rfl, rfl⟩
  | append_singleton layers top ih =>
    obtain ⟨first, fit⟩ := ih (fun layer listed => distinct layer (by simp [listed]))
      fun layer listed => typed layer (by simp [listed])
    have topFits := typed top (by simp) field
    have joined : join (layers ++ [top]) = top.stack (join layers) := by
      rw [join, List.foldl_append]
      rfl
    obtain ⟨asked, stays⟩ := Value.at?_stack (fun _ reads => stack_of_read reads)
      (distinct top (by simp)) topFits fit
    rw [joined]
    refine ⟨?_, stays⟩
    rw [List.reverse_append, List.reverse_singleton, List.singleton_append, List.findSome?_cons,
      ← first, Field.value?, asked, Field.value?]
    cases found : top.at? field.path with
    | none => rfl
    | some value =>
      obtain ⟨content, reads⟩ := Option.isSome_iff_exists.mp (Value.fits_of_at? topFits found)
      rw [Option.some_or, Option.bind_some, reads]

/-! ## Reading the joined layers -/

/-- A field that is missing or of the right kind is read. -/
theorem fieldOr_eq {α β : Type} {read : α → Option β} {found : Option α}
    (fits : (found.all fun value => (read value).isSome) = true) (default : β) :
    fieldOr read default found = some ((found.bind read).getD default) := by
  cases found with
  | none => rfl
  | some value =>
    obtain ⟨content, reads⟩ := Option.isSome_iff_exists.mp fits
    rw [fieldOr, Option.bind_some, reads, Option.getD_some]

/-- The content of a field by what a layer says, or its default. -/
def contentOr (layer : Value) (field : Field) : field.Content :=
  (field.value? layer).getD (field.get {})

/-- A field outside the sections is read where it stands. -/
theorem read_outermost {entries : List (String × Value)} {key : String} {field : Field}
    (path : field.path = [key]) (fits : field.fits (.table entries) = true) :
    fieldOr field.read (field.get {}) (Value.find? key entries) =
      some (contentOr (.table entries) field) := by
  rw [Field.fits, path, Value.holds] at fits
  rw [fieldOr_eq fits, contentOr, Field.value?, path, Value.at?, Option.bind_assoc]
  rfl

section Sections

variable {entries : List (String × Value)} {group key : String} {field : Field}
  (path : field.path = [group, key])

include path

/-- A field of a section that is missing has its default. -/
theorem contentOr_of_find?_eq_none (missing : Value.find? group entries = none) :
    contentOr (.table entries) field = field.get {} := by
  rw [contentOr, Field.value?, path, Value.at?, missing]
  rfl

variable (fits : field.fits (.table entries) = true)

include fits

/-- A section that is there is a table. -/
theorem section_of_fits {value : Value} (found : Value.find? group entries = some value) :
    ∃ inner, value = .table inner := by
  rw [Field.fits, path, Value.holds, found] at fits
  cases value with
  | table inner => exact ⟨inner, rfl⟩
  | _ => contradiction

/-- A field is read in the section that is there. -/
theorem read_section {inner : List (String × Value)}
    (found : Value.find? group entries = some (.table inner)) :
    fieldOr field.read (field.get {}) (Value.find? key inner) =
      some (contentOr (.table entries) field) := by
  rw [Field.fits, path, Value.holds, found] at fits
  rw [fieldOr_eq fits, contentOr, Field.value?, path, Value.at?, found, Option.bind_some,
    Value.at?, Option.bind_assoc]
  rfl

end Sections

section Reading

variable {entries : List (String × Value)} (typed : WellTyped (.table entries))

include typed

/-- The section on sources gives the fields on sources. -/
theorem analysis_eq : fieldOr AnalysisSettings.ofValue? {} (Value.find? "analysis" entries) =
    some (ofFields (contentOr (.table entries))).analysis := by
  cases found : Value.find? "analysis" entries with
  | none =>
    have missing {key : String} (field : Field) (path : field.path = ["analysis", key]) :=
      contentOr_of_find?_eq_none path found
    rw [fieldOr, ofFields, missing .window rfl, missing .maxFileSize rfl, missing .labelLimit rfl]
    rfl
  | some value =>
    obtain ⟨inner, rfl⟩ := section_of_fits rfl (typed .window) found
    have window : fieldOr Value.word? 20 (Value.find? "heuristic_window" inner) = _ :=
      read_section rfl (typed .window) found
    have size : fieldOr Value.word? 1048576 (Value.find? "max_file_size" inner) = _ :=
      read_section rfl (typed .maxFileSize) found
    have limit : fieldOr Value.word? 3 (Value.find? "label_param_limit" inner) = _ :=
      read_section rfl (typed .labelLimit) found
    rw [fieldOr, AnalysisSettings.ofValue?]
    simp only [Value.fields?, AnalysisSettings.keys, List.map_cons, List.map_nil, window, size,
      limit, Option.bind_eq_bind]
    rfl

/-- The section on the model gives the fields on the model. -/
theorem model_eq : fieldOr ModelSettings.ofValue? {} (Value.find? "llm" entries) =
    some (ofFields (contentOr (.table entries))).model := by
  cases found : Value.find? "llm" entries with
  | none =>
    have missing {key : String} (field : Field) (path : field.path = ["llm", key]) :=
      contentOr_of_find?_eq_none path found
    rw [fieldOr, ofFields, missing .provider rfl, missing .model rfl, missing .region rfl,
      missing .address rfl, missing .timeout rfl, missing .temperature rfl,
      missing .summaryTokens rfl, missing .conversionTokens rfl, missing .concurrency rfl]
    rfl
  | some value =>
    obtain ⟨inner, rfl⟩ := section_of_fits rfl (typed .provider) found
    have provider : fieldOr Value.text? "bedrock" (Value.find? "provider" inner) = _ :=
      read_section rfl (typed .provider) found
    have model : fieldOr Value.text? "amazon.titan-text-lite-v1" (Value.find? "model" inner) = _ :=
      read_section rfl (typed .model) found
    have region : fieldOr Value.text? "us-west-2" (Value.find? "region" inner) = _ :=
      read_section rfl (typed .region) found
    have address : fieldOr (fun value => value.text?.map some) none
        (Value.find? "api_base" inner) = _ := read_section rfl (typed .address) found
    have timeout : fieldOr Value.word? 60 (Value.find? "timeout_secs" inner) = _ :=
      read_section rfl (typed .timeout) found
    have temperature : fieldOr Value.single? 0.0 (Value.find? "temperature" inner) = _ :=
      read_section rfl (typed .temperature) found
    have summary : fieldOr Value.halfWord? 50 (Value.find? "summary_max_tokens" inner) = _ :=
      read_section rfl (typed .summaryTokens) found
    have conversion : fieldOr Value.halfWord? 400 (Value.find? "translate_max_tokens" inner) = _ :=
      read_section rfl (typed .conversionTokens) found
    have concurrency : fieldOr Value.word? 4 (Value.find? "concurrency" inner) = _ :=
      read_section rfl (typed .concurrency) found
    rw [fieldOr, ModelSettings.ofValue?]
    simp only [Value.fields?, ModelSettings.keys, List.map_cons, List.map_nil, provider, model,
      region, address, timeout, temperature, summary, conversion, concurrency,
      Option.bind_eq_bind]
    rfl

/-- Each field of the settings is what the layer says about it, or its default. -/
theorem ofValue?_table :
    ofValue? (.table entries) = some (ofFields (contentOr (.table entries))) := by
  have version : fieldOr Value.text? "1.0" (Value.find? "version" entries) = _ :=
    read_outermost rfl (typed .version)
  rw [ofValue?]
  simp only [Value.fields?, keys, List.map_cons, List.map_nil, version, analysis_eq typed,
    model_eq typed, Option.bind_eq_bind, Option.bind_some]
  rfl

end Reading

/-- Layers that say nothing of the wrong kind give settings in which every field has the value of
the highest layer that sets it, if these settings are valid. -/
theorem ofLayers_eq {layers : List Value} (distinct : ∀ layer ∈ layers, layer.Distinct)
    (typed : ∀ layer ∈ layers, WellTyped layer) :
    ofLayers layers = (ofFields fun field =>
      (layers.reverse.findSome? field.value?).getD (field.get {})).validate := by
  have joined := value?_join distinct typed
  have fit : WellTyped (join layers) := fun field => (joined field).2
  have contents : contentOr (join layers) = fun field =>
      (layers.reverse.findSome? field.value?).getD (field.get {}) := by
    funext field
    rw [contentOr, (joined field).1]
  obtain ⟨entries, table⟩ : ∃ entries, join layers = .table entries := by
    have outermost := fit .version
    cases shape : join layers with
    | table entries => exact ⟨entries, rfl⟩
    | _ =>
      rw [shape] at outermost
      contradiction
  rw [← contents, ofLayers, table, ofValue?_table (table ▸ fit)]

/-! ## Files and the environment -/

/-- What a file says about a field. -/
def Field.ofFile? (field : Field) (file : File) : Option field.Content :=
  file.content.layer?.bind field.value?

/-- What the highest of the layers says about a field: the environment comes first, with its last
variable, then the file of the project and then that of all projects. -/
def highest? (everywhere here : Option File) (environment : List (String × String))
    (field : Field) : Option field.Content :=
  ((Environment.layers environment).reverse.findSome? field.value?).or
    ((here.bind field.ofFile?).or (everywhere.bind field.ofFile?))

/-- The file can be read and says nothing of the wrong kind. -/
def File.WellTyped (file : File) : Prop :=
  ∃ layer, file.content.layer? = some layer ∧ Settings.WellTyped layer

/-- Whether a file is well typed can be tested. -/
instance (file : File) : Decidable file.WellTyped :=
  decidable_of_iff (∃ layer ∈ file.content.layer?, Settings.WellTyped layer)
    (exists_congr fun _ => Iff.rfl)

/-- Files that can be read are layers. -/
theorem exists_layers {files : List File} (typed : ∀ file ∈ files, file.WellTyped) :
    ∃ layers, files.mapM (·.content.layer?) = some layers ∧
      (∀ layer ∈ layers, layer.Distinct ∧ WellTyped layer) ∧
      ∀ field : Field, layers.reverse.findSome? field.value? =
        files.reverse.findSome? field.ofFile? := by
  induction files with
  | nil => exact ⟨[], rfl, by simp, fun _ => rfl⟩
  | cons file files ih =>
    obtain ⟨⟨layer, read, fits⟩, others⟩ := List.forall_mem_cons.mp typed
    obtain ⟨layers, all, fine, said⟩ := ih others
    refine ⟨layer :: layers, by simp [read, all],
      List.forall_mem_cons.mpr ⟨⟨FileContent.distinct_of_layer? read, fits⟩, fine⟩, fun field => ?_⟩
    have last : field.ofFile? file = field.value? layer := by
      rw [Field.ofFile?, read, Option.bind_some]
    rw [List.reverse_cons, List.reverse_cons, List.findSome?_append, List.findSome?_append, said,
      List.findSome?_singleton, List.findSome?_singleton, last]

section Load

variable {everywhere here : Option File} {environment : List (String × String)}
  (files : ∀ file ∈ everywhere.toList ++ here.toList, file.WellTyped)
  (assigned : ∀ layer ∈ Environment.layers environment, WellTyped layer)

include files assigned

/-- Loading checks the settings in which every field has the value of the highest layer. -/
theorem load_eq :
    (load (everywhere.toList ++ here.toList) environment).1 = (ofFields fun field =>
      (highest? everywhere here environment field).getD (field.get {})).validate := by
  obtain ⟨layers, read, fine, said⟩ := exists_layers files
  have distinct : ∀ layer ∈ layers ++ Environment.layers environment, layer.Distinct :=
    List.forall_mem_append.mpr
      ⟨fun layer listed => (fine layer listed).1, fun _ => Environment.distinct_of_mem_layers⟩
  have typed : ∀ layer ∈ layers ++ Environment.layers environment, WellTyped layer :=
    List.forall_mem_append.mpr ⟨fun layer listed => (fine layer listed).2, assigned⟩
  have order (field : Field) : ((layers ++ Environment.layers environment).reverse.findSome?
      field.value?) = highest? everywhere here environment field := by
    rw [List.reverse_append, List.findSome?_append, said, highest?]
    have single (file? : Option File) :
        file?.toList.reverse.findSome? field.ofFile? = file?.bind field.ofFile? := by
      cases file? with
      | none => rfl
      | some file => exact List.findSome?_singleton
    rw [List.reverse_append, List.findSome?_append, single, single]
  rw [load]
  simp only [read]
  rw [ofLayers_eq distinct typed]
  simp only [order]

end Load

end SourceOutline.Settings

namespace SourceOutline.Environment

open Text Toml

/-! ## Names of variables -/

/-- A part of a name: it is not empty and has neither points nor blanks. -/
structure IsPart (text : List Char) : Prop where
  /-- There is something. -/
  filled : text ≠ []
  /-- No point stands in it. -/
  whole : '.' ∉ text
  /-- No blank stands in it. -/
  dense : ∀ c ∈ text, isBlank c = false

/-- What stands behind the start is found. -/
theorem afterPrefix?_append (start rest : List Char) :
    afterPrefix? start (start ++ rest) = some rest := by
  induction start with
  | nil => exact afterPrefix?.eq_1 rest
  | cons c start ih => rw [List.cons_append, afterPrefix?, if_pos rfl, ih]

/-- The first underscore becomes a point. -/
theorem splitSection_append {group : List Char} (first : '_' ∉ group) (key : List Char) :
    splitSection (group ++ '_' :: key) = group ++ '.' :: key := by
  induction group with
  | nil => rw [List.nil_append, splitSection, if_pos rfl, List.nil_append]
  | cons c group ih =>
    rw [List.mem_cons, not_or] at first
    rw [List.cons_append, splitSection, if_neg (Ne.symm first.1), ih first.2, List.cons_append]

/-- Nothing is trimmed where there are no blanks. -/
theorem trim_eq_self {text : List Char} (dense : ∀ c ∈ text, isBlank c = false) :
    trim text = text :=
  trim_eq_self_of_ends (fun c first => dense c (List.mem_of_mem_head? first))
    fun c last => dense c (List.mem_of_mem_getLast? last)

/-- Only the first underscore behind the common start separates the section from the key, so the key
may have underscores of its own. -/
theorem path?_eq {group key : List Char} (outer : IsPart group) (first : '_' ∉ group)
    (inner : IsPart key) :
    path? (String.ofList (namePrefix ++ (group ++ '_' :: key))) =
      some [String.ofList (lowerAscii group), String.ofList (lowerAscii key)] := by
  have denseBoth (mark : Char) (ink : isBlank mark = false) :
      ∀ c ∈ group ++ mark :: key, isBlank c = false := by
    intro c member
    rcases List.mem_append.mp member with before | behind
    · exact outer.dense c before
    · rcases List.mem_cons.mp behind with rfl | behind
      · exact ink
      · exact inner.dense c behind
  have dense : ∀ c ∈ namePrefix ++ (group ++ '_' :: key), isBlank c = false := by
    intro c member
    rcases List.mem_append.mp member with before | behind
    · have start : namePrefix.all (!isBlank ·) = true := by decide
      simpa using List.all_eq_true.mp start c before
    · exact denseBoth '_' (by decide) c behind
  have cut : (group ++ '.' :: key).splitOn '.' = [group, key] := by
    have pieces : ∀ piece ∈ [group, key], '.' ∉ piece := by simp [outer.whole, inner.whole]
    have joined := List.splitOn_intercalate '.' pieces (by simp)
    simpa [List.intercalate] using joined
  rw [path?, String.toList_ofList, trim_eq_self dense, afterPrefix?_append]
  dsimp only
  rw [splitSection_append first, trim_eq_self (denseBoth '.' (by decide)), cut, if_neg (by
    simp [outer.filled, inner.filled])]
  rfl

/-- A value put at a path is found there. -/
theorem at?_nest (path : List String) (value : Value) :
    (nest path value).at? path = some value := by
  induction path with
  | nil => rfl
  | cons key path ih => rw [nest, Value.at?, Value.find?_cons, if_pos rfl, Option.bind_some, ih]

end SourceOutline.Environment

namespace SourceOutline.Settings

/-- The variable that sets a field. -/
def Field.variable (field : Field) : String :=
  String.ofList (Environment.namePrefix ++
    ['_'].intercalate (field.path.map fun key => key.toList.map Char.toUpper))

/-- The variable of a field names the path of the field. -/
theorem path?_variable (field : Field) : Environment.path? field.variable = some field.path := by
  cases field <;> decide +kernel

/-- Every field can be set by its variable. -/
theorem value?_variable (field : Field) (text : String) :
    (Environment.layers [(field.variable, text)]).map field.value? =
      [field.read (Environment.value text)] := by
  simp [Environment.layers, path?_variable, Field.value?, Environment.at?_nest]

/-! ## Valid settings -/

/-- Settings without a fault pass unchanged, and no others pass. -/
theorem validate_eq_ok_iff (settings result : Settings) :
    settings.validate = .ok result ↔ settings.fault? = none ∧ result = settings := by
  rw [validate]
  cases settings.fault? with
  | none => simp [eq_comm]
  | some fault => simp

/-- All that loading gives is valid. -/
theorem fault?_of_load {files : List File} {environment : List (String × String)}
    {settings : Settings} (loaded : (load files environment).1 = .ok settings) :
    settings.fault? = none := by
  rw [load] at loaded
  split at loaded
  · rw [ofLayers] at loaded
    split at loaded
    · obtain ⟨valid, rfl⟩ := (validate_eq_ok_iff _ _).mp loaded
      exact valid
    · contradiction
  · contradiction

/-- Valid settings stay valid with any window but an empty one. -/
theorem fault?_window {settings : Settings} (valid : settings.fault? = none) (window : Nat) :
    ({ settings with analysis.window := window } : Settings).fault? = none ↔ 0 < window := by
  rw [fault?] at valid ⊢
  split at valid
  · contradiction
  · by_cases empty : window = 0
    · simp [empty]
    · simp only [if_neg empty, Nat.pos_of_ne_zero empty, iff_true]
      exact valid

/-- A window that is not zero is set, and a window of zero is refused. -/
theorem withWindow_eq_ok_iff {settings : Settings} (valid : settings.fault? = none) (window : Nat)
    (result : Settings) :
    settings.withWindow (some window) = .ok result ↔
      0 < window ∧ result = { settings with analysis.window := window } := by
  rw [withWindow, validate_eq_ok_iff, fault?_window valid]

/-- A window keeps valid settings valid. -/
theorem fault?_of_withWindow {settings result : Settings} (valid : settings.fault? = none)
    {window : Option Nat} (done : settings.withWindow window = .ok result) :
    result.fault? = none := by
  cases window with
  | none => exact Except.ok.inj done ▸ valid
  | some window =>
    obtain ⟨filled, rfl⟩ := (withWindow_eq_ok_iff valid window result).mp done
    exact (fault?_window valid window).mpr filled

end SourceOutline.Settings
