import SourceOutline.Proofs.Graph.Dot
import SourceOutline.Text.Blank

/-!
# Graph texts read back

A reader of graph texts goes through the characters one by one. Inside quotes a backslash takes the
character behind it as it is, and the first quote without a backslash ends the string. What it has
read are tokens, and the tokens between semicolons are a statement.

Labels hold names from the source, which may be any text. An escaped label keeps the reader inside
its quotes up to the quote that closes it, and it is read as the label (`read_escapeLabel`). So the
statements of a graph text are those that were written, whatever the names are
(`readGraph?_dotLines`).
-/

namespace SourceOutline.Graph

/-! ## The reader -/

/-- A part of a graph text. -/
inductive DotToken where
  /-- A name without quotes. -/
  | word (text : String)
  /-- A text in quotes, with its escapes undone. -/
  | string (text : String)
  /-- Any other character. -/
  | mark (c : Char)
  deriving DecidableEq, Repr

/-- Where the reader of a graph text stands, with what it has read of a token. -/
inductive DotStand where
  /-- Between tokens. -/
  | between
  /-- In a name without quotes. -/
  | word (text : List Char)
  /-- In quotes. -/
  | string (text : List Char)
  /-- In quotes, behind a backslash. -/
  | escape (text : List Char)
  deriving DecidableEq, Repr

/-- Between the quotes of a string. -/
def DotStand.isQuoted : DotStand → Bool
  | string _ => true
  | escape _ => true
  | _ => false

/-- A reader of graph texts. -/
structure DotReader where
  /-- The tokens so far. -/
  tokens : List DotToken
  /-- Where it stands. -/
  stand : DotStand
  deriving DecidableEq, Repr

namespace DotReader

/-- The reader behind a character that is in no token so far. -/
def outside (tokens : List DotToken) (c : Char) : DotReader :=
  if c = '"' then ⟨tokens, .string []⟩
  else if isIdChar c then ⟨tokens, .word [c]⟩
  else if Text.isBlank c then ⟨tokens, .between⟩
  else ⟨tokens ++ [.mark c], .between⟩

/-- The reader behind one more character. -/
def step : DotReader → Char → DotReader
  | ⟨tokens, .between⟩, c => outside tokens c
  | ⟨tokens, .word text⟩, c =>
    if isIdChar c then ⟨tokens, .word (text ++ [c])⟩
    else outside (tokens ++ [.word (String.ofList text)]) c
  | ⟨tokens, .string text⟩, c =>
    if c = '"' then ⟨tokens ++ [.string (String.ofList text)], .between⟩
    else if c = '\\' then ⟨tokens, .escape text⟩
    else ⟨tokens, .string (text ++ [c])⟩
  | ⟨tokens, .escape text⟩, c => ⟨tokens, .string (text ++ [c])⟩

/-- The reader behind a text. -/
def read (reader : DotReader) (text : List Char) : DotReader := text.foldl step reader

end DotReader

/-- A statement of a graph text. -/
inductive DotStatement where
  /-- A setting of the graph. -/
  | setting (name value : String)
  /-- A node, with the names and values of its attributes. -/
  | node (name : String) (attributes : List (String × String))
  /-- An edge. -/
  | edge (source target : String)
  deriving DecidableEq, Repr

/-- The value of an attribute. -/
def DotToken.value? : DotToken → Option String
  | word text => some text
  | string text => some text
  | mark _ => none

/-- Attributes with commas between them, up to a closing bracket. -/
def attributes? : List DotToken → Option (List (String × String))
  | [.word name, .mark equals, value, .mark bracket] =>
    if equals = '=' ∧ bracket = ']' then value.value?.map fun text => [(name, text)] else none
  | .word name :: .mark equals :: value :: .mark comma :: rest =>
    if equals = '=' ∧ comma = ',' then
      value.value?.bind fun text => (attributes? rest).map ((name, text) :: ·)
    else none
  | _ => none

/-- The statement that tokens make. -/
def statement? : List DotToken → Option DotStatement
  | [.word name, .mark equals, .word value] =>
    if equals = '=' then some (.setting name value) else none
  | [.word source, .mark dash, .mark head, .word target] =>
    if dash = '-' ∧ head = '>' then some (.edge source target) else none
  | .word name :: .mark bracket :: rest =>
    if bracket = '[' then (attributes? rest).map (.node name) else none
  | _ => none

/-- Statements, each in front of a semicolon, up to a closing brace at the end. The first tokens of
the next statement are given. -/
def statements? (current : List DotToken) : List DotToken → Option (List DotStatement)
  | [] => none
  | token :: rest =>
    if token = .mark ';' then
      (statement? current).bind fun statement => (statements? [] rest).map (statement :: ·)
    else if token = .mark '\x7d' then if current = [] ∧ rest = [] then some [] else none
    else statements? (current ++ [token]) rest

/-- The name and the statements of a graph text. -/
def readGraph? (text : String) : Option (String × List DotStatement) :=
  match DotReader.read ⟨[], .between⟩ text.toList with
  | ⟨.word kind :: .word name :: .mark brace :: body, .between⟩ =>
    if kind = "digraph" ∧ brace = '\x7b' then (statements? [] body).map (name, ·) else none
  | _ => none

/-- The statement of a node of the graph. -/
def drawnNode (id label color : String) : DotStatement :=
  .node id [("label", label), ("fillcolor", color), ("style", "rounded,filled")]

/-- The statements that are to be read in the graph of a tree. -/
def drawnStatements (limit : Nat) (tree : List Declaration) : List DotStatement :=
  [.setting "rankdir" "TB", .node "node" [("shape", "box"), ("style", "rounded")],
    drawnNode rootId "📄 Module" "#e1f5ff"] ++
  List.zipWith (fun declaration id =>
    drawnNode id (label limit declaration) (color declaration.kind)) tree (uniqueIds tree) ++
  (edges tree).map fun edge => .edge edge.1 edge.2

/-! ## Characters -/

namespace DotReader

/-- Nothing is read from an empty text. -/
@[simp] theorem read_nil (reader : DotReader) : reader.read [] = reader := rfl

/-- A character is read before what stands behind it. -/
@[simp] theorem read_cons (reader : DotReader) (c : Char) (text : List Char) :
    reader.read (c :: text) = (reader.step c).read text := rfl

/-- A text is read before what stands behind it. -/
theorem read_append (reader : DotReader) (front back : List Char) :
    reader.read (front ++ back) = (reader.read front).read back :=
  List.foldl_append

/-- Earlier tokens do not matter for a character. -/
theorem step_eq (tokens : List DotToken) (stand : DotStand) (c : Char) :
    step ⟨tokens, stand⟩ c =
      ⟨tokens ++ (step ⟨[], stand⟩ c).tokens, (step ⟨[], stand⟩ c).stand⟩ := by
  have outside_eq (more : List DotToken) :
      outside (tokens ++ more) c = ⟨tokens ++ (outside more c).tokens, (outside more c).stand⟩ := by
    unfold outside
    repeat' split
    all_goals simp
  cases stand with
  | between => simpa [step] using outside_eq []
  | word text =>
    simp only [step]
    split
    · simp
    · simpa using outside_eq [.word (String.ofList text)]
  | string text =>
    simp only [step]
    repeat' split
    all_goals simp
  | escape text => simp [step]

/-- Earlier tokens do not matter for a text. -/
theorem read_eq (tokens : List DotToken) (stand : DotStand) (text : List Char) :
    read ⟨tokens, stand⟩ text =
      ⟨tokens ++ (read ⟨[], stand⟩ text).tokens, (read ⟨[], stand⟩ text).stand⟩ := by
  induction text generalizing tokens stand with
  | nil => simp
  | cons c text ih =>
    rw [read_cons, read_cons, step_eq, ih]
    conv_rhs => rw [ih]
    simp

/-- The characters of a name are read into it. -/
theorem read_word (tokens : List DotToken) (front : List Char) {text : List Char}
    (name : ∀ c ∈ text, isIdChar c = true) :
    read ⟨tokens, .word front⟩ text = ⟨tokens, .word (front ++ text)⟩ := by
  induction text generalizing front with
  | nil => simp
  | cons c text ih =>
    obtain ⟨first, others⟩ := List.forall_mem_cons.mp name
    rw [read_cons, step, if_pos first, ih _ others, List.append_assoc, List.singleton_append]

/-- A name begins at its first character. -/
theorem read_nodeName (tokens : List DotToken) {name : String} (node : IsNodeName name) :
    read ⟨tokens, .between⟩ name.toList = ⟨tokens, .word name.toList⟩ := by
  obtain ⟨filled, chars⟩ := node
  cases text : name.toList with
  | nil => exact absurd (String.toList_eq_nil_iff.mp text) filled
  | cons c rest =>
    rw [text] at chars
    obtain ⟨first, others⟩ := List.forall_mem_cons.mp chars
    have noQuote : c ≠ '"' := by
      rintro rfl
      exact absurd first (by decide)
    rw [read_cons, step, outside, if_neg noQuote, if_pos first, read_word tokens [c] others,
      List.singleton_append]

/-! ## Labels -/

/-- Characters in front of which a backslash is written. -/
theorem escapeLabel_cons (c : Char) (label : List Char) :
    escapeLabel (c :: label) =
      (if c = '\\' ∨ c = '"' then ['\\', c] else [c]) ++ escapeLabel label := by
  simp [escapeLabel]

/-- An escaped label is read as the label. -/
theorem read_escapeLabel (tokens : List DotToken) (front label : List Char) :
    read ⟨tokens, .string front⟩ (escapeLabel label) = ⟨tokens, .string (front ++ label)⟩ := by
  induction label generalizing front with
  | nil => simp [escapeLabel]
  | cons c label ih =>
    rw [escapeLabel_cons]
    by_cases special : c = '\\' ∨ c = '"'
    · have backslash : step ⟨tokens, .string front⟩ '\\' = ⟨tokens, .escape front⟩ := rfl
      rw [if_pos special, List.cons_append, List.cons_append, List.nil_append, read_cons, backslash,
        read_cons, step, ih]
      simp
    · have noBackslash : c ≠ '\\' := fun same => special (.inl same)
      have noQuote : c ≠ '"' := fun same => special (.inr same)
      rw [if_neg special, List.singleton_append, read_cons, step, if_neg noQuote,
        if_neg noBackslash, ih]
      simp

/-- The reader stays between the quotes at every place of an escaped label. -/
theorem isQuoted_read_escapeLabel (tokens : List DotToken) (front label part : List Char)
    (starts : part <+: escapeLabel label) :
    (read ⟨tokens, .string front⟩ part).stand.isQuoted = true := by
  induction label generalizing front part with
  | nil =>
    obtain rfl : part = [] := List.prefix_nil.mp starts
    rfl
  | cons c label ih =>
    rw [escapeLabel_cons] at starts
    by_cases special : c = '\\' ∨ c = '"'
    · rw [if_pos special] at starts
      rcases List.prefix_cons_iff.mp starts with rfl | ⟨escaped, rfl, behind⟩
      · rfl
      · -- Behind the backslash any character is taken, be it a quote.
        rcases List.prefix_cons_iff.mp behind with rfl | ⟨rest, rfl, later⟩
        · rfl
        · exact ih (front ++ [c]) rest later
    · have noBackslash : c ≠ '\\' := fun same => special (.inl same)
      have noQuote : c ≠ '"' := fun same => special (.inr same)
      rw [if_neg special] at starts
      rcases List.prefix_cons_iff.mp starts with rfl | ⟨rest, rfl, later⟩
      · rfl
      · rw [read_cons, step, if_neg noQuote, if_neg noBackslash]
        exact ih (front ++ [c]) rest later

end DotReader

/-! ## Lines -/

open DotReader (read read_append read_eq read_nodeName read_escapeLabel)

/-- A line is read as one statement. -/
def IsWritten (line : String) (statement : DotStatement) : Prop :=
  ∃ tokens, read ⟨[], .between⟩ line.toList = ⟨tokens ++ [.mark ';'], .between⟩ ∧
    (∀ token ∈ tokens, token ≠ .mark ';' ∧ token ≠ .mark '\x7d') ∧
    statement? tokens = some statement

/-- A node is written with its label and its color, each as one string. -/
theorem isWritten_nodeStatement {id : String} (node : IsNodeName id) (label : String)
    {color : String} (plain : escapeLabel color.toList = color.toList) :
    IsWritten (nodeStatement id (String.ofList (escapeLabel label.toList)) color)
      (drawnNode id label color) := by
  refine ⟨[.word id, .mark '[', .word "label", .mark '=', .string label, .mark ',',
    .word "fillcolor", .mark '=', .string color, .mark ',', .word "style", .mark '=',
    .string "rounded,filled", .mark ']'], ?_, by simp, rfl⟩
  have indent : read ⟨[], .between⟩ "    ".toList = ⟨[], .between⟩ := rfl
  have opening : read ⟨[], .word id.toList⟩ " [label=\"".toList =
      ⟨[.word (String.ofList id.toList), .mark '[', .word "label", .mark '='], .string []⟩ := rfl
  have middle (tokens : List DotToken) : read ⟨tokens, .string label.toList⟩
      "\", fillcolor=\"".toList =
      ⟨tokens ++ [.string (String.ofList label.toList), .mark ',', .word "fillcolor", .mark '='],
        .string []⟩ := by
    rw [read_eq]
    rfl
  have closing (tokens : List DotToken) : read ⟨tokens, .string color.toList⟩
      "\", style=\"rounded,filled\"];".toList =
      ⟨tokens ++ [.string (String.ofList color.toList), .mark ',', .word "style", .mark '=',
        .string "rounded,filled", .mark ']', .mark ';'], .between⟩ := by
    rw [read_eq]
    rfl
  simp only [nodeStatement, String.toList_append, String.toList_ofList, read_append]
  rw [indent, read_nodeName [] node, opening, read_escapeLabel, List.nil_append, middle, ← plain,
    read_escapeLabel, List.nil_append, closing]
  simp

/-- An edge is written between the names of its ends. -/
theorem isWritten_edgeText {source target : String} (sourceName : IsNodeName source)
    (targetName : IsNodeName target) :
    IsWritten (edgeText (source, target)) (.edge source target) := by
  refine ⟨[.word source, .mark '-', .mark '>', .word target], ?_, by simp, rfl⟩
  have indent : read ⟨[], .between⟩ "    ".toList = ⟨[], .between⟩ := rfl
  have arrow : read ⟨[], .word source.toList⟩ " -> ".toList =
      ⟨[.word (String.ofList source.toList), .mark '-', .mark '>'], .between⟩ := rfl
  have closing (tokens : List DotToken) : read ⟨tokens, .word target.toList⟩ ";".toList =
      ⟨tokens ++ [.word (String.ofList target.toList), .mark ';'], .between⟩ := by
    rw [read_eq]
    rfl
  simp only [edgeText, String.toList_append, read_append]
  rw [indent, read_nodeName [] sourceName, arrow, read_nodeName _ targetName, closing]
  simp

/-- Tokens up to a semicolon make the next statement. -/
theorem statements?_append (current rest : List DotToken) {tokens : List DotToken}
    (plain : ∀ token ∈ tokens, token ≠ .mark ';' ∧ token ≠ .mark '\x7d') :
    statements? current (tokens ++ .mark ';' :: rest) =
      (statement? (current ++ tokens)).bind fun statement =>
        (statements? [] rest).map (statement :: ·) := by
  induction tokens generalizing current with
  | nil => simp [statements?]
  | cons token tokens ih =>
    obtain ⟨⟨noSemicolon, noBrace⟩, others⟩ := List.forall_mem_cons.mp plain
    rw [List.cons_append, statements?, if_neg noSemicolon, if_neg noBrace, ih _ others,
      List.append_assoc, List.singleton_append]

/-- Lines that are each read as a statement are read as these statements. -/
theorem read_lines {lines : List String} {statements : List DotStatement}
    (written : List.Forall₂ IsWritten lines statements) (tokens : List DotToken) :
    ∃ body, read ⟨tokens, .between⟩ (lines.flatMap fun line => line.toList ++ ['\n']) =
        ⟨tokens ++ body, .between⟩ ∧
      ∀ rest more, statements? [] rest = some more →
        statements? [] (body ++ rest) = some (statements ++ more) := by
  induction written generalizing tokens with
  | nil => exact ⟨[], by simp, fun rest more found => found⟩
  | @cons line statement lines statements first _ ih =>
    obtain ⟨own, readLine, plain, isStatement⟩ := first
    obtain ⟨body, readOthers, others⟩ := ih (tokens ++ (own ++ [.mark ';']))
    refine ⟨own ++ .mark ';' :: body, ?_, ?_⟩
    · have feed (before : List DotToken) :
          read ⟨before, .between⟩ ['\n'] = ⟨before, .between⟩ := rfl
      rw [List.flatMap_cons, read_append, read_append, read_eq tokens .between line.toList,
        readLine, feed, readOthers]
      simp
    · intro rest more found
      rw [List.append_assoc, List.cons_append, statements?_append _ _ plain, List.nil_append,
        isStatement, Option.bind_some, others rest more found, Option.map_some, List.cons_append]

/-- Lines joined between a first and a last one. -/
theorem intercalate_lines (first last : List Char) (lines : List (List Char)) :
    ['\n'].intercalate (first :: (lines ++ [last])) =
      first ++ '\n' :: (lines.flatMap (· ++ ['\n']) ++ last) := by
  induction lines generalizing first with
  | nil => simp [List.intercalate_cons_of_ne_nil]
  | cons line lines ih =>
    rw [List.cons_append, List.intercalate_cons_of_ne_nil (by simp), ih]
    simp

/-- Every node of the graph has a node name. -/
theorem isNodeName_of_mem_uniqueIds {tree : List Declaration} {id : String}
    (given : id ∈ uniqueIds tree) : IsNodeName id := by
  obtain ⟨index, named⟩ := List.getElem?_of_mem given
  have inside : index < tree.length := by
    rw [← length_uniqueIds]
    exact (List.getElem?_eq_some_iff.mp named).1
  obtain ⟨other, found, node, _⟩ := uniqueIds_spec (List.getElem?_eq_getElem inside)
  rwa [Option.some.inj (named.symm.trans found)]

/-- The module has a node name. -/
theorem isNodeName_rootId : IsNodeName rootId :=
  ⟨by decide, List.all_eq_true.mp (by decide)⟩

/-- Both ends of an edge have a node name. -/
theorem isNodeName_of_mem_edges {tree : List Declaration} {edge : String × String}
    (listed : edge ∈ edges tree) : IsNodeName edge.1 ∧ IsNodeName edge.2 := by
  obtain ⟨index, found⟩ := List.getElem?_of_mem listed
  rw [getElem?_edges, Option.map_eq_some_iff] at found
  obtain ⟨id, named, rfl⟩ := found
  refine ⟨?_, isNodeName_of_mem_uniqueIds (List.mem_of_getElem? named)⟩
  rcases parentId_eq tree index with ⟨_, top⟩ | ⟨parent, _, _, above⟩
  · rw [top]
    exact isNodeName_rootId
  · exact isNodeName_of_mem_uniqueIds (List.mem_of_getElem? above)

/-- The lines between the first and the last one are each a statement. -/
theorem isWritten_lines (limit : Nat) (tree : List Declaration) :
    List.Forall₂ IsWritten
      (header.tail ++ List.zipWith (declarationStatement limit) tree (uniqueIds tree) ++
        (edges tree).map edgeText) (drawnStatements limit tree) := by
  have settings : List.Forall₂ IsWritten header.tail
      [.setting "rankdir" "TB", .node "node" [("shape", "box"), ("style", "rounded")],
        drawnNode rootId "📄 Module" "#e1f5ff"] := by
    refine .cons ?_ (.cons ?_ (.cons ?_ .nil))
    · exact ⟨[.word "rankdir", .mark '=', .word "TB"], rfl, by simp, rfl⟩
    · exact ⟨[.word "node", .mark '[', .word "shape", .mark '=', .word "box", .mark ',',
        .word "style", .mark '=', .word "rounded", .mark ']'], rfl, by simp, rfl⟩
    · have plain : escapeLabel "#e1f5ff".toList = "#e1f5ff".toList := by decide
      exact isWritten_nodeStatement isNodeName_rootId "📄 Module" plain
  have nodes : List.Forall₂ IsWritten
      (List.zipWith (declarationStatement limit) tree (uniqueIds tree))
      (List.zipWith (fun declaration id => drawnNode id (label limit declaration)
        (color declaration.kind)) tree (uniqueIds tree)) := by
    rw [← List.map_uncurry_zip_eq_zipWith, ← List.map_uncurry_zip_eq_zipWith,
      List.forall₂_map_left_iff, List.forall₂_map_right_iff, List.forall₂_same]
    rintro ⟨declaration, id⟩ listed
    have plain : escapeLabel (color declaration.kind).toList = (color declaration.kind).toList := by
      cases declaration.kind <;> decide
    exact isWritten_nodeStatement (isNodeName_of_mem_uniqueIds (List.of_mem_zip listed).2) _ plain
  have arrows : List.Forall₂ IsWritten ((edges tree).map edgeText)
      ((edges tree).map fun edge => .edge edge.1 edge.2) := by
    rw [List.forall₂_map_left_iff, List.forall₂_map_right_iff, List.forall₂_same]
    intro edge listed
    obtain ⟨source, target⟩ := isNodeName_of_mem_edges listed
    exact isWritten_edgeText source target
  exact List.rel_append (List.rel_append settings nodes) arrows

/-- The text of a graph is read as the statements that it was made of. -/
theorem readGraph?_dotLines (limit : Nat) (tree : List Declaration) :
    readGraph? ("\n".intercalate (dotLines limit tree)) =
      some ("CodeTree", drawnStatements limit tree) := by
  have text : ("\n".intercalate (dotLines limit tree)).toList =
      "digraph CodeTree \x7b".toList ++ '\n' ::
        (((header.tail ++ List.zipWith (declarationStatement limit) tree (uniqueIds tree) ++
          (edges tree).map edgeText).flatMap fun line => line.toList ++ ['\n']) ++
          "\x7d".toList) := by
    rw [dotLines_eq]
    change ("\n".intercalate
      ("digraph CodeTree \x7b" :: (header.tail ++ _ ++ _ ++ ["\x7d"]))).toList = _
    rw [String.toList_intercalate, List.map_cons, List.map_append, List.map_singleton]
    exact (intercalate_lines _ _ _).trans (by rw [List.flatMap_map])
  obtain ⟨body, readBody, statements⟩ :=
    read_lines (isWritten_lines limit tree) [.word "digraph", .word "CodeTree", .mark '\x7b']
  have first : read ⟨[], .between⟩ ("digraph CodeTree \x7b".toList ++ ['\n']) =
      ⟨[.word "digraph", .word "CodeTree", .mark '\x7b'], .between⟩ := rfl
  have last (tokens : List DotToken) : read ⟨tokens, .between⟩ "\x7d".toList =
      ⟨tokens ++ [.mark '\x7d'], .between⟩ := rfl
  have whole : read ⟨[], .between⟩ ("\n".intercalate (dotLines limit tree)).toList =
      ⟨.word "digraph" :: .word "CodeTree" :: .mark '\x7b' :: (body ++ [.mark '\x7d']),
        .between⟩ := by
    rw [text, ← List.singleton_append, ← List.append_assoc, read_append, first, read_append,
      readBody, last]
    simp
  have found := statements [.mark '\x7d'] [] rfl
  simp only [readGraph?, whole, found]
  simp

/-! ## Labels and graphs as a whole -/

/-- A text with another one in place of a character. -/
def replaceChar (c : Char) (other text : List Char) : List Char :=
  text.flatMap fun d => if d = c then other else [d]

/-- Escaping a label is doubling its backslashes first and then putting backslashes in front of its
quotes. -/
theorem escapeLabel_eq_replaceChar (label : List Char) :
    escapeLabel label =
      replaceChar '"' ['\\', '"'] (replaceChar '\\' ['\\', '\\'] label) := by
  rw [escapeLabel, replaceChar, replaceChar, List.flatMap_assoc]
  refine List.flatMap_congr fun c _ => ?_
  by_cases backslash : c = '\\'
  · simp [backslash]
  · by_cases quote : c = '"' <;> simp [backslash, quote]

/-- Different labels are escaped differently. -/
theorem escapeLabel_injective : Function.Injective escapeLabel := by
  intro left right same
  have readLeft := read_escapeLabel [] [] left
  rw [same, read_escapeLabel] at readLeft
  injection readLeft with _ stands
  injection stands with texts
  exact texts.symm

/-- For every limit: in the statement of every declaration, under any name, a reader that starts
behind the opening quote of the label stays between quotes up to the closing one, and has then read
the label. Different labels are escaped differently, by backslashes for backslashes first. The graph
of every list with a declaration is read as the statements for the module, the declarations and the
edges, with the attributes that they were given. It is drawn wherever the counts of the list fit. -/
theorem dot?_labels_read_back (limit : Nat) :
    (∀ (declaration : Declaration) (id : String),
      let escaped := escapeLabel (label limit declaration).toList
      (declarationStatement limit declaration id).toList =
        ("    " ++ id ++ " [label=\"").toList ++ escaped ++ '"' ::
          (", fillcolor=\"" ++ color declaration.kind ++ "\", style=\"rounded,filled\"];").toList ∧
      ∀ tokens,
        (∀ part, part <+: escaped →
          (read ⟨tokens, .string []⟩ part).stand.isQuoted = true) ∧
        read ⟨tokens, .string []⟩ (escaped ++ ['"']) =
          ⟨tokens ++ [.string (label limit declaration)], .between⟩) ∧
    Function.Injective escapeLabel ∧
    (∀ text, escapeLabel text =
      replaceChar '"' ['\\', '"'] (replaceChar '\\' ['\\', '\\'] text)) ∧
    ∀ tree : List Declaration, tree ≠ [] → ∃ text,
      readGraph? text = some ("CodeTree", drawnStatements limit tree) ∧
      (∀ graph, dot? limit tree = .ok graph → graph = some text) ∧
      (LevelsFit tree → NumbersFit tree → dot? limit tree = .ok (some text)) := by
  refine ⟨fun declaration id => ⟨?_, fun tokens => ⟨?_, ?_⟩⟩, escapeLabel_injective,
    escapeLabel_eq_replaceChar, fun tree filled =>
      ⟨_, readGraph?_dotLines limit tree, ?_, dot?_of_fits limit filled⟩⟩
  · have quote : "\", fillcolor=\"".toList = '"' :: ", fillcolor=\"".toList := rfl
    simp only [declarationStatement, nodeStatement, String.toList_append, String.toList_ofList,
      quote, List.append_assoc, List.cons_append]
  · exact DotReader.isQuoted_read_escapeLabel tokens [] _
  · have closing : read ⟨tokens, .string (label limit declaration).toList⟩ ['"'] =
        ⟨tokens ++ [.string (String.ofList (label limit declaration).toList)], .between⟩ := rfl
    rw [read_append, read_escapeLabel, List.nil_append, closing, String.ofList_toList]
  · intro graph drawn
    obtain ⟨levels, numbers⟩ := fits_of_dot?_eq_ok filled drawn
    exact Except.ok.inj (drawn.symm.trans (dot?_of_fits limit filled levels numbers))

/-- Names made of quotes and backslashes, one of them with a statement in it. -/
def hostileTree : List Declaration :=
  [⟨.cls, "Odd\"Name\\", "", 0, []⟩,
    ⟨.function, "\\\"", "\"]; x -> y; \\", 1, ["a\", color=\"red", "\n\\", "b"]⟩]

/-- Their graph has a node and an edge for each of them, and no more. -/
theorem dot?_hostileTree :
    hostileTree ≠ [] ∧ ∃ text, dot? 2 hostileTree = .ok (some text) ∧
      readGraph? text = some ("CodeTree",
        [.setting "rankdir" "TB", .node "node" [("shape", "box"), ("style", "rounded")],
          drawnNode "Module" "📄 Module" "#e1f5ff",
          drawnNode "class_Odd_Name_" "📦 Odd\"Name\\" "#ffe1f5",
          drawnNode "function___" "⚙️ \"]; x -> y; \\.\\\"(a\", color=\"red, \n\\...)" "#e1ffe1",
          .edge "Module" "class_Odd_Name_", .edge "Module" "function___"]) := by
  have filled : hostileTree ≠ [] := by decide
  obtain ⟨_, _, _, graphs⟩ := dot?_labels_read_back 2
  obtain ⟨text, found, _, drawn⟩ := graphs hostileTree filled
  have levels : LevelsFit hostileTree := (checkParents_eq_ok_iff hostileTree).mp rfl
  refine ⟨filled, text, drawn levels (numbersFit_of_length (by decide)), found.trans ?_⟩
  decide +kernel

end SourceOutline.Graph
