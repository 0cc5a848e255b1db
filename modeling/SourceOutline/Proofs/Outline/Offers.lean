import Mathlib.Data.List.Nodup
import SourceOutline.Outline.ByLine

/-!
# What the lines of a source offer

The outline by line patterns goes through the lines once. It keeps the state of import blocks
and the names that it has seen. Here the same outline is read off the source: each line outside
of import blocks offers at most one class and one function, and of all offers in line order the
first of each name and kind counts. The main statement says that both are the same.
-/

namespace SourceOutline.Outline

open Text

/-! ## The lines outside import blocks -/

/-- The lines behind the next one that closes an import block. -/
def behindBlock (block : ImportBlock) (lines : List (Line × Nat)) : List (Line × Nat) :=
  (lines.dropWhile fun entry => !block.stop.isMatch entry.1).drop 1

/-- Behind a block there are no more lines than before. -/
theorem length_behindBlock_le (block : ImportBlock) (lines : List (Line × Nat)) :
    (behindBlock block lines).length ≤ lines.length := by
  have shorter := (lines.dropWhile_suffix fun entry => !block.stop.isMatch entry.1).length_le
  rw [behindBlock, List.length_drop]
  omega

/-- The numbered lines outside import blocks. A block goes from a line that opens one up to and
including the next line that closes one, or to the end of the source when there is none. -/
def outsideBlocks (block : ImportBlock) : List (Line × Nat) → List (Line × Nat)
  | [] => []
  | entry :: rest =>
    if block.start.isMatch entry.1 then outsideBlocks block (behindBlock block rest)
    else entry :: outsideBlocks block rest
termination_by lines => lines.length
decreasing_by
  · have shorter := length_behindBlock_le block rest
    rw [List.length_cons]
    omega
  · exact Nat.lt_succ_self _

/-- The numbered lines in which declarations are looked for. -/
def declaringLines (table : Table) (lines : List (Line × Nat)) : List (Line × Nat) :=
  match table.block with
  | none => lines
  | some block => outsideBlocks block lines

/-! ## Offers -/

/-- A name that a line offers as that of a class or function. -/
structure Offer where
  /-- Class or function. -/
  kind : DeclarationKind
  /-- The number of the line, counted from zero. -/
  index : Nat
  /-- The name and what stands around it. -/
  found : Pattern.Found

namespace Offer

/-- The name offered. -/
def name (offer : Offer) : String := String.ofList offer.found.name

/-- What no two declarations share. -/
def key (offer : Offer) : DeclarationKind × String := (offer.kind, offer.name)

/-- The record and the parameters of the function at the line of the offer. -/
def description (table : Table) (window : Nat) (lines : List Line) (offer : Offer) :
    FunctionRecord × List String :=
  describe table window offer.index (lines.take offer.index).reverse (lines.getD offer.index [])
    (lines.drop (offer.index + 1)) offer.found

/-- The record of a function offered. -/
def record (table : Table) (window : Nat) (lines : List Line) (offer : Offer) : FunctionRecord :=
  (offer.description table window lines).1

/-- The declaration of what is offered. -/
def node (table : Table) (window : Nat) (lines : List Line) (offer : Offer) : Declaration :=
  match offer.kind with
  | .cls => ⟨.cls, offer.name, "", 0, []⟩
  | .function =>
    ⟨.function, offer.name, "", 0,
      (offer.description table window lines).2.filter (!isReceiver ·)⟩

end Offer

/-- A name that may be declared: it is not reserved, and the text in front of it does not start
with a statement word. -/
def isDeclarable (found : Pattern.Found) : Bool :=
  !isReserved (String.ofList found.name) && !startsStatement found.before

/-- The name of the first pattern that finds one that may be declared. -/
def offered? (patterns : List Pattern) (line : Line) : Option Pattern.Found :=
  (patterns.filterMap (·.find? line)).find? isDeclarable

/-- The offers of a line, a class before a function. -/
def offersOfLine (table : Table) (entry : Line × Nat) : List Offer :=
  ((offered? table.classes entry.1).map (Offer.mk .cls entry.2)).toList ++
    ((offered? table.functions entry.1).map (Offer.mk .function entry.2)).toList

/-- The offers of a source in line order. -/
def offers (table : Table) (lines : List Line) : List Offer :=
  (declaringLines table lines.zipIdx).flatMap (offersOfLine table)

/-- The first offer of each name and kind. -/
def firstOffers : List Offer → List Offer
  | [] => []
  | offer :: later => offer :: (firstOffers later).filter (·.key ≠ offer.key)

/-- The first pattern that declares a name is the one whose offer counts. -/
theorem declared?_eq_offered? (patterns : List Pattern) (line : Line) :
    declared? patterns line = offered? patterns line := by
  rw [declared?, offered?]
  induction patterns with
  | nil => rfl
  | cons pattern patterns ih =>
    rw [List.findSome?_cons, List.filterMap_cons]
    cases pattern.find? line with
    | none => exact ih
    | some found =>
      simp only [List.find?_cons, ← ih, isDeclarable, ← Bool.not_or]
      cases isReserved (String.ofList found.name) || startsStatement found.before <;> rfl

/-- A summary is the documentation above the line, or else it is built from the parameters. -/
theorem Offer.record_summary (table : Table) (window : Nat) (lines : List Line) (offer : Offer) :
    (∃ text, docComment? table.comments (lines.take offer.index).reverse = some text ∧
      (offer.record table window lines).summarySource = .docComment ∧
      (offer.record table window lines).summary = String.ofList text) ∨
    (docComment? table.comments (lines.take offer.index).reverse = none ∧
      (offer.record table window lines).summarySource = .synthesized ∧
      (offer.record table window lines).summary =
        synthesizeSummary (offer.description table window lines).2) := by
  rw [Offer.record, Offer.description, describe]
  cases docComment? table.comments (lines.take offer.index).reverse with
  | some text => exact Or.inl ⟨text, rfl, rfl, rfl⟩
  | none => exact Or.inr ⟨rfl, rfl, rfl⟩

/-- In the line of an offer, its description is made from the lines around. -/
theorem Offer.description_of_cut {table : Table} {window : Nat} {above below lines : List Line}
    {line : Line} {offer : Offer} (cut : lines = above.reverse ++ line :: below)
    (place : offer.index = above.length) :
    offer.description table window lines =
      describe table window above.length above line below offer.found := by
  have front : lines.take above.length = above.reverse := by
    rw [cut, ← List.length_reverse, List.take_left]
  have here : lines.getD above.length [] = line := by
    rw [cut, List.getD_eq_getElem?_getD, List.getElem?_append_right (by simp)]
    simp
  have behind : lines.drop (above.length + 1) = below := by
    rw [cut, ← List.length_reverse, ← List.drop_drop, List.drop_left]
    rfl
  rw [Offer.description, place, front, here, behind, List.reverse_reverse]

/-! ## What a reading keeps of the offers -/

/-- A declaration of the kind and name has been read. -/
def Reading.seen (reading : Reading) : DeclarationKind × String → Bool
  | (.cls, name) => reading.classes.contains name
  | (.function, name) => reading.functions.contains name

/-- The reading behind a new declaration. -/
def Reading.note (reading : Reading) (offer : Offer) : Reading :=
  match offer.kind with
  | .cls => { reading with classes := offer.name :: reading.classes }
  | .function => { reading with functions := offer.name :: reading.functions }

/-- The offers that are new to a reading, and the reading behind them. -/
def Reading.takeNew (reading : Reading) : List Offer → List Offer × Reading
  | [] => ([], reading)
  | offer :: later =>
    if reading.seen offer.key then reading.takeNew later
    else
      let (taken, behind) := (reading.note offer).takeNew later
      (offer :: taken, behind)

/-- A new declaration is seen besides those before it. -/
theorem Reading.seen_note (reading : Reading) (offer : Offer) (key : DeclarationKind × String) :
    (reading.note offer).seen key = (decide (key = offer.key) || reading.seen key) := by
  obtain ⟨kind, index, found⟩ := offer
  obtain ⟨own, name⟩ := key
  cases kind <;> cases own <;>
    simp [Reading.note, Reading.seen, Offer.key, Offer.name]

/-- The name found, if it is new to a reading. -/
def Reading.new? (reading : Reading) (kind : DeclarationKind) (found : Option Pattern.Found) :
    Option Pattern.Found :=
  found.bind fun found =>
    if reading.seen (kind, String.ofList found.name) then none else some found

/-- At most one offer. -/
theorem Reading.takeNew_toList (reading : Reading) (kind : DeclarationKind) (index : Nat)
    (found : Option Pattern.Found) :
    reading.takeNew (found.map (Offer.mk kind index)).toList =
      (((reading.new? kind found).map (Offer.mk kind index)).toList,
        (reading.new? kind found).elim reading fun found => reading.note ⟨kind, index, found⟩) := by
  cases found with
  | none => rfl
  | some found =>
    rw [Option.map_some, Option.toList_some, Reading.takeNew, Reading.new?, Option.bind_some,
      Offer.key, Offer.name]
    split
    · rfl
    · rfl

/-- Two lists of offers, one behind the other. -/
theorem Reading.takeNew_append (reading : Reading) (first second : List Offer) :
    reading.takeNew (first ++ second) =
      ((reading.takeNew first).1 ++ ((reading.takeNew first).2.takeNew second).1,
        ((reading.takeNew first).2.takeNew second).2) := by
  induction first generalizing reading with
  | nil => rfl
  | cons offer first ih =>
    rw [List.cons_append, Reading.takeNew, Reading.takeNew]
    split
    · exact ih reading
    · simp [ih]

/-- A reading takes the first offer of each name and kind that it has not seen. -/
theorem Reading.takeNew_eq (reading : Reading) (offers : List Offer) :
    (reading.takeNew offers).1 =
      (firstOffers offers).filter fun offer => !reading.seen offer.key := by
  induction offers generalizing reading with
  | nil => rfl
  | cons offer offers ih =>
    rw [Reading.takeNew, firstOffers, List.filter_cons, List.filter_filter]
    split
    · next old =>
      -- A later offer of the same key has been seen as well, so leaving it out changes nothing.
      rw [ih, if_neg (by simp [old])]
      apply List.filter_congr
      intro later _
      by_cases same : later.key = offer.key
      · simp [same, old]
      · simp [same]
    · next new =>
      rw [if_pos (by simpa using new)]
      simp only [ih, Reading.seen_note, Bool.not_or, decide_not, Bool.and_comm]

/-- Taking offers leaves the state of import blocks alone. -/
theorem Reading.inBlock_takeNew (reading : Reading) (offers : List Offer) :
    (reading.takeNew offers).2.inBlock = reading.inBlock := by
  induction offers generalizing reading with
  | nil => rfl
  | cons offer offers ih =>
    rw [Reading.takeNew]
    split
    · exact ih reading
    · obtain ⟨kind, index, found⟩ := offer
      cases kind <;> exact ih _

/-! ## Reading line by line -/

/-- The findings are those of the offers listed. -/
structure Findings.Shows (findings : Findings) (table : Table) (window : Nat)
    (lines : List Line) (taken : List Offer) : Prop where
  /-- Each offer has its declaration. -/
  tree : findings.tree = taken.map (Offer.node table window lines)
  /-- Each function offered has its record. -/
  functions : findings.functions =
    (taken.filter (·.kind = .function)).map (Offer.record table window lines)

section Lines

variable {table : Table} {window : Nat} {lines : List Line}

/-- Findings of two parts show the offers of both. -/
theorem Findings.Shows.append {first second : Findings} {early late : List Offer}
    (front : first.Shows table window lines early) (back : second.Shows table window lines late) :
    (first.append second).Shows table window lines (early ++ late) where
  tree := by rw [Findings.append, front.tree, back.tree, List.map_append]
  functions := by
    rw [Findings.append, front.functions, back.functions, List.filter_append, List.map_append]

/-- The class that a line declares first is the one offered, if it is new. -/
theorem newClass?_eq (reading : Reading) (line : Line) :
    newClass? table reading.classes line =
      (reading.new? .cls (offered? table.classes line)).map fun found =>
        String.ofList found.name := by
  rw [newClass?, declared?_eq_offered?]
  cases offered? table.classes line with
  | none => rfl
  | some found =>
    rw [Option.bind_some, Reading.new?, Option.bind_some, Reading.seen, apply_ite (Option.map _)]
    rfl

/-- The function that a line declares first is the one offered, if it is new. -/
theorem newFunction?_eq (reading : Reading) (line : Line) :
    newFunction? table reading.functions line =
      reading.new? .function (offered? table.functions line) := by
  rw [newFunction?, declared?_eq_offered?]
  rfl

/-- A new class does not matter to functions. -/
theorem new?_function_elim_note (reading : Reading) (index : Nat)
    (cls found : Option Pattern.Found) :
    (cls.elim reading fun found => reading.note ⟨.cls, index, found⟩).new? .function found =
      reading.new? .function found := by
  cases cls <;> rfl

/-- A line outside import blocks shows those of its offers that are new. -/
theorem readLine_shows {above below : List Line} {line : Line} (reading : Reading)
    (cut : lines = above.reverse ++ line :: below) :
    let taken := reading.takeNew (offersOfLine table (line, above.length))
    let result := readLine table window reading above above.length line below
    result.2 = taken.2 ∧ result.1.Shows table window lines taken.1 := by
  have described : ∀ found, Offer.description table window lines ⟨.function, above.length, found⟩ =
      describe table window above.length above line below found := fun found =>
    Offer.description_of_cut cut rfl
  simp only [readLine, newClass?_eq reading line, newFunction?_eq reading line, offersOfLine,
    Reading.takeNew_append, Reading.takeNew_toList, new?_function_elim_note]
  generalize reading.new? .cls (offered? table.classes line) = cls,
    reading.new? .function (offered? table.functions line) = function
  cases function with
  | none => cases cls <;> exact ⟨rfl, rfl, rfl⟩
  | some found =>
    refine ⟨?_, ?_, ?_⟩
    · cases cls <;> rfl
    · cases cls <;> simp [Offer.node, described, describe, Offer.name]
    · cases cls <;> simp [Offer.record, described]

/-- The lines in which a reading still looks for declarations. -/
def Reading.ahead (reading : Reading) (table : Table) (rest : List (Line × Nat)) :
    List (Line × Nat) :=
  match table.block with
  | none => rest
  | some block => outsideBlocks block (if reading.inBlock then behindBlock block rest else rest)

/-- Where nothing is left, nothing is ahead. -/
theorem Reading.ahead_nil (reading : Reading) : reading.ahead table [] = [] := by
  have nothing (block : ImportBlock) : behindBlock block [] = [] := rfl
  rw [Reading.ahead]
  split
  · rfl
  · rw [nothing, ite_self, outsideBlocks]

/-- What is ahead depends on the state of import blocks only. -/
theorem Reading.ahead_congr {left right : Reading} (same : left.inBlock = right.inBlock)
    (rest : List (Line × Nat)) : left.ahead table rest = right.ahead table rest := by
  rw [Reading.ahead, Reading.ahead, same]

/-- What is new does not depend on the state of import blocks. -/
theorem Reading.takeNew_inBlock (reading : Reading) (inBlock : Bool) (offers : List Offer) :
    ({ reading with inBlock := inBlock }.takeNew offers).1 = (reading.takeNew offers).1 := by
  rw [Reading.takeNew_eq, Reading.takeNew_eq]
  rfl

/-- A line is either read for declarations, or it belongs to an import block and declares
nothing. -/
theorem stepLine_cases {reading : Reading} {above below : List Line} {index : Nat} {line : Line}
    {result : Findings × Reading}
    (step : stepLine table window reading above index line below = result) :
    (result = readLine table window reading above index line below ∧
      ∀ rest, reading.ahead table ((line, index) :: rest) =
        (line, index) :: reading.ahead table rest) ∨
    ∃ inBlock, result.2 = { reading with inBlock := inBlock } ∧
      result.1.Shows table window lines [] ∧
      ∀ rest, reading.ahead table ((line, index) :: rest) =
        { reading with inBlock := inBlock }.ahead table rest := by
  subst step
  simp only [stepLine, Reading.ahead]
  cases table.block with
  | none => exact Or.inl ⟨rfl, fun rest => rfl⟩
  | some block =>
    dsimp only
    by_cases inside : reading.inBlock = true
    · right
      rw [if_pos inside]
      by_cases closes : block.stop.isMatch line = true
      · rw [if_pos closes]
        exact ⟨false, rfl, ⟨rfl, rfl⟩, fun rest => by simp [inside, behindBlock, closes]⟩
      · rw [if_neg closes]
        exact ⟨true, by rw [← inside], ⟨rfl, rfl⟩, fun rest => by
          simp [inside, behindBlock, closes]⟩
    · rw [if_neg inside]
      by_cases opens : block.start.isMatch line = true
      · right
        rw [if_pos opens]
        exact ⟨true, rfl, ⟨rfl, rfl⟩, fun rest => by simp [inside, outsideBlocks, opens]⟩
      · left
        rw [if_neg opens]
        exact ⟨rfl, fun rest => by simp [inside, outsideBlocks, opens]⟩

/-- Reading on from a place shows the offers ahead that are new. -/
theorem readLines_shows (rest : List Line) (reading : Reading) (above : List Line)
    (cut : lines = above.reverse ++ rest) :
    (readLines table window reading above above.length rest).Shows table window lines
      (reading.takeNew ((reading.ahead table (rest.zipIdx above.length)).flatMap
        (offersOfLine table))).1 := by
  induction rest generalizing reading above with
  | nil =>
    rw [List.zipIdx_nil, Reading.ahead_nil]
    exact ⟨rfl, rfl⟩
  | cons line below ih =>
    have next (behind : Reading) := ih behind (line :: above) (by simp [cut])
    rw [readLines, List.zipIdx_cons]
    generalize step : stepLine table window reading above above.length line below = result
    rcases stepLine_cases step with ⟨read, ahead⟩ | ⟨inBlock, behind, nothing, ahead⟩
    · -- The line is looked at, so its offers stand first among those ahead.
      obtain ⟨behind, shown⟩ := readLine_shows reading cut
      rw [← read] at behind shown
      rw [ahead, List.flatMap_cons, Reading.takeNew_append]
      have same : reading.inBlock = result.2.inBlock := by
        rw [behind, Reading.inBlock_takeNew]
      rw [← behind, Reading.ahead_congr same]
      exact shown.append (next result.2)
    · -- The line belongs to a block, and the same offers are ahead as before.
      rw [ahead, ← Reading.takeNew_inBlock reading inBlock, ← behind]
      exact nothing.append (next result.2)

end Lines

/-! ## The outline of a source -/

/-- The declaration of an offer has its kind and name and stands at the top. -/
theorem Offer.node_fields (table : Table) (window : Nat) (lines : List Line) (offer : Offer) :
    (offer.node table window lines).kind = offer.kind ∧
      (offer.node table window lines).name = offer.name ∧
      (offer.node table window lines).parentName = "" ∧
      (offer.node table window lines).level = 0 := by
  obtain ⟨kind, index, found⟩ := offer
  cases kind <;> exact ⟨rfl, rfl, rfl, rfl⟩

/-- The declarations of one kind are those of the offers of this kind. -/
theorem filter_kind_nodes (table : Table) (window : Nat) (lines : List Line)
    (offers : List Offer) (kind : DeclarationKind) :
    (offers.map (Offer.node table window lines)).filter (·.kind = kind) =
      (offers.filter (·.kind = kind)).map (Offer.node table window lines) := by
  have kinds : (fun declaration : Declaration => decide (declaration.kind = kind)) ∘
      Offer.node table window lines = fun offer => decide (offer.kind = kind) := by
    funext offer
    rw [Function.comp_apply, (offer.node_fields table window lines).1]
  rw [List.filter_map, kinds]

/-- Names and kinds of declarations are those of the offers. -/
theorem map_name_filter_nodes (table : Table) (window : Nat) (lines : List Line)
    (offers : List Offer) (kind : DeclarationKind) :
    ((offers.map (Offer.node table window lines)).filter (·.kind = kind)).map (·.name) =
      (offers.filter (·.kind = kind)).map Offer.name := by
  rw [filter_kind_nodes, List.map_map]
  apply List.map_congr_left
  intro offer _
  exact (offer.node_fields table window lines).2.1

/-- The first offers are offers. -/
theorem mem_of_mem_firstOffers {offers : List Offer} {offer : Offer}
    (listed : offer ∈ firstOffers offers) : offer ∈ offers := by
  induction offers with
  | nil => contradiction
  | cons first later ih =>
    rcases List.mem_cons.mp listed with rfl | kept
    · exact List.mem_cons_self
    · exact List.mem_cons_of_mem _ (ih (List.mem_of_mem_filter kept))

/-- No two first offers share their kind and name. -/
theorem nodup_key_firstOffers (offers : List Offer) :
    ((firstOffers offers).map Offer.key).Nodup := by
  induction offers with
  | nil => exact List.nodup_nil
  | cons offer later ih =>
    rw [firstOffers, List.map_cons, List.nodup_cons]
    constructor
    · intro again
      obtain ⟨other, kept, same⟩ := List.mem_map.mp again
      have different := (List.mem_filter.mp kept).2
      simp [same] at different
    · exact ih.sublist (List.filter_sublist.map Offer.key)

/-- The names of the first offers of one kind are distinct. -/
theorem nodup_name_firstOffers (offers : List Offer) (kind : DeclarationKind) :
    (((firstOffers offers).filter (·.kind = kind)).map Offer.name).Nodup := by
  have distinct : (((firstOffers offers).filter (·.kind = kind)).map Offer.key).Nodup :=
    (nodup_key_firstOffers offers).sublist (List.filter_sublist.map Offer.key)
  have keys : ((firstOffers offers).filter (·.kind = kind)).map Offer.key =
      (((firstOffers offers).filter (·.kind = kind)).map Offer.name).map (Prod.mk kind) := by
    rw [List.map_map]
    apply List.map_congr_left
    intro offer listed
    have same : offer.kind = kind := by simpa using (List.mem_filter.mp listed).2
    rw [Offer.key, same]
    rfl
  rw [keys] at distinct
  exact List.Nodup.of_map _ distinct

/-- A name offered is not reserved. -/
theorem not_isReserved_of_mem_offers {table : Table} {lines : List Line} {offer : Offer}
    (listed : offer ∈ offers table lines) : isReserved offer.name = false := by
  have checked {patterns : List Pattern} {line : Line} {found : Pattern.Found}
      (first : offered? patterns line = some found) :
      isReserved (String.ofList found.name) = false := by
    have passes := List.find?_some first
    rw [isDeclarable, Bool.and_eq_true, Bool.not_eq_true'] at passes
    exact passes.1
  obtain ⟨entry, _, own⟩ := List.mem_flatMap.mp listed
  rcases List.mem_append.mp own with cls | function
  · obtain ⟨found, first, rfl⟩ := Option.map_eq_some_iff.mp (Option.mem_toList.mp cls)
    exact checked first
  · obtain ⟨found, first, rfl⟩ := Option.map_eq_some_iff.mp (Option.mem_toList.mp function)
    exact checked first

/-- The outline by a table shows the first offers of the source. -/
theorem readLines_shows_firstOffers (table : Table) (window : Nat) (lines : List Line) :
    (readLines table window {} [] 0 lines).Shows table window lines
      (firstOffers (offers table lines)) := by
  have shown : (readLines table window {} [] 0 lines).Shows table window lines _ :=
    readLines_shows lines {} [] rfl
  have ahead : Reading.ahead {} table (lines.zipIdx 0) = declaringLines table lines.zipIdx := rfl
  have all : (firstOffers (offers table lines)).filter (fun offer => !Reading.seen {} offer.key) =
      firstOffers (offers table lines) := by
    rw [List.filter_eq_self]
    rintro ⟨kind, index, found⟩ _
    cases kind <;> rfl
  rw [Reading.takeNew_eq, List.length_nil, ahead] at shown
  rwa [← offers, all] at shown

/-- For every language with line patterns, every window and every source, the declarations are
the first offers of each name and kind in line order, all at the top level, and the records are
those of the functions among them, each from the line of its first offer. So names are distinct
within a kind, and no reserved name is declared. -/
theorem byLine_eq_firstOffers {language : Language} {table : Table}
    (known : Table.forLanguage? language = some table) (window : Nat) (source : List Char) :
    let lines := splitLines source
    let kept := firstOffers (offers table lines)
    let outline := byLine language window source
    outline.tree = kept.map (Offer.node table (max window 1) lines) ∧
    outline.functions =
      (kept.filter (·.kind = .function)).map (Offer.record table (max window 1) lines) ∧
    (∀ offer : Offer, (offer.record table (max window 1) lines).name = offer.name ∧
      (offer.record table (max window 1) lines).startLine = offer.index + 1) ∧
    (∀ offer : Offer, (offer.node table (max window 1) lines).kind = offer.kind ∧
      (offer.node table (max window 1) lines).name = offer.name ∧
      (offer.node table (max window 1) lines).parentName = "" ∧
      (offer.node table (max window 1) lines).level = 0) ∧
    (outline.functions.map (·.name)).Nodup ∧
    ((outline.tree.filter (·.kind = .cls)).map (·.name)).Nodup ∧
    (outline.tree.filter (·.kind = .function)).map (·.name) = outline.functions.map (·.name) ∧
    (∀ declaration ∈ outline.tree, isReserved declaration.name = false) ∧
    ∀ record ∈ outline.functions, isReserved record.name = false := by
  intro lines kept outline
  have shown := readLines_shows_firstOffers table (max window 1) lines
  have tree : outline.tree = kept.map (Offer.node table (max window 1) lines) := by
    simp only [outline, byLine, known]
    exact shown.tree
  have functions : outline.functions =
      (kept.filter (·.kind = .function)).map (Offer.record table (max window 1) lines) := by
    simp only [outline, byLine, known]
    exact shown.functions
  have names (kind : DeclarationKind) : (outline.tree.filter (·.kind = kind)).map (·.name) =
      (kept.filter (·.kind = kind)).map Offer.name := by
    rw [tree, map_name_filter_nodes]
  have recordNames : outline.functions.map (·.name) =
      (kept.filter (·.kind = .function)).map Offer.name := by
    rw [functions, List.map_map]
    rfl
  refine ⟨tree, functions, fun offer => ⟨rfl, rfl⟩,
    Offer.node_fields table (max window 1) lines, ?_, ?_, ?_, ?_, ?_⟩
  · rw [recordNames]
    exact nodup_name_firstOffers _ _
  · rw [names]
    exact nodup_name_firstOffers _ _
  · rw [names, recordNames]
  · intro declaration listed
    rw [tree] at listed
    obtain ⟨offer, first, rfl⟩ := List.mem_map.mp listed
    rw [(offer.node_fields table (max window 1) lines).2.1]
    exact not_isReserved_of_mem_offers (mem_of_mem_firstOffers first)
  · intro record listed
    rw [functions] at listed
    obtain ⟨offer, first, rfl⟩ := List.mem_map.mp listed
    exact not_isReserved_of_mem_offers (mem_of_mem_firstOffers (List.mem_of_mem_filter first))

/-- A name that is declared twice, and a declaration inside an import block. -/
def blockedSource : List Char :=
  "import (\nfunc Hidden() \x7b\n)\nfunc Run() \x7b\nfunc Stop() \x7b\nfunc Run() \x7b".toList

/-- A block hides what looks like a declaration, and the first declaration of a name counts. -/
theorem byLine_blockedSource : Table.forLanguage? .go = some Table.go ∧
    (byLine .go 2 blockedSource).functions.map (fun record => (record.name, record.startLine)) =
      [("Run", 4), ("Stop", 5)] ∧
    ((byLine .go 2 blockedSource).functions.map (·.name)).Nodup := by
  have known : Table.forLanguage? .go = some Table.go := rfl
  obtain ⟨_, _, _, _, distinct, _⟩ := byLine_eq_firstOffers known 2 blockedSource
  exact ⟨known, by decide +kernel, distinct⟩

/-- A statement word at the start of a line does not count when it is the name itself. -/
theorem byLine_declares_statement_word :
    splitLines "print (a) \x7b".toList = ["print (a) \x7b".toList] ∧
      startsStatement "print (a) \x7b".toList = true ∧
      (byLine .javaScript 20 "print (a) \x7b".toList).tree =
        [⟨.function, "print", "", 0, ["a"]⟩] := by
  decide +kernel

end SourceOutline.Outline
