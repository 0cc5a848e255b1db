import SourceOutline.Proofs.Snapshot.Spans

/-!
# What the first lines of a source decide

Two sources that begin with the same lines have the same declarations in these lines. A function
whose window ends within them is the same in every field, whatever stands behind. Declarations of
an outline do not tell their lines, so they are first listed with them.
-/

namespace SourceOutline.Outline

open Text

/-- The declarations that a table finds, each with the number of its line. -/
def placedByTable (table : Table) (window : Nat) (lines : List Line) : List (Declaration × Nat) :=
  (firstOffers (offers table lines)).map fun offer =>
    (offer.node table window lines, offer.index + 1)

/-- The declarations of an outline by line patterns, each with the number of its line. -/
def placedTree (language : Language) (window : Nat) (source : List Char) :
    List (Declaration × Nat) :=
  match Table.forLanguage? language with
  | none => []
  | some table => placedByTable table (max window 1) (splitLines source)

/-! ## Lines in two parts -/

/-- Where lines are added, a block ends in the first part if it can. -/
theorem behindBlock_append (block : ImportBlock) (front back : List (Line × Nat)) :
    behindBlock block (front ++ back) = behindBlock block front ++ back ∨
      behindBlock block front = [] ∧
        behindBlock block (front ++ back) = behindBlock block back := by
  rw [behindBlock, List.dropWhile_append]
  split
  · next closed =>
    rw [List.isEmpty_iff] at closed
    exact Or.inr ⟨by rw [behindBlock, closed]; rfl, rfl⟩
  · next stop =>
    rw [List.isEmpty_iff, ← ne_eq, ← List.length_pos_iff] at stop
    exact Or.inl (List.drop_append_of_le_length stop)

/-- Lines added at the end change nothing about the lines before them. -/
theorem declaringLines_append (table : Table) (front back : List (Line × Nat)) :
    ∃ late, late.Sublist back ∧
      declaringLines table (front ++ back) = declaringLines table front ++ late := by
  rw [declaringLines, declaringLines]
  have below := declaringLines_sublist table
  cases known : table.block with
  | none => exact ⟨back, List.Sublist.refl back, rfl⟩
  | some block =>
    have outside (lines : List (Line × Nat)) : (outsideBlocks block lines).Sublist lines := by
      simpa [declaringLines, known] using below lines
    have behind : (behindBlock block back).Sublist back :=
      (List.drop_sublist 1 _).trans (List.dropWhile_sublist _)
    dsimp only
    fun_induction outsideBlocks block front with
    | case1 => exact ⟨_, outside back, rfl⟩
    | case2 entry rest opens ih =>
      obtain ⟨late, sub, joined⟩ := ih
      rw [List.cons_append, outsideBlocks, if_pos opens]
      rcases behindBlock_append block rest back with closes | ⟨none, later⟩
      · exact ⟨late, sub, by rw [closes, joined]⟩
      · -- The block goes on behind the first part, so no line of it is left there.
        exact ⟨_, (outside _).trans behind, by rw [later, none, outsideBlocks, List.nil_append]⟩
    | case3 entry rest skips ih =>
      obtain ⟨late, sub, joined⟩ := ih
      exact ⟨late, sub, by rw [List.cons_append, outsideBlocks, if_neg skips, joined]; rfl⟩

/-- Lines added at the end add offers at the end. -/
theorem offers_append (table : Table) (front back : List Line) :
    ∃ late, offers table (front ++ back) = offers table front ++ late ∧
      ∀ offer ∈ late, front.length ≤ offer.index := by
  obtain ⟨late, sub, joined⟩ :=
    declaringLines_append table front.zipIdx (back.zipIdx front.length)
  refine ⟨late.flatMap (offersOfLine table), ?_, ?_⟩
  · rw [offers, List.zipIdx_append, Nat.zero_add, joined, List.flatMap_append, offers]
  · intro offer listed
    obtain ⟨⟨line, index⟩, place, own⟩ := List.mem_flatMap.mp listed
    have lower : front.length ≤ index := (List.mem_zipIdx (sub.subset place)).1
    have same : offer.index = index := by
      rcases List.mem_append.mp own with cls | function
      · obtain ⟨found, _, rfl⟩ := Option.map_eq_some_iff.mp (Option.mem_toList.mp cls)
        rfl
      · obtain ⟨found, _, rfl⟩ := Option.map_eq_some_iff.mp (Option.mem_toList.mp function)
        rfl
    omega

/-- The first offers of two parts: those of the first part, and of the second those that are
new. -/
theorem firstOffers_append (early late : List Offer) :
    firstOffers (early ++ late) =
      firstOffers early ++ (firstOffers late).filter (·.key ∉ early.map Offer.key) := by
  induction early with
  | nil => simp [firstOffers]
  | cons offer early ih =>
    rw [List.cons_append, firstOffers, ih, firstOffers, List.filter_append, List.filter_filter,
      List.cons_append]
    congr 2
    apply List.filter_congr
    intro other _
    simp [not_or]

/-- The first offers among the first lines are those of these lines alone. -/
theorem filter_firstOffers_append (table : Table) (front back : List Line) :
    (firstOffers (offers table (front ++ back))).filter (·.index < front.length) =
      firstOffers (offers table front) := by
  obtain ⟨late, joined, behind⟩ := offers_append table front back
  rw [joined, firstOffers_append, List.filter_append]
  have kept : (firstOffers (offers table front)).filter (·.index < front.length) =
      firstOffers (offers table front) := by
    rw [List.filter_eq_self]
    intro offer listed
    obtain ⟨line, here, _⟩ := line_of_mem_offers (mem_of_mem_firstOffers listed)
    simpa using (List.getElem?_eq_some_iff.mp here).1
  have dropped : ((firstOffers late).filter (·.key ∉ (offers table front).map Offer.key)).filter
      (·.index < front.length) = [] := by
    rw [List.filter_eq_nil_iff]
    intro offer listed
    have lower := behind offer (mem_of_mem_firstOffers (List.mem_of_mem_filter listed))
    simpa using lower
  rw [kept, dropped, List.append_nil]

/-! ## Functions whose window ends early enough -/

/-- A function is described by the lines above it and those of its window. -/
theorem describe_congr (table : Table) {window other : Nat} (index : Nat) (above : List Line)
    (line : Line) {left right : List Line} (found : Pattern.Found)
    (same : left.take (window - 1) = right.take (other - 1)) :
    describe table window index above line left found =
      describe table other index above line right found := by
  simp only [describe, same]

/-- What stands behind the window of a function does not matter to it. -/
theorem description_append (table : Table) {window : Nat} {front : List Line}
    (back : List Line) {offer : Offer} (wide : 1 ≤ window)
    (inside : offer.index + window ≤ front.length) :
    offer.description table window (front ++ back) = offer.description table window front := by
  have above : (front ++ back).take offer.index = front.take offer.index :=
    List.take_append_of_le_length (by omega)
  have line : (front ++ back).getD offer.index [] = front.getD offer.index [] := by
    rw [List.getD_eq_getElem?_getD, List.getD_eq_getElem?_getD,
      List.getElem?_append_left (by omega)]
  have below : ((front ++ back).drop (offer.index + 1)).take (window - 1) =
      (front.drop (offer.index + 1)).take (window - 1) := by
    rw [List.drop_append_of_le_length (by omega), List.take_append_of_le_length]
    rw [List.length_drop]
    omega
  rw [Offer.description, Offer.description, above, line]
  exact describe_congr table _ _ _ _ below

/-- A class has nothing but its name, and the declaration of a function depends on its window. -/
theorem node_append (table : Table) {window : Nat} {front : List Line} (back : List Line)
    {offer : Offer} (wide : 1 ≤ window)
    (settled : offer.kind = .cls ∨ offer.index + window ≤ front.length) :
    offer.node table window (front ++ back) = offer.node table window front := by
  rw [Offer.node, Offer.node]
  cases kind : offer.kind with
  | cls => rfl
  | function =>
    rw [description_append table back wide (settled.resolve_left (by simp [kind]))]

/-! ## Two sources with the same first lines -/

/-- A declaration in the first lines that nothing behind them can change: a class, or a function
whose window ends within them. -/
def isSettled (window count : Nat) (entry : Declaration × Nat) : Bool :=
  entry.2 ≤ count && (entry.1.kind = .cls || entry.2 - 1 + window ≤ count)

section Parts

variable (table : Table) {window : Nat} (front back : List Line)

/-- Offers that are sought in the first lines only are those of these lines alone. -/
theorem filter_firstOffers_of_early {test : Offer → Bool}
    (early : ∀ offer, test offer = true → offer.index < front.length) :
    (firstOffers (offers table (front ++ back))).filter test =
      (firstOffers (offers table front)).filter test := by
  rw [← filter_firstOffers_append table front back, List.filter_filter]
  apply List.filter_congr
  intro offer _
  cases sought : test offer with
  | false => rfl
  | true => simp [early offer sought]

/-- Records of functions whose window ends within the first lines. -/
theorem settled_records_append (wide : 1 ≤ window) :
    (((firstOffers (offers table (front ++ back))).filter (·.kind = .function)).map
      (Offer.record table window (front ++ back))).filter
        (·.startLine - 1 + window ≤ front.length) =
    (((firstOffers (offers table front)).filter (·.kind = .function)).map
      (Offer.record table window front)).filter (·.startLine - 1 + window ≤ front.length) := by
  have place (lines : List Line) : (fun record : FunctionRecord =>
      decide (record.startLine - 1 + window ≤ front.length)) ∘ Offer.record table window lines =
      fun offer => decide (offer.index + window ≤ front.length) := rfl
  rw [List.filter_map, List.filter_map, place, place, List.filter_filter, List.filter_filter,
    filter_firstOffers_of_early table front back fun offer sought => by
      simp only [Bool.and_eq_true, decide_eq_true_eq] at sought
      omega]
  apply List.map_congr_left
  intro offer listed
  have inside : offer.index + window ≤ front.length := by
    simpa using (Bool.and_eq_true_iff.mp (List.mem_filter.mp listed).2).1
  rw [Offer.record, Offer.record, description_append table back wide inside]

/-- Declarations in the first lines that are settled there. -/
theorem settled_nodes_append (wide : 1 ≤ window) :
    (placedByTable table window (front ++ back)).filter (isSettled window front.length) =
      (placedByTable table window front).filter (isSettled window front.length) := by
  have place (lines : List Line) : isSettled window front.length ∘ (fun offer : Offer =>
      (offer.node table window lines, offer.index + 1)) = fun offer =>
      decide (offer.index + 1 ≤ front.length) &&
        (decide (offer.kind = .cls) || decide (offer.index + window ≤ front.length)) := by
    funext offer
    simp only [Function.comp_apply, isSettled, (offer.node_fields table window lines).1,
      Nat.add_sub_cancel]
  rw [placedByTable, placedByTable, List.filter_map, List.filter_map, place, place,
    filter_firstOffers_of_early table front back fun offer sought => by
      simp only [Bool.and_eq_true, decide_eq_true_eq] at sought
      omega]
  apply List.map_congr_left
  intro offer listed
  have settled : offer.kind = .cls ∨ offer.index + window ≤ front.length := by
    simpa using (Bool.and_eq_true_iff.mp (List.mem_filter.mp listed).2).2
  rw [node_append table back wide settled]

/-- Kinds, names and lines of the declarations in the first lines. -/
theorem early_names_append :
    ((placedByTable table window (front ++ back)).filter (·.2 ≤ front.length)).map
      (fun entry => (entry.1.kind, entry.1.name, entry.2)) =
    ((placedByTable table window front).filter (·.2 ≤ front.length)).map
      (fun entry => (entry.1.kind, entry.1.name, entry.2)) := by
  have named (lines : List Line) : (fun entry : Declaration × Nat =>
      (entry.1.kind, entry.1.name, entry.2)) ∘ (fun offer : Offer =>
      (offer.node table window lines, offer.index + 1)) = fun offer =>
      (offer.kind, offer.name, offer.index + 1) := by
    funext offer
    obtain ⟨kind, name, _⟩ := offer.node_fields table window lines
    rw [Function.comp_apply, kind, name]
  have place (lines : List Line) : (fun entry : Declaration × Nat =>
      decide (entry.2 ≤ front.length)) ∘ (fun offer : Offer =>
      (offer.node table window lines, offer.index + 1)) = fun offer =>
      decide (offer.index + 1 ≤ front.length) := rfl
  rw [placedByTable, placedByTable, List.filter_map, List.filter_map, place, place, List.map_map,
    List.map_map, named, named, filter_firstOffers_of_early table front back fun offer sought => by
      simpa using sought]

end Parts

/-- The placed declarations are those of the outline, and its functions start in their lines. -/
theorem placedTree_eq (language : Language) (window : Nat) (source : List Char) :
    (placedTree language window source).map Prod.fst = (byLine language window source).tree ∧
    ((placedTree language window source).filter (·.1.kind = .function)).map
        (fun entry => (entry.1.name, entry.2)) =
      (byLine language window source).functions.map
        fun record => (record.name, record.startLine) := by
  cases known : Table.forLanguage? language with
  | none => simp [placedTree, byLine, known]
  | some table =>
    have shown := readLines_shows_firstOffers table (max window 1) (splitLines source)
    simp only [placedTree, byLine, known, byTable]
    constructor
    · rw [shown.tree, placedByTable, List.map_map]
      rfl
    · have kinds : (fun entry : Declaration × Nat => decide (entry.1.kind = .function)) ∘
          (fun offer : Offer =>
            (offer.node table (max window 1) (splitLines source), offer.index + 1)) =
          fun offer => decide (offer.kind = .function) := by
        funext offer
        rw [Function.comp_apply, (offer.node_fields table (max window 1) (splitLines source)).1]
      rw [shown.functions, placedByTable, List.filter_map, kinds, List.map_map, List.map_map]
      apply List.map_congr_left
      intro offer _
      rw [Function.comp_apply, (offer.node_fields table (max window 1) (splitLines source)).2.1]
      rfl

/-- For every language, two sources that begin with the same lines have the same declarations in
these lines, in the same order. Functions whose window ends within these lines are the same in
every field, as records and as declarations, and so are classes. -/
theorem byLine_decided_by_first_lines (language : Language) {window count : Nat}
    {left right : List Char} (wide : 1 ≤ window) (long : count ≤ (splitLines left).length)
    (same : (splitLines left).take count = (splitLines right).take count) :
    (∀ source,
      (placedTree language window source).map Prod.fst = (byLine language window source).tree ∧
      ((placedTree language window source).filter (·.1.kind = .function)).map
          (fun entry => (entry.1.name, entry.2)) =
        (byLine language window source).functions.map
          fun record => (record.name, record.startLine)) ∧
    (byLine language window left).functions.filter (·.startLine - 1 + window ≤ count) =
      (byLine language window right).functions.filter (·.startLine - 1 + window ≤ count) ∧
    (placedTree language window left).filter (isSettled window count) =
      (placedTree language window right).filter (isSettled window count) ∧
    ((placedTree language window left).filter (·.2 ≤ count)).map
        (fun entry => (entry.1.kind, entry.1.name, entry.2)) =
      ((placedTree language window right).filter (·.2 ≤ count)).map
        (fun entry => (entry.1.kind, entry.1.name, entry.2)) := by
  refine ⟨placedTree_eq language window, ?_⟩
  cases known : Table.forLanguage? language with
  | none => simp only [byLine, placedTree, known, and_self]
  | some table =>
    -- Both sources are the same first lines and some lines behind them.
    have leftCut := (List.take_append_drop count (splitLines left)).symm
    have rightCut := (List.take_append_drop count (splitLines right)).symm
    have length := List.length_take_of_le long
    rw [← same] at rightCut
    generalize (splitLines left).take count = front at leftCut rightCut length
    have shown (lines : List Line) := (readLines_shows_firstOffers table window lines).functions
    simp only [byLine, placedTree, known, byTable, Nat.max_eq_left wide, shown]
    rw [leftCut, rightCut, ← length]
    exact ⟨(settled_records_append table front _ wide).trans
        (settled_records_append table front _ wide).symm,
      (settled_nodes_append table front _ wide).trans
        (settled_nodes_append table front _ wide).symm,
      (early_names_append table front _).trans (early_names_append table front _).symm⟩

/-- A class, a function with parameters over two lines, and another function. -/
def shortSource : List Char :=
  "class Shape \x7b\n// Draws it\nfunction draw(x,\n  y) \x7b\nmove(x) \x7b".toList

/-- The same first lines, and then a string that is never closed. -/
def brokenSource : List Char :=
  "class Shape \x7b\n// Draws it\nfunction draw(x,\n  y) \x7b\n  */ '(\ndraw(a) \x7b\nturn(".toList

/-- Four lines decide about the class and the first function, whose window ends with them. -/
theorem byLine_shortSource :
    (splitLines shortSource).take 4 = (splitLines brokenSource).take 4 ∧
    (byLine .javaScript 2 brokenSource).functions.filter (·.startLine - 1 + 2 ≤ 4) =
      [⟨"draw", "Draws it", .docComment, "function draw(x,\n  y) \x7b", 3, 4⟩] ∧
    (byLine .javaScript 2 shortSource).functions.filter (·.startLine - 1 + 2 ≤ 4) =
      (byLine .javaScript 2 brokenSource).functions.filter (·.startLine - 1 + 2 ≤ 4) ∧
    (placedTree .javaScript 2 brokenSource).filter (isSettled 2 4) =
      [(⟨.cls, "Shape", "", 0, []⟩, 1), (⟨.function, "draw", "", 0, ["x", "y"]⟩, 3)] ∧
    (placedTree .javaScript 2 shortSource).filter (isSettled 2 4) =
      (placedTree .javaScript 2 brokenSource).filter (isSettled 2 4) := by
  have same : (splitLines shortSource).take 4 = (splitLines brokenSource).take 4 := by
    decide +kernel
  obtain ⟨_, records, nodes, _⟩ := byLine_decided_by_first_lines .javaScript
    (show 1 ≤ 2 by decide) (by decide +kernel) same
  exact ⟨same, by decide +kernel, records, by decide +kernel, nodes⟩

end SourceOutline.Outline
