import SourceOutline.Proofs.Outline.ParameterNames

/-!
# Parts of a parameter text

A parameter text is cut at the commas that stand outside of brackets and literals. Behind such a
comma the reading stands as it does at the start of a text: no bracket is open, and a comma is not
the first half of an arrow. So each part is read alike inside the text and on its own. The main
statement says that the parts make up the text, that no part can be cut further, and that there are
no other parts like these.
-/

namespace SourceOutline.Outline

open Text

/-! ## Places of a reading -/

/-- Where the reading of a parameter text stands. -/
structure Standing where
  /-- The number of open brackets. -/
  depth : Nat
  /-- The state with respect to literals. -/
  state : StringState
  /-- The character in front. -/
  previous : Char

namespace Standing

/-- At the start of a text. -/
def start : Standing := ⟨0, .outside, Char.ofNat 0⟩

/-- The character in front may be the first half of an arrow. -/
def BeginsArrow (previous : Char) : Prop := previous = '-' ∨ previous = '='

/-- Whether an arrow begins can be tested. -/
instance (previous : Char) : Decidable (BeginsArrow previous) :=
  inferInstanceAs (Decidable (_ ∨ _))

/-- How many brackets are open behind a bare character. A bracket that closes none counts for
nothing, and so does the second half of an arrow. -/
def bracketsBehind (depth : Nat) (previous c : Char) : Nat :=
  if c ∈ ['(', '[', '\x7b', '<'] then depth + 1
  else if c = '>' ∧ BeginsArrow previous then depth
  else if c ∈ [')', ']', '\x7d', '>'] then depth - 1
  else depth

/-- Behind one more character. -/
def next (quotes : List Char) (standing : Standing) (c : Char) : Standing :=
  { depth :=
      if IsBare quotes standing.state c then bracketsBehind standing.depth standing.previous c
      else standing.depth
    state := standing.state.next quotes c
    previous := c }

/-- A comma that follows stands outside of brackets and literals. -/
def Cuts (quotes : List Char) (standing : Standing) : Prop :=
  standing.depth = 0 ∧ IsBare quotes standing.state ','

/-- Whether a comma cuts can be tested. -/
instance (quotes : List Char) (standing : Standing) : Decidable (standing.Cuts quotes) :=
  inferInstanceAs (Decidable (_ ∧ _))

/-- Behind a text. -/
def behind (quotes : List Char) (standing : Standing) (text : List Char) : Standing :=
  text.foldl (next quotes) standing

/-- The parts of a text that is read from here on. -/
def parts (quotes : List Char) (standing : Standing) (text : List Char) : List (List Char) :=
  splitParameters quotes standing.depth standing.state standing.previous text

/-- There is at least one part. -/
theorem parts_ne_nil (quotes : List Char) (standing : Standing) (text : List Char) :
    standing.parts quotes text ≠ [] :=
  splitParameters_ne_nil quotes standing.depth standing.state standing.previous text

/-- The text is cut where a comma cuts, and any other character belongs to the first part. -/
theorem parts_cons (quotes : List Char) (standing : Standing) (c : Char) (rest : List Char) :
    standing.parts quotes (c :: rest) =
      if c = ',' ∧ standing.Cuts quotes then [] :: (standing.next quotes c).parts quotes rest
      else growFirst c ((standing.next quotes c).parts quotes rest) := by
  obtain ⟨depth, state, previous⟩ := standing
  cases state with
  | inside quote => simp [parts, splitParameters, next, Cuts, IsBare, StringState.next]
  | escaped quote => simp [parts, splitParameters, next, Cuts, IsBare, StringState.next]
  | outside =>
    by_cases quote : c ∈ quotes
    · have bare : ¬ IsBare quotes .outside c := fun bare => bare.2 quote
      have whole : ¬ (c = ',' ∧ Cuts quotes ⟨depth, .outside, previous⟩) := by
        rintro ⟨rfl, _, bare⟩
        exact bare.2 quote
      rw [if_neg whole, parts, splitParameters, if_pos (by simpa using quote), next, if_neg bare]
      simp [parts, StringState.next, quote]
    · have bare : IsBare quotes .outside c := ⟨rfl, quote⟩
      rw [parts, splitParameters, if_neg (by simpa using quote), next, if_pos bare, bracketsBehind]
      simp only [parts, Cuts, StringState.next, quote, if_false, BeginsArrow]
      -- Both sides test for brackets, arrows and commas, so the tests agree or exclude each other.
      split_ifs <;> grind [IsBare]

/-! ## Places that are alike -/

/-- From both places every text is read in the same way. -/
structure Alike (first second : Standing) : Prop where
  /-- As many brackets are open. -/
  depth : first.depth = second.depth
  /-- The states are the same. -/
  state : first.state = second.state
  /-- An arrow has begun in front of both or of neither. -/
  arrow : BeginsArrow first.previous ↔ BeginsArrow second.previous

section Alike

variable {quotes : List Char} {first second standing : Standing}

/-- One character further the two places are the same. -/
theorem Alike.next_eq (alike : first.Alike second) (c : Char) :
    first.next quotes c = second.next quotes c := by
  obtain ⟨depth, state, arrow⟩ := alike
  rw [next, next, bracketsBehind, bracketsBehind, depth, state]
  simp only [arrow]

/-- States that are alike divide every text alike. -/
theorem Alike.parts_eq (alike : first.Alike second) (text : List Char) :
    first.parts quotes text = second.parts quotes text := by
  cases text with
  | nil => rfl
  | cons c rest =>
    have cuts : first.Cuts quotes ↔ second.Cuts quotes := by
      rw [Cuts.eq_def, Cuts.eq_def, alike.depth, alike.state]
    rw [parts_cons, parts_cons, alike.next_eq]
    simp only [cuts]

/-- Behind a comma that cuts, a text is read as at its start. -/
theorem Cuts.alike_start (cuts : standing.Cuts quotes) :
    (standing.next quotes ',').Alike start := by
  obtain ⟨flat, outside, bare⟩ := cuts
  refine ⟨?_, ?_, ?_⟩
  · have comma : bracketsBehind 0 standing.previous ',' = 0 := by
      rw [bracketsBehind, if_neg (by decide), if_neg (fun arrow => absurd arrow.1 (by decide)),
        if_neg (by decide)]
    rw [next, if_pos ⟨outside, bare⟩, flat, comma]
    rfl
  · rw [next, outside]
    exact if_neg bare
  · change BeginsArrow ',' ↔ BeginsArrow (Char.ofNat 0)
    decide

end Alike

/-! ## Texts without a cut -/

/-- Behind `front` the text has a comma that cuts it when it is read from here on. -/
def CutsAt (quotes : List Char) (standing : Standing) (text front : List Char) : Prop :=
  front ++ [','] <+: text ∧ (standing.behind quotes front).Cuts quotes

/-- No comma of the text cuts it when it is read from here on. -/
def Whole (quotes : List Char) (standing : Standing) (text : List Char) : Prop :=
  ∀ front, ¬ standing.CutsAt quotes text front

section Whole

variable {quotes : List Char} {standing : Standing}

/-- A whole text does not start with a comma that cuts, and the rest of it is whole. -/
theorem whole_cons {c : Char} {rest : List Char} (whole : standing.Whole quotes (c :: rest)) :
    ¬ (c = ',' ∧ standing.Cuts quotes) ∧ (standing.next quotes c).Whole quotes rest := by
  constructor
  · rintro ⟨rfl, cuts⟩
    exact whole [] ⟨List.cons_prefix_cons.mpr ⟨rfl, List.nil_prefix⟩, cuts⟩
  · rintro front ⟨starts, cuts⟩
    exact whole (c :: front) ⟨List.cons_prefix_cons.mpr ⟨rfl, starts⟩, cuts⟩

/-- A text without a cut belongs to the first part of what follows. -/
theorem parts_append {front : List Char} (whole : standing.Whole quotes front)
    (rest : List Char) :
    standing.parts quotes (front ++ rest) =
      ((standing.behind quotes front).parts quotes rest).modifyHead (front ++ ·) := by
  induction front generalizing standing with
  | nil => exact (congrFun List.modifyHead_id _).symm
  | cons c front ih =>
    obtain ⟨kept, inner⟩ := whole_cons whole
    have passed : standing.behind quotes (c :: front) =
        (standing.next quotes c).behind quotes front := rfl
    obtain ⟨part, others, cut⟩ := List.exists_cons_of_ne_nil
      (parts_ne_nil quotes (standing.behind quotes (c :: front)) rest)
    rw [List.cons_append, parts_cons, if_neg kept, ih inner, ← passed, cut]
    rfl

/-- Where a comma cuts, what stands behind it is divided on its own. -/
theorem parts_append_comma {front : List Char} (whole : standing.Whole quotes front)
    (cuts : (standing.behind quotes front).Cuts quotes) (rest : List Char) :
    standing.parts quotes (front ++ ',' :: rest) = front :: start.parts quotes rest := by
  rw [parts_append whole, parts_cons, if_pos ⟨rfl, cuts⟩, cuts.alike_start.parts_eq,
    List.modifyHead_cons, List.append_nil]

/-- A text without a cut is one part. -/
theorem parts_eq_singleton {text : List Char} (whole : standing.Whole quotes text) :
    standing.parts quotes text = [text] := by
  have alone := parts_append whole []
  rw [List.append_nil] at alone
  rw [alone, parts, splitParameters, List.modifyHead_cons, List.append_nil]

/-- A text is without a cut, or a part without one stands in front of the first comma that cuts. -/
theorem whole_or_exists_cut (quotes text : List Char) :
    start.Whole quotes text ∨ ∃ front rest, text = front ++ ',' :: rest ∧
      start.Whole quotes front ∧ (start.behind quotes front).Cuts quotes := by
  by_cases whole : start.Whole quotes text
  · exact Or.inl whole
  · obtain ⟨place, somewhere⟩ : ∃ place, start.CutsAt quotes text place := by
      simpa [Whole] using whole
    obtain ⟨front, ⟨⟨⟨rest, here⟩, cuts⟩, least⟩, _⟩ := exists_isShortest somewhere
    refine Or.inr ⟨front, rest, by rw [← here, List.append_assoc]; rfl, ?_, cuts⟩
    -- A cut inside of the front would be an earlier one of the text.
    rintro before ⟨inside, also⟩
    have within : before ++ [','] <+: text :=
      inside.trans ((List.prefix_append front [',']).trans ⟨rest, here⟩)
    have longer := least before ⟨within, also⟩
    have shorter := inside.length_le
    rw [List.length_append, List.length_singleton] at shorter
    omega

end Whole

end Standing

/-! ## The parts of a text -/

/-- The pieces are those between the commas of the text outside of brackets and literals. -/
structure Divides (quotes : List Char) (pieces : List (List Char)) (text : List Char) : Prop where
  /-- There is a piece. -/
  filled : pieces ≠ []
  /-- The pieces with commas between them are the text. -/
  joined : [','].intercalate pieces = text
  /-- No piece has a comma outside of brackets and literals. -/
  whole : ∀ piece ∈ pieces, Standing.start.Whole quotes piece
  /-- The comma behind a piece stands outside of brackets and literals. -/
  cut : ∀ piece ∈ pieces.dropLast, (Standing.start.behind quotes piece).Cuts quotes

section Divides

variable {quotes text : List Char}

/-- A text is divided in one way only. -/
theorem Divides.parameterParts_eq {pieces : List (List Char)}
    (divides : Divides quotes pieces text) : parameterParts quotes text = pieces := by
  induction pieces generalizing text with
  | nil => exact absurd rfl divides.filled
  | cons piece pieces ih =>
    obtain ⟨_, rfl, whole, cut⟩ := divides
    obtain ⟨first, others⟩ := List.forall_mem_cons.mp whole
    cases pieces with
    | nil =>
      rw [List.intercalate_singleton]
      exact Standing.parts_eq_singleton first
    | cons next pieces =>
      rw [List.dropLast_cons_cons] at cut
      obtain ⟨comma, commas⟩ := List.forall_mem_cons.mp cut
      have rest := ih ⟨List.cons_ne_nil next pieces, rfl, others, commas⟩
      have joined : [','].intercalate (piece :: next :: pieces) =
          piece ++ ',' :: [','].intercalate (next :: pieces) := by
        simp [List.intercalate_cons_cons]
      rw [joined]
      exact (Standing.parts_append_comma first comma _).trans (congrArg (piece :: ·) rest)

/-- No part has a comma that cuts, and the comma behind a part cuts. -/
theorem parameterParts_whole_and_cut (quotes text : List Char) :
    (∀ part ∈ parameterParts quotes text, Standing.start.Whole quotes part) ∧
    ∀ part ∈ (parameterParts quotes text).dropLast,
      (Standing.start.behind quotes part).Cuts quotes := by
  -- What stands behind the first comma that cuts is shorter than the text.
  induction length : text.length using Nat.strong_induction_on generalizing text with
  | _ _ ih =>
    rcases Standing.whole_or_exists_cut quotes text with whole | ⟨front, rest, rfl, whole, cuts⟩
    · have single : parameterParts quotes text = [text] := Standing.parts_eq_singleton whole
      rw [single]
      exact ⟨by simpa using whole, by simp⟩
    · have parts : parameterParts quotes (front ++ ',' :: rest) =
          front :: parameterParts quotes rest := Standing.parts_append_comma whole cuts rest
      have shorter : rest.length < (front ++ ',' :: rest).length := by simp; omega
      obtain ⟨others, commas⟩ := ih _ (length ▸ shorter) rest rfl
      have filled : parameterParts quotes rest ≠ [] :=
        Standing.parts_ne_nil quotes Standing.start rest
      rw [parts, List.dropLast_cons_of_ne_nil filled]
      exact ⟨List.forall_mem_cons.mpr ⟨whole, others⟩, List.forall_mem_cons.mpr ⟨cuts, commas⟩⟩

/-- The parts of a text divide it. -/
theorem divides_parameterParts (quotes text : List Char) :
    Divides quotes (parameterParts quotes text) text :=
  { filled := Standing.parts_ne_nil quotes Standing.start text
    joined := intercalate_splitParameters quotes 0 .outside (Char.ofNat 0) text
    whole := (parameterParts_whole_and_cut quotes text).1
    cut := (parameterParts_whole_and_cut quotes text).2 }

/-- For every set of quotes and every text there is a part, the parts with commas between them are
the text, and each part on its own is one part, since it has no comma outside of brackets and
literals. The parts are the only pieces of the text without such a comma between such commas. -/
theorem parameterParts_divide_completely (quotes text : List Char) :
    parameterParts quotes text ≠ [] ∧
    [','].intercalate (parameterParts quotes text) = text ∧
    (∀ part ∈ parameterParts quotes text,
      parameterParts quotes part = [part] ∧ Standing.start.Whole quotes part) ∧
    ∀ pieces, Divides quotes pieces text ↔ pieces = parameterParts quotes text := by
  have divides := divides_parameterParts quotes text
  refine ⟨divides.filled, divides.joined, fun part listed => ?_, fun pieces => ⟨?_, ?_⟩⟩
  · have whole := divides.whole part listed
    exact ⟨Standing.parts_eq_singleton whole, whole⟩
  · exact fun also => also.parameterParts_eq.symm
  · rintro rfl
    exact divides

/-- Commas in a literal behind an escaped quote and in brackets in front of an arrow, then a bracket
that closes nothing, and a bracket and a literal that are left open. -/
def unbalancedText : List Char := "a = \"x,\\\",\", f = (x, y) => z>, m: [K, \"V,".toList

/-- The text has two commas outside of brackets and literals, and its last part none, since the
bracket is open. -/
theorem parameterParts_unbalancedText :
    parameterParts ['"'] unbalancedText =
      ["a = \"x,\\\",\"".toList, " f = (x, y) => z>".toList, " m: [K, \"V,".toList] ∧
    parameterParts ['"'] " m: [K, \"V,".toList = [" m: [K, \"V,".toList] ∧
    Standing.start.Whole ['"'] " m: [K, \"V,".toList := by
  have parts : parameterParts ['"'] unbalancedText =
      ["a = \"x,\\\",\"".toList, " f = (x, y) => z>".toList, " m: [K, \"V,".toList] := by
    decide +kernel
  have last : " m: [K, \"V,".toList ∈ parameterParts ['"'] unbalancedText := by simp [parts]
  exact ⟨parts, (parameterParts_divide_completely ['"'] unbalancedText).2.2.1 _ last⟩

end Divides

end SourceOutline.Outline
