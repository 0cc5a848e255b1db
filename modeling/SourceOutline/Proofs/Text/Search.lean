import Mathlib.Tactic.Conv
import SourceOutline.Proofs.Text.Trim
import SourceOutline.Text.Search

/-!
# Places inside a text

A cut at a needle gives the text around the first place where it stands, so what is written behind
that place ends up behind the cut. A character that is not in the needle makes no new place. The
pieces between all places of a needle stand in the text, and the needle stands in none of them.
-/

namespace SourceOutline.Text

section Needle

variable {needle : List Char} {c : Char} (outside : c ∉ needle)

include outside

/-- A character that does not stand in the needle adds no match at the end. -/
theorem isPrefixOf_concat (text : List Char) :
    needle.isPrefixOf (text ++ [c]) = needle.isPrefixOf text := by
  rw [Bool.eq_iff_iff, List.isPrefixOf_iff_prefix, List.isPrefixOf_iff_prefix,
    List.prefix_concat_iff]
  constructor
  · rintro (rfl | within)
    · simp at outside
    · exact within
  · exact Or.inr

/-- A character outside the needle does not complete it. -/
theorem hasInfix_concat (text : List Char) :
    hasInfix needle (text ++ [c]) = hasInfix needle text := by
  induction text with
  | nil =>
    have alone := isPrefixOf_concat outside []
    rw [List.nil_append] at alone ⊢
    rw [hasInfix, hasInfix, alone]
    cases needle <;> rfl
  | cons d rest ih =>
    rw [List.cons_append, hasInfix, ← List.cons_append, isPrefixOf_concat outside, ih, hasInfix]

end Needle

/-- A text holds another when that stands in it. -/
theorem hasInfix_iff {needle text : List Char} :
    hasInfix needle text = true ↔ needle <:+: text := by
  induction text with
  | nil => rw [hasInfix, List.isEmpty_iff, List.infix_nil]
  | cons c rest ih =>
    rw [hasInfix, Bool.or_eq_true, List.isPrefixOf_iff_prefix, ih, List.infix_cons_iff]

/-- A cut leaves out the needle. -/
theorem eq_of_cutAt? {needle text front back : List Char}
    (cut : cutAt? needle text = some (front, back)) : text = front ++ (needle ++ back) := by
  fun_induction cutAt? needle text generalizing front back with
  | case1 empty =>
    rw [List.isEmpty_iff.mp empty]
    simp_all
  | case2 => simp at cut
  | case3 c rest starts =>
    obtain ⟨tail, same⟩ := List.isPrefixOf_iff_prefix.mp starts
    obtain ⟨rfl, rfl⟩ := Prod.mk.inj (Option.some.inj cut)
    rw [← same, List.drop_left, List.nil_append]
  | case4 c rest _ ih =>
    obtain ⟨⟨inner, tail⟩, found, same⟩ := Option.map_eq_some_iff.mp cut
    obtain ⟨rfl, rfl⟩ := Prod.mk.inj same
    exact congrArg (c :: ·) (ih found)

/-- There is a cut where the needle stands. -/
theorem isSome_cutAt? (needle text : List Char) :
    (cutAt? needle text).isSome = hasInfix needle text := by
  fun_induction cutAt? needle text with
  | case1 empty => exact empty.symm
  | case2 filled => simpa [hasInfix] using filled
  | case3 c rest starts => rw [hasInfix, starts, Bool.true_or, Option.isSome_some]
  | case4 c rest other ih =>
    rw [Option.isSome_map, ih, hasInfix, Bool.eq_false_iff.mpr other, Bool.false_or]

/-- There is no cut where the needle does not stand. -/
theorem cutAt?_eq_none_iff {needle text : List Char} :
    cutAt? needle text = none ↔ ¬ needle <:+: text := by
  rw [← hasInfix_iff, ← isSome_cutAt?, Option.not_isSome_iff_eq_none]

/-- The cut is at the first place: in front of it the needle does not stand. -/
theorem not_infix_of_cutAt? {needle text front back : List Char} (filled : needle ≠ [])
    (cut : cutAt? needle text = some (front, back)) : ¬ needle <:+: front := by
  fun_induction cutAt? needle text generalizing front back with
  | case1 empty => exact absurd (List.isEmpty_iff.mp empty) filled
  | case2 => simp at cut
  | case3 c rest starts =>
    obtain ⟨rfl, _⟩ := Prod.mk.inj (Option.some.inj cut)
    rwa [List.infix_nil]
  | case4 c rest other ih =>
    obtain ⟨⟨inner, tail⟩, found, same⟩ := Option.map_eq_some_iff.mp cut
    obtain ⟨rfl, rfl⟩ := Prod.mk.inj same
    rw [List.infix_cons_iff, not_or]
    refine ⟨fun starts => other (List.isPrefixOf_iff_prefix.mpr ?_), ih found⟩
    rw [eq_of_cutAt? found, ← List.cons_append]
    exact starts.trans (List.prefix_append _ _)

/-- What is written behind a text with the needle comes behind the cut. -/
theorem cutAt?_append {needle text front back : List Char}
    (cut : cutAt? needle text = some (front, back)) (more : List Char) :
    cutAt? needle (text ++ more) = some (front, back ++ more) := by
  fun_induction cutAt? needle text generalizing front back with
  | case1 empty =>
    rw [List.isEmpty_iff.mp empty]
    cases more <;> simp_all [cutAt?]
  | case2 => simp at cut
  | case3 c rest starts =>
    have within := List.isPrefixOf_iff_prefix.mp starts
    have still : needle.isPrefixOf (c :: (rest ++ more)) = true :=
      List.isPrefixOf_iff_prefix.mpr (within.trans (List.prefix_append (c :: rest) more))
    obtain ⟨rfl, rfl⟩ := Prod.mk.inj (Option.some.inj cut)
    rw [List.cons_append, cutAt?, if_pos still, ← List.cons_append,
      List.drop_append_of_le_length within.length_le]
  | case4 c rest other ih =>
    obtain ⟨⟨inner, tail⟩, found, same⟩ := Option.map_eq_some_iff.mp cut
    obtain ⟨rfl, rfl⟩ := Prod.mk.inj same
    -- The needle stands further on, so it is too short to reach into what is added.
    have long : needle.length ≤ (c :: rest).length := by
      rw [eq_of_cutAt? found]
      simp
      omega
    have still : ¬ needle.isPrefixOf (c :: (rest ++ more)) = true := by
      intro starts
      exact other (List.isPrefixOf_iff_prefix.mpr (List.prefix_of_prefix_length_le
        (List.isPrefixOf_iff_prefix.mp starts) (List.prefix_append (c :: rest) more) long))
    rw [List.cons_append, cutAt?, if_neg still, ih found]
    rfl

/-- A cut at a character is a cut at the first place where it stands. -/
theorem cutAt?_char_append {c : Char} {front : List Char} (outside : c ∉ front)
    (back : List Char) : cutAt? [c] (front ++ c :: back) = some (front, back) := by
  induction front with
  | nil => simp [cutAt?]
  | cons d front ih =>
    rw [List.mem_cons, not_or] at outside
    obtain ⟨other, inner⟩ := outside
    have starts : ¬ [c].isPrefixOf (d :: (front ++ c :: back)) = true := by simpa using other
    rw [List.cons_append, cutAt?, if_neg starts, ih inner]
    rfl

/-- There is no cut at a character that does not stand in the text. -/
theorem cutAt?_char_eq_none {c : Char} {text : List Char} (outside : c ∉ text) :
    cutAt? [c] text = none := by
  cases cut : cutAt? [c] text with
  | none => rfl
  | some parts =>
    rw [eq_of_cutAt? cut] at outside
    simp at outside

/-! ## Pieces between places -/

/-- The pieces stand in the text, and the needle stands in none of them. -/
theorem splitOnText_go_spec {needle : List Char} (filled : needle ≠ []) {fuel : Nat}
    {text : List Char} (enough : text.length ≤ fuel) :
    ∀ piece ∈ splitOnText.go needle fuel text, ¬ needle <:+: piece ∧ piece <:+: text := by
  induction fuel generalizing text with
  | zero =>
    obtain rfl := List.length_eq_zero_iff.mp (Nat.le_zero.mp enough)
    simp [splitOnText.go, filled]
  | succ fuel ih =>
    rw [splitOnText.go, if_neg (by simpa using filled)]
    split
    · next uncut => simpa using cutAt?_eq_none_iff.mp uncut
    · next front back cut =>
      have whole := eq_of_cutAt? cut
      have shorter : back.length ≤ fuel := by
        have long := List.length_pos_iff.mpr filled
        rw [whole, List.length_append, List.length_append] at enough
        omega
      refine List.forall_mem_cons.mpr ⟨⟨not_infix_of_cutAt? filled cut, ?_⟩, fun piece listed => ?_⟩
      · exact ⟨[], needle ++ back, by simp [whole]⟩
      · obtain ⟨outside, inside⟩ := ih shorter piece listed
        exact ⟨outside, inside.trans ⟨front ++ needle, [], by simp [whole]⟩⟩

/-- The pieces of a text stand in it and do not hold the needle. -/
theorem splitOnText_spec {needle : List Char} (filled : needle ≠ []) (text : List Char) :
    ∀ piece ∈ splitOnText needle text, ¬ needle <:+: piece ∧ piece <:+: text :=
  splitOnText_go_spec filled (Nat.le_refl _)

/-- A text in which the needle does not stand is one piece. -/
theorem splitOnText_eq_singleton {needle text : List Char} (outside : ¬ needle <:+: text) :
    splitOnText needle text = [text] := by
  rw [splitOnText]
  cases text.length with
  | zero => rfl
  | succ fuel =>
    rw [splitOnText.go, cutAt?_eq_none_iff.mpr outside]
    exact ite_self _

/-! ## Endings -/

/-- An ending that is there is dropped. -/
theorem dropEnding?_append (ending text : List Char) :
    dropEnding? ending (text ++ ending) = some text := by
  rw [dropEnding?, if_pos (List.isSuffixOf_iff_suffix.mpr (List.suffix_append _ _))]
  simp

/-- What is left without the ending is followed by it. -/
theorem eq_of_dropEnding? {ending text rest : List Char}
    (dropped : dropEnding? ending text = some rest) : text = rest ++ ending := by
  rw [dropEnding?] at dropped
  split at dropped
  next ends =>
    obtain ⟨front, rfl⟩ := List.isSuffixOf_iff_suffix.mp ends
    simp at dropped
    rw [dropped]
  · contradiction

/-! ## The last place of a character -/

/-- What stands in a list has a last place there. -/
theorem exists_last_of_mem {α : Type} {item : α} {items : List α} (inside : item ∈ items) :
    ∃ front back, items = front ++ item :: back ∧ item ∉ back := by
  obtain ⟨behind, before, reversed, outside⟩ :=
    List.eq_append_cons_of_mem (List.mem_reverse.mpr inside)
  refine ⟨before.reverse, behind.reverse, ?_, by rwa [List.mem_reverse]⟩
  rw [← List.reverse_reverse items, reversed]
  simp

/-- A cut at the last place of a character gives what stands behind it. -/
theorem cutAtLast?_append {mark : Char} {back : List Char} (outside : mark ∉ back)
    (front : List Char) : cutAtLast? mark (front ++ mark :: back) = some (front, back) := by
  have tail : ((front ++ mark :: back).reverse.takeWhile (· != mark)).reverse = back := by
    rw [List.reverse_append, List.reverse_cons, List.append_assoc, List.takeWhile_append_of_pos,
      List.singleton_append, List.takeWhile_cons_of_neg (by simp), List.append_nil,
      List.reverse_reverse]
    intro c inside
    exact bne_iff_ne.mpr fun same => outside (same ▸ List.mem_reverse.mp inside)
  have length : (front ++ mark :: back).length - back.length - 1 = front.length := by simp; omega
  rw [cutAtLast?, tail, length, if_pos (by simp; omega), List.take_left]

/-- There is no cut without the mark. -/
theorem cutAtLast?_eq_none {mark : Char} {text : List Char} (outside : mark ∉ text) :
    cutAtLast? mark text = none := by
  have whole : (text.reverse.takeWhile (· != mark)).reverse = text := by
    rw [List.takeWhile_eq_self_iff.mpr, List.reverse_reverse]
    intro c inside
    exact bne_iff_ne.mpr fun same => outside (same ▸ List.mem_reverse.mp inside)
  rw [cutAtLast?, whole, if_neg (Nat.lt_irrefl _)]

/-- There is one cut at the last place of a character: behind it the character does not stand. -/
theorem cutAtLast?_eq_some_iff {mark : Char} {text front back : List Char} :
    cutAtLast? mark text = some (front, back) ↔ text = front ++ mark :: back ∧ mark ∉ back := by
  constructor
  · intro cut
    by_cases inside : mark ∈ text
    · obtain ⟨before, behind, rfl, outside⟩ := exists_last_of_mem inside
      rw [cutAtLast?_append outside] at cut
      obtain ⟨rfl, rfl⟩ := Prod.mk.inj (Option.some.inj cut)
      exact ⟨rfl, outside⟩
    · rw [cutAtLast?_eq_none inside] at cut
      contradiction
  · rintro ⟨rfl, outside⟩
    exact cutAtLast?_append outside front

/-! ## Blanks at the end -/

/-- Nothing is dropped in front of what stays of the end. -/
theorem trimEnd_append_of_ne_nil (front : List Char) {back : List Char}
    (stays : trimEnd back ≠ []) : trimEnd (front ++ back) = front ++ trimEnd back := by
  rw [trimEnd, dropWhileEnd, Ne, List.reverse_eq_nil_iff] at stays
  rw [trimEnd, trimEnd, dropWhileEnd, dropWhileEnd, List.reverse_append, List.dropWhile_append,
    if_neg (by simpa using stays), List.reverse_append, List.reverse_reverse]

/-- The trimmed text stands at the end of the text without the blanks behind. -/
theorem trim_suffix_trimEnd (text : List Char) : trim text <:+ trimEnd text := by
  by_cases empty : trim text = []
  · rw [empty]
    exact List.nil_suffix
  · have cut : trimEnd text = text.takeWhile isBlank ++ trim text := by
      conv_lhs => rw [← List.takeWhile_append_dropWhile (p := isBlank) (l := text)]
      exact trimEnd_append_of_ne_nil _ empty
    rw [cut]
    exact List.suffix_append _ _

end SourceOutline.Text
