import Mathlib.Data.List.TakeWhile
import SourceOutline.Text.Blank

/-!
# Trimmed texts

What is left of a text without the characters of one kind at its end (`cutsEnd_iff`) or on both
sides (`strips_iff`), said without the way in which they are dropped: such characters stand around
what is left, and none of them at its ends. So it is for the blanks around a text: there is one
trimmed text (`trims_iff`), and it is empty only for a blank text. Which characters are not blank is
told by their code points (`isBlank_eq_false`).
-/

namespace SourceOutline.Text

/-! ## Characters of one kind -/

section Kind

variable {test : Char → Bool} {text kept : List Char}

/-- The second text is the first one without the characters of the kind at its end. -/
structure CutsEnd (test : Char → Bool) (text kept : List Char) : Prop where
  /-- There are only such characters behind it. -/
  cut : ∃ back, text = kept ++ back ∧ ∀ c ∈ back, test c
  /-- It does not end with one. -/
  stops : ∀ c ∈ kept.getLast?, test c = false

/-- The second text is the first one without the characters of the kind on both sides. -/
structure Strips (test : Char → Bool) (text kept : List Char) : Prop where
  /-- There are only such characters around it. -/
  cut : ∃ front back, text = front ++ (kept ++ back) ∧ (∀ c ∈ front, test c) ∧ ∀ c ∈ back, test c
  /-- It does not begin with one. -/
  starts : ∀ c ∈ kept.head?, test c = false
  /-- It does not end with one. -/
  stops : ∀ c ∈ kept.getLast?, test c = false

/-- Nothing is dropped in front of a character that is to stay. -/
theorem dropWhile_eq_self (stays : ∀ c ∈ text.head?, test c = false) :
    text.dropWhile test = text := by
  cases text with
  | nil => rfl
  | cons c text => exact List.dropWhile_cons_of_neg (by simp [stays c rfl])

/-- What is left begins with a character that is to stay. -/
theorem head?_dropWhile : ∀ c ∈ (text.dropWhile test).head?, test c = false := by
  intro c head
  have stays := List.head?_dropWhile_not test text
  rw [Option.mem_def.mp head] at stays
  exact stays

/-- Characters of the kind are taken up to the first of another kind. -/
theorem takeWhile_append_left {front rest : List Char} (ofKind : ∀ c ∈ front, test c)
    (stops : ∀ c ∈ rest.head?, test c = false) : (front ++ rest).takeWhile test = front := by
  rw [List.takeWhile_append_of_pos ofKind]
  cases rest with
  | nil => rw [List.takeWhile_nil, List.append_nil]
  | cons c rest => rw [List.takeWhile_cons_of_neg (by simp [stops c rfl]), List.append_nil]

/-- The text up to a mark is what stands in front of it. -/
theorem takeWhile_ne_append {mark : Char} {front rest : List Char} (noMark : mark ∉ front)
    (stops : ∀ c ∈ rest.head?, c = mark) : (front ++ rest).takeWhile (· != mark) = front := by
  refine takeWhile_append_left ?_ ?_
  · intro c member
    exact bne_iff_ne.mpr fun same => noMark (same ▸ member)
  · intro c head
    rw [stops c head, bne_self_eq_false]

/-- What is dropped at the end stands behind what is left. -/
theorem dropWhileEnd_append (test : Char → Bool) (text : List Char) :
    dropWhileEnd test text ++ (text.reverse.takeWhile test).reverse = text := by
  rw [dropWhileEnd, ← List.reverse_append, List.takeWhile_append_dropWhile, List.reverse_reverse]

/-- There is one text without the characters of the kind at its end. -/
theorem cutsEnd_iff : CutsEnd test text kept ↔ kept = dropWhileEnd test text := by
  constructor
  · rintro ⟨⟨back, rfl, ofKind⟩, stops⟩
    rw [dropWhileEnd, List.reverse_append, List.dropWhile_append_of_pos (by simpa using ofKind),
      dropWhile_eq_self (by
        rw [List.head?_reverse]
        exact stops), List.reverse_reverse]
  · rintro rfl
    refine ⟨⟨_, (dropWhileEnd_append test text).symm, ?_⟩, ?_⟩
    · exact fun c member => List.mem_takeWhile_imp (List.mem_reverse.mp member)
    · rw [dropWhileEnd, List.getLast?_reverse]
      exact head?_dropWhile

/-- Dropping characters of the kind at the end cuts them off. -/
theorem cutsEnd_dropWhileEnd (test : Char → Bool) (text : List Char) :
    CutsEnd test text (dropWhileEnd test text) := cutsEnd_iff.mpr rfl

/-- There is one text without the characters of the kind on both sides. -/
theorem strips_iff : Strips test text kept ↔ kept = dropWhileEnd test (text.dropWhile test) := by
  constructor
  · rintro ⟨⟨front, back, rfl, inFront, behind⟩, starts, stops⟩
    rw [List.dropWhile_append_of_pos inFront]
    cases kept with
    | nil =>
      rw [List.nil_append, List.dropWhile_eq_nil_iff.mpr behind]
      rfl
    | cons c kept =>
      rw [dropWhile_eq_self (by simpa using starts)]
      exact cutsEnd_iff.mp ⟨⟨back, rfl, behind⟩, stops⟩
  · intro same
    obtain ⟨⟨back, cut, behind⟩, stops⟩ := cutsEnd_iff.mpr same
    refine ⟨⟨text.takeWhile test, back, ?_, fun c => List.mem_takeWhile_imp, behind⟩, ?_, stops⟩
    · rw [← cut, List.takeWhile_append_dropWhile]
    · intro c head
      -- What begins the text that is left begins the text without the characters in front.
      have first : (text.dropWhile test).head? = some c := by
        rw [cut, List.head?_append, Option.mem_def.mp head]
        rfl
      exact head?_dropWhile c first

end Kind

/-! ## Blanks -/

/-- The code points of the blanks. -/
def blankCodes : List Nat :=
  [0x9, 0xa, 0xb, 0xc, 0xd, 0x20, 0x85, 0xa0, 0x1680, 0x2000, 0x2001, 0x2002, 0x2003, 0x2004,
    0x2005, 0x2006, 0x2007, 0x2008, 0x2009, 0x200a, 0x2028, 0x2029, 0x202f, 0x205f, 0x3000]

/-- Every blank is listed. -/
theorem mem_blankCodes {c : Char} (blank : isBlank c = true) : c.toNat ∈ blankCodes := by
  simp only [isBlank, Bool.or_eq_true, Bool.and_eq_true, decide_eq_true_eq, beq_iff_eq] at blank
  simp only [blankCodes, List.mem_cons, List.not_mem_nil, or_false]
  omega

/-- A test that fails at every listed code point fails at every blank. -/
theorem eq_false_of_isBlank {test : Char → Bool}
    (none : blankCodes.all (fun code => !test (Char.ofNat code)) = true) {c : Char}
    (blank : isBlank c = true) : test c = false := by
  simpa using List.all_eq_true.mp none c.toNat (mem_blankCodes blank)

/-- A character that passes such a test is not blank. -/
theorem isBlank_eq_false {test : Char → Bool}
    (none : blankCodes.all (fun code => !test (Char.ofNat code)) = true) {c : Char}
    (holds : test c = true) : isBlank c = false := by
  rw [Bool.eq_false_iff]
  intro blank
  rw [eq_false_of_isBlank none blank] at holds
  contradiction

/-- The second text is the first one without the blanks around it. -/
structure Trims (text trimmed : List Char) : Prop where
  /-- There are only blanks around it. -/
  cut : ∃ front back, text = front ++ (trimmed ++ back) ∧ (∀ c ∈ front, isBlank c) ∧
    ∀ c ∈ back, isBlank c
  /-- It does not begin with a blank. -/
  starts : ∀ c ∈ trimmed.head?, isBlank c = false
  /-- It does not end with a blank. -/
  stops : ∀ c ∈ trimmed.getLast?, isBlank c = false

/-- Blanks are characters of one kind. -/
theorem trims_iff_strips (text trimmed : List Char) :
    Trims text trimmed ↔ Strips isBlank text trimmed :=
  ⟨fun ⟨cut, starts, stops⟩ => ⟨cut, starts, stops⟩,
    fun ⟨cut, starts, stops⟩ => ⟨cut, starts, stops⟩⟩

/-- The trimmed text is the only one. -/
theorem trims_iff (text trimmed : List Char) : Trims text trimmed ↔ trimmed = trim text :=
  (trims_iff_strips text trimmed).trans strips_iff

/-- Trimming trims. -/
theorem trims_trim (text : List Char) : Trims text (trim text) := (trims_iff text _).mpr rfl

/-- The trimmed text stands in the text. -/
theorem isInfix_trim (text : List Char) : trim text <:+: text := by
  obtain ⟨front, back, cut, _⟩ := (trims_trim text).cut
  exact ⟨front, back, by rw [List.append_assoc, ← cut]⟩

/-- Nothing is trimmed from a text without blanks at its ends. -/
theorem trim_eq_self_of_ends {text : List Char} (starts : ∀ c ∈ text.head?, isBlank c = false)
    (stops : ∀ c ∈ text.getLast?, isBlank c = false) : trim text = text :=
  ((trims_iff text text).mp ⟨⟨[], [], by simp, by simp, by simp⟩, starts, stops⟩).symm

/-- A trimmed text is trimmed already. -/
theorem trim_trim (text : List Char) : trim (trim text) = trim text :=
  trim_eq_self_of_ends (trims_trim text).starts (trims_trim text).stops

/-- Nothing is left of a blank text, and of no other. -/
theorem trim_eq_nil_iff (text : List Char) : trim text = [] ↔ isBlankText text := by
  rw [isBlankText, List.all_eq_true]
  constructor
  · intro empty c member
    obtain ⟨front, back, cut, blankFront, blankBack⟩ := (trims_trim text).cut
    rw [empty, List.nil_append] at cut
    rw [cut] at member
    exact (List.mem_append.mp member).elim (blankFront c) (blankBack c)
  · intro blank
    rw [trim, trimStart, List.dropWhile_eq_nil_iff.mpr blank]
    rfl

end SourceOutline.Text
