import Mathlib.Data.Nat.Digits.Lemmas
import SourceOutline.Grammar.Literal
import SourceOutline.Json.Writer

/-!
# Texts with escapes

A text with escapes is made of pieces: characters that stand for themselves, and escapes of several
forms. Each piece has a spelling and a value. Decoding looks ahead over as many digits as an escape
may have before it knows what they name, so a piece that could take a digit more must not be
followed by one. The main statement says that decoding gives the values of the pieces one behind the
other (`decodeEscapes_eq_values`), and every text is made of such pieces, but for a backslash that
may be left over at its end.
-/

namespace SourceOutline.Grammar

/-! ## Digits -/

/-- The digits in the order of their values. -/
def digitChars : List Char :=
  ['0', '1', '2', '3', '4', '5', '6', '7', '8', '9', 'a', 'b', 'c', 'd', 'e', 'f']

/-- The value of a digit of either case. -/
def digitValue (c : Char) : Nat := digitChars.idxOf c.toLower

/-- A digit of a base up to sixteen, of either case. -/
def IsDigitIn (base : Nat) (c : Char) : Prop := c.toLower ∈ digitChars.take base

/-- Digits can be tested. -/
instance (base : Nat) : DecidablePred (IsDigitIn base) := fun c =>
  inferInstanceAs (Decidable (c.toLower ∈ digitChars.take base))

/-- The number that digits name in a base, the units last. -/
def numeral (base : Nat) (digits : List Char) : Nat :=
  Nat.ofDigits base (digits.map digitValue).reverse

/-- The readers of single digits agree with the list of digits. -/
theorem digit_readers (c : Char) :
    Json.hexDigit? c = (if IsDigitIn 16 c then some (digitValue c) else none) ∧
      isOctal c = decide (IsDigitIn 8 c) := by
  by_cases small : c.toNat < 128
  · -- There are finitely many such characters.
    have ascii : ∀ code < 128,
        Json.hexDigit? (Char.ofNat code) =
            (if IsDigitIn 16 (Char.ofNat code) then some (digitValue (Char.ofNat code)) else none) ∧
          isOctal (Char.ofNat code) = decide (IsDigitIn 8 (Char.ofNat code)) := by
      decide +kernel
    simpa only [Char.ofNat_toNat] using ascii c.toNat small
  · have large : ∀ d : Char, d.toNat < 128 → ¬ c ≤ d := by
      intro d bound below
      exact small (Nat.lt_of_le_of_lt (UInt32.le_iff_toNat_le.mp (Char.le_def.mp below)) bound)
    have lower : c.toLower = c :=
      dif_neg fun upper => large 'Z' (by decide) (Char.le_def.mpr upper.2)
    have other (base : Nat) : ¬ IsDigitIn base c := by
      intro listed
      rw [IsDigitIn, lower] at listed
      have known : ∀ d ∈ digitChars, d.toNat < 128 := by simp [digitChars]
      exact small (known c (List.mem_of_mem_take listed))
    have digit : c.isDigit = false := by
      rw [Char.isDigit, Bool.and_eq_false_iff]
      exact Or.inr (decide_eq_false fun below => large '9' (by decide) (Char.le_def.mpr below))
    constructor
    · rw [if_neg (other 16), Json.hexDigit?, if_neg (by simp [digit]),
        if_neg fun both => large 'f' (by decide) both.2,
        if_neg fun both => large 'F' (by decide) both.2]
    · rw [decide_eq_false (other 8), isOctal, Bool.and_eq_false_iff]
      exact Or.inr (decide_eq_false (large '7' (by decide)))

/-- Hexadecimal digits are the digits in base 16. -/
theorem isHex_iff (c : Char) : isHex c = true ↔ IsDigitIn 16 c := by
  rw [isHex, (digit_readers c).1]
  split <;> simp_all

/-- Octal digits are the digits in base 8. -/
theorem isOctal_iff (c : Char) : isOctal c = true ↔ IsDigitIn 8 c := by
  rw [(digit_readers c).2, decide_eq_true_eq]

/-- Digits in a base are digits in every larger one. -/
theorem isDigitIn_mono {small large : Nat} (less : small ≤ large) {c : Char}
    (digit : IsDigitIn small c) : IsDigitIn large c :=
  (List.take_prefix_take_left less).subset digit

/-- The value of a digit is less than its base. -/
theorem digitValue_lt {base : Nat} {c : Char} (digit : IsDigitIn base c) : digitValue c < base := by
  have place := List.idxOf_lt_length_of_mem digit
  rw [IsDigitIn] at digit
  have same : digitValue c = (digitChars.take base).idxOf c.toLower := by
    rw [digitValue, ← List.take_append_drop base digitChars, List.idxOf_append_of_mem]
    all_goals simp_all
  rw [same]
  exact Nat.lt_of_lt_of_le place (List.length_take_le base digitChars)

/-- Digits are read as the number that they name. -/
theorem digitsIn_eq_numeral (base : Nat) {digits : List Char}
    (hex : ∀ d ∈ digits, IsDigitIn 16 d) : digitsIn base digits = numeral base digits := by
  have values : ∀ start, digits.foldl
      (fun value c => value * base + (Json.hexDigit? c).getD 0) start =
        digits.foldl (fun value c => digitValue c + base * value) start := by
    intro start
    apply List.foldl_ext
    intro value c listed
    rw [(digit_readers c).1, if_pos (hex c listed), Option.getD_some, Nat.mul_comm, Nat.add_comm]
  rw [digitsIn, values, numeral, Nat.ofDigits_eq_foldr, List.foldr_reverse, List.foldl_map]
  rfl

/-! ## Pieces -/

/-- The escapes of one letter, with the characters that they stand for. -/
def letterValues : List (Char × Char) :=
  [('\\', '\\'), ('\'', '\''), ('"', '"'), ('a', '\x07'), ('b', '\x08'), ('f', '\x0c'),
    ('n', '\n'), ('r', '\r'), ('t', '\t'), ('v', '\x0b')]

/-- The letters in front of the code of a character, with the number of its digits. -/
def codeWidths : List (Char × Nat) := [('x', 2), ('u', 4), ('U', 8)]

/-- A letter that starts no escape. -/
def IsUnknownLetter (c : Char) : Prop :=
  c ≠ '\n' ∧ c ∉ letterValues.map Prod.fst ∧ c ∉ codeWidths.map Prod.fst ∧ ¬ IsDigitIn 8 c

/-- A piece of a text with escapes. -/
inductive EscapedPiece where
  /-- A character other than a backslash. -/
  | plain (c : Char) (other : c ≠ '\\')
  /-- A backslash at the end of a line, which joins the line to the next. -/
  | joined
  /-- An escape of one letter. -/
  | letter (c value : Char) (listed : (c, value) ∈ letterValues)
  /-- The code of a character in as many hexadecimal digits as the letter wants. -/
  | code (c letter : Char) (digits : List Char) (listed : (letter, digits.length) ∈ codeWidths)
    (hex : ∀ d ∈ digits, IsDigitIn 16 d) (named : c.toNat = numeral 16 digits)
  /-- The code of a character in one to three octal digits. -/
  | octal (digits : List Char) (filled : digits ≠ []) (short : digits.length ≤ 3)
    (all : ∀ d ∈ digits, IsDigitIn 8 d)
  /-- A backslash in front of a letter that starts no escape. -/
  | unknown (c : Char) (other : IsUnknownLetter c)
  /-- A letter that wants the code of a character, with too few digits or with digits that name no
  character. -/
  | broken (letter : Char) (width : Nat) (digits : List Char)
    (listed : (letter, width) ∈ codeWidths) (hex : ∀ d ∈ digits, IsDigitIn 16 d)
    (nameless : digits.length < width ∨
      digits.length = width ∧ ∀ c : Char, c.toNat ≠ numeral 16 digits)

namespace EscapedPiece

/-- A piece as it is written. -/
def spelling : EscapedPiece → List Char
  | plain c _ => [c]
  | joined => ['\\', '\n']
  | letter c _ _ => ['\\', c]
  | code _ mark digits .. => '\\' :: mark :: digits
  | octal digits .. => '\\' :: digits
  | unknown c _ => ['\\', c]
  | broken mark _ digits .. => '\\' :: mark :: digits

/-- The text that a piece stands for. -/
def value : EscapedPiece → List Char
  | plain c _ => [c]
  | joined => []
  | letter _ value _ => [value]
  | code c .. => [c]
  | octal digits .. => [Char.ofNat (numeral 8 digits)]
  | unknown c _ => ['\\', c]
  | broken mark _ digits .. => '\\' :: mark :: digits

/-- The piece ends where the rest begins: no digit follows that it could take. -/
def FitsBefore (rest : List Char) : EscapedPiece → Prop
  | octal digits .. => digits.length < 3 → ∀ c ∈ rest.head?, ¬ IsDigitIn 8 c
  | broken _ width digits .. => digits.length < width → ∀ c ∈ rest.head?, ¬ IsDigitIn 16 c
  | _ => True

end EscapedPiece

/-- Each piece ends where the next one or the ending begins. -/
def Apart (ending : List Char) : List EscapedPiece → Prop
  | [] => True
  | piece :: pieces =>
    piece.FitsBefore (pieces.flatMap EscapedPiece.spelling ++ ending) ∧ Apart ending pieces

/-- A text with escapes. -/
structure EscapedText where
  /-- The pieces from left to right. -/
  pieces : List EscapedPiece
  /-- What is left over behind the pieces. -/
  ending : List Char
  /-- Nothing is left over but perhaps a backslash. -/
  rest : ending = [] ∨ ending = ['\\']
  /-- No piece runs into the next. -/
  apart : Apart ending pieces

namespace EscapedText

/-- The text as it is written. -/
def spelling (text : EscapedText) : List Char :=
  text.pieces.flatMap EscapedPiece.spelling ++ text.ending

/-- What the text stands for. -/
def value (text : EscapedText) : List Char :=
  text.pieces.flatMap EscapedPiece.value ++ text.ending

end EscapedText

/-! ## Decoding one piece -/

/-- A character other than a backslash stays. -/
theorem decodeEscapes_plain {c : Char} (other : c ≠ '\\') (rest : List Char) :
    decodeEscapes (c :: rest) = c :: decodeEscapes rest := by
  rw [decodeEscapes.eq_def]
  exact if_neg other

/-- A backslash is decoded with the letter and the digits behind it. -/
theorem decodeEscapes_escape (letter : Char) (tail : List Char) :
    decodeEscapes ('\\' :: letter :: tail) =
      (escapeValue letter tail).1 ++ decodeEscapes (tail.drop (escapeValue letter tail).2) := by
  rw [decodeEscapes.eq_def]
  exact if_pos rfl

/-- A limited run of digits is read up to its end, if no digit follows that belongs to it. -/
theorem takeWhile_take_append {test : Char → Bool} {digits rest : List Char} {width : Nat}
    (all : ∀ d ∈ digits, test d = true) (short : digits.length ≤ width)
    (stops : digits.length < width → ∀ c ∈ rest.head?, test c = false) :
    ((digits ++ rest).take width).takeWhile test = digits := by
  rw [List.take_append, List.take_of_length_le short, List.takeWhile_append_of_pos all]
  suffices (rest.take (width - digits.length)).takeWhile test = [] by rw [this, List.append_nil]
  cases rest with
  | nil => rw [List.take_nil, List.takeWhile_nil]
  | cons c rest =>
    rcases Nat.lt_or_eq_of_le short with less | same
    · obtain ⟨room, more⟩ := Nat.exists_eq_succ_of_ne_zero (Nat.sub_ne_zero_of_lt less)
      rw [more, List.take_succ_cons, List.takeWhile_cons_of_neg]
      simp [stops less c rfl]
    · rw [same, Nat.sub_self, List.take_zero, List.takeWhile_nil]

/-- A code point names a character just when there is one with this code. -/
theorem scalar?_eq_some_iff {code : Nat} {c : Char} : scalar? code = some c ↔ c.toNat = code := by
  rw [scalar?]
  constructor
  · intro found
    split at found
    · next valid =>
      obtain rfl := Option.some.inj found
      rw [Char.ofNat, dif_pos valid]
      exact UInt32.toNat_ofNatLT ..
    · contradiction
  · rintro rfl
    rw [if_pos (show c.toNat.isValidChar from c.valid), Char.ofNat_toNat]

/-- A listed letter stands for its value and takes no digits. -/
theorem escapeValue_letter {c value : Char} (listed : (c, value) ∈ letterValues)
    (rest : List Char) : escapeValue c rest = ([value], 0) := by
  simp only [letterValues, List.mem_cons, Prod.mk.injEq, List.not_mem_nil, or_false] at listed
  rcases listed with ⟨rfl, rfl⟩ | ⟨rfl, rfl⟩ | ⟨rfl, rfl⟩ | ⟨rfl, rfl⟩ | ⟨rfl, rfl⟩ | ⟨rfl, rfl⟩ |
    ⟨rfl, rfl⟩ | ⟨rfl, rfl⟩ | ⟨rfl, rfl⟩ | ⟨rfl, rfl⟩ <;> rfl

/-- The digits behind a letter that wants the code of a character. -/
theorem escapeValue_digits {letter : Char} {width : Nat} (listed : (letter, width) ∈ codeWidths)
    {digits rest : List Char} (hex : ∀ d ∈ digits, IsDigitIn 16 d) (short : digits.length ≤ width)
    (stops : digits.length < width → ∀ c ∈ rest.head?, ¬ IsDigitIn 16 c) :
    escapeValue letter (digits ++ rest) =
      (((scalar? (numeral 16 digits)).filter fun _ => digits.length = width).elim
        ('\\' :: letter :: digits) ([·]), digits.length) := by
  have taken : ((digits ++ rest).take width).takeWhile isHex = digits :=
    takeWhile_take_append (fun d member => (isHex_iff d).mpr (hex d member)) short
      fun less c head => Bool.eq_false_iff.mpr fun more => stops less c head ((isHex_iff c).mp more)
  have known : letterEscape? letter = none ∧ hexWidth? letter = some width := by
    simp only [codeWidths, List.mem_cons, Prod.mk.injEq, List.not_mem_nil, or_false] at listed
    rcases listed with ⟨rfl, rfl⟩ | ⟨rfl, rfl⟩ | ⟨rfl, rfl⟩ <;> exact ⟨rfl, rfl⟩
  rw [← digitsIn_eq_numeral 16 hex]
  simp only [escapeValue, known, taken]
  cases scalar? (digitsIn 16 digits) with
  | none => rfl
  | some c =>
    rw [Option.filter_some]
    by_cases full : digits.length = width <;> simp [full]

/-- No octal digit is one of the letters of other escapes. -/
theorem other_readers_of_octal {c : Char} (octal : IsDigitIn 8 c) :
    letterEscape? c = none ∧ hexWidth? c = none := by
  have ascii : ∀ code < 128, isOctal (Char.ofNat code) = true →
      letterEscape? (Char.ofNat code) = none ∧ hexWidth? (Char.ofNat code) = none := by
    decide +kernel
  have digit := (isOctal_iff c).mpr octal
  have small : c.toNat < 128 := by
    rw [isOctal, Bool.and_eq_true, decide_eq_true_eq, decide_eq_true_eq] at digit
    have below := UInt32.le_iff_toNat_le.mp (Char.le_def.mp digit.2)
    exact Nat.lt_of_le_of_lt below (by decide)
  rw [← Char.ofNat_toNat c] at digit ⊢
  exact ascii c.toNat small digit

/-- Octal digits behind a backslash. -/
theorem escapeValue_octal {first : Char} {digits rest : List Char} (short : digits.length ≤ 2)
    (octal : ∀ d ∈ first :: digits, IsDigitIn 8 d)
    (stops : digits.length < 2 → ∀ c ∈ rest.head?, ¬ IsDigitIn 8 c) :
    escapeValue first (digits ++ rest) =
      ([Char.ofNat (numeral 8 (first :: digits))], digits.length) := by
  obtain ⟨starts, others⟩ := List.forall_mem_cons.mp octal
  obtain ⟨noLetter, noCode⟩ := other_readers_of_octal starts
  have taken : ((digits ++ rest).take 2).takeWhile isOctal = digits :=
    takeWhile_take_append (fun d member => (isOctal_iff d).mpr (others d member)) short
      fun less c head => Bool.eq_false_iff.mpr fun more =>
        stops less c head ((isOctal_iff c).mp more)
  have value := digitsIn_eq_numeral 8 fun d member =>
    isDigitIn_mono (show 8 ≤ 16 by decide) (octal d member)
  -- Three octal digits stay below the surrogates.
  have small : numeral 8 (first :: digits) < 8 ^ 3 := by
    have bound : numeral 8 (first :: digits) < 8 ^ (first :: digits).length := by
      rw [numeral, ← List.length_map, ← List.length_reverse]
      refine Nat.ofDigits_lt_base_pow_length (by decide) fun d member => ?_
      obtain ⟨c, listed, rfl⟩ := List.mem_map.mp (List.mem_reverse.mp member)
      exact digitValue_lt (octal c listed)
    exact Nat.lt_of_lt_of_le bound (Nat.pow_le_pow_right (by decide) (Nat.succ_le_succ short))
  have named : scalar? (numeral 8 (first :: digits)) =
      some (Char.ofNat (numeral 8 (first :: digits))) :=
    if_pos (Or.inl (by omega))
  simp only [escapeValue, noLetter, noCode, (isOctal_iff first).mpr starts, if_true, taken, value,
    named, Option.toList_some]

/-- An escape by another letter stays as it is written. -/
theorem escapeValue_unknown {c : Char} (other : IsUnknownLetter c) (rest : List Char) :
    escapeValue c rest = (['\\', c], 0) := by
  obtain ⟨noFeed, noLetter, noCode, noDigit⟩ := other
  have letter : letterEscape? c = none := by
    simp only [letterValues, List.map_cons, List.map_nil, List.mem_cons, List.not_mem_nil,
      or_false, not_or] at noLetter
    unfold letterEscape?
    split <;> simp_all
  have code : hexWidth? c = none := by
    simp only [codeWidths, List.map_cons, List.map_nil, List.mem_cons, List.not_mem_nil,
      or_false, not_or] at noCode
    unfold hexWidth?
    split <;> simp_all
  have digit : isOctal c = false :=
    Bool.eq_false_iff.mpr fun octal => noDigit ((isOctal_iff c).mp octal)
  simp only [escapeValue, letter, code, digit, Bool.false_eq_true, if_false]

/-- Decoding a piece gives its value, and what follows is decoded as if it stood alone. -/
theorem decodeEscapes_piece (piece : EscapedPiece) {rest : List Char}
    (fits : piece.FitsBefore rest) :
    decodeEscapes (piece.spelling ++ rest) = piece.value ++ decodeEscapes rest := by
  cases piece with
  | plain c other => exact decodeEscapes_plain other rest
  | joined => exact decodeEscapes_escape '\n' rest
  | letter c value listed =>
    change decodeEscapes ('\\' :: c :: rest) = _
    rw [decodeEscapes_escape, escapeValue_letter listed]
    rfl
  | code c letter digits listed hex named =>
    change decodeEscapes ('\\' :: letter :: (digits ++ rest)) = _
    rw [decodeEscapes_escape,
      escapeValue_digits listed hex (Nat.le_refl _) fun less => absurd less (Nat.lt_irrefl _),
      scalar?_eq_some_iff.mpr named, Option.filter_some, if_pos (by simp), List.drop_left]
    rfl
  | octal digits filled short all =>
    obtain ⟨first, digits, rfl⟩ := List.exists_cons_of_ne_nil filled
    change decodeEscapes ('\\' :: first :: (digits ++ rest)) = _
    rw [decodeEscapes_escape, escapeValue_octal (Nat.le_of_succ_le_succ short) all
      fun less => fits (Nat.succ_lt_succ less), List.drop_left]
    rfl
  | unknown c other =>
    change decodeEscapes ('\\' :: c :: rest) = _
    rw [decodeEscapes_escape, escapeValue_unknown other]
    rfl
  | broken letter width digits listed hex nameless =>
    have short : digits.length ≤ width := nameless.elim Nat.le_of_lt fun full => full.1.le
    change decodeEscapes ('\\' :: letter :: (digits ++ rest)) = _
    rw [decodeEscapes_escape, escapeValue_digits listed hex short fits]
    have kept : (scalar? (numeral 16 digits)).filter (fun _ => digits.length = width) = none := by
      rw [Option.filter_eq_none_iff]
      intro c found full
      rcases nameless with few | ⟨_, none⟩
      · exact Nat.ne_of_lt few (of_decide_eq_true full)
      · exact none c (scalar?_eq_some_iff.mp found)
    rw [kept, List.drop_left]
    rfl

/-! ## Whole texts -/

/-- Decoding gives the values of the pieces one behind the other. -/
theorem EscapedText.decodeEscapes_spelling (text : EscapedText) :
    decodeEscapes text.spelling = text.value := by
  obtain ⟨pieces, ending, rest, apart⟩ := text
  simp only [EscapedText.spelling, EscapedText.value]
  induction pieces with
  | nil =>
    rcases rest with rfl | rfl
    · rw [List.flatMap_nil, List.append_nil, decodeEscapes]
      rfl
    · rw [List.flatMap_nil, List.nil_append, decodeEscapes.eq_def]
      rfl
  | cons piece pieces ih =>
    obtain ⟨fits, others⟩ := apart
    rw [List.flatMap_cons, List.append_assoc, decodeEscapes_piece piece fits, ih others,
      List.flatMap_cons, List.append_assoc]

/-- In front of a text there is a longest run of at most as many characters as are wanted. -/
theorem exists_run (test : Char → Prop) [DecidablePred test] (width : Nat) (text : List Char) :
    ∃ run rest, text = run ++ rest ∧ (∀ c ∈ run, test c) ∧ run.length ≤ width ∧
      (run.length < width → ∀ c ∈ rest.head?, ¬ test c) := by
  induction width generalizing text with
  | zero => exact ⟨[], text, rfl, by simp, Nat.le_refl 0, nofun⟩
  | succ width ih =>
    cases text with
    | nil => exact ⟨[], [], rfl, by simp, Nat.zero_le _, by simp⟩
    | cons c text =>
      by_cases passes : test c
      · obtain ⟨run, rest, rfl, all, short, stops⟩ := ih text
        exact ⟨c :: run, rest, rfl, List.forall_mem_cons.mpr ⟨passes, all⟩,
          Nat.succ_le_succ short, fun less => stops (Nat.lt_of_succ_lt_succ less)⟩
      · exact ⟨[], c :: text, rfl, by simp, Nat.zero_le _, by simpa using passes⟩

/-- A backslash and a letter start a piece, whatever follows. -/
theorem exists_escape (letter : Char) (tail : List Char) :
    ∃ piece rest, '\\' :: letter :: tail = EscapedPiece.spelling piece ++ rest ∧
      piece.FitsBefore rest := by
  by_cases feed : letter = '\n'
  · exact ⟨.joined, tail, by rw [feed]; rfl, trivial⟩
  by_cases simple : letter ∈ letterValues.map Prod.fst
  · obtain ⟨⟨c, value⟩, listed, rfl⟩ := List.mem_map.mp simple
    exact ⟨.letter c value listed, tail, rfl, trivial⟩
  by_cases coded : letter ∈ codeWidths.map Prod.fst
  · obtain ⟨⟨c, width⟩, listed, rfl⟩ := List.mem_map.mp coded
    obtain ⟨digits, rest, rfl, hex, short, stops⟩ := exists_run (IsDigitIn 16) width tail
    by_cases named : digits.length = width ∧ ∃ value : Char, value.toNat = numeral 16 digits
    · obtain ⟨rfl, value, same⟩ := named
      exact ⟨.code value c digits listed hex same, rest, rfl, trivial⟩
    · refine ⟨.broken c width digits listed hex ?_, rest, rfl, stops⟩
      rcases Nat.lt_or_eq_of_le short with less | full
      · exact Or.inl less
      · exact Or.inr ⟨full, fun value same => named ⟨full, value, same⟩⟩
  by_cases octal : IsDigitIn 8 letter
  · obtain ⟨digits, rest, rfl, all, short, stops⟩ := exists_run (IsDigitIn 8) 2 tail
    exact ⟨.octal (letter :: digits) (List.cons_ne_nil _ _) (Nat.succ_le_succ short)
      (List.forall_mem_cons.mpr ⟨octal, all⟩), rest, rfl,
      fun less => stops (Nat.lt_of_succ_lt_succ less)⟩
  · exact ⟨.unknown letter ⟨feed, simple, coded, octal⟩, tail, rfl, trivial⟩

/-- Every text is made of pieces. -/
theorem exists_escapedText (text : List Char) :
    ∃ escaped : EscapedText, escaped.spelling = text := by
  -- One piece is taken from the front of the text, which leaves a shorter one.
  induction measured : text.length using Nat.strong_induction_on generalizing text with
  | _ size ih =>
    have extend (piece : EscapedPiece) {rest : List Char} (cut : text = piece.spelling ++ rest)
        (fits : piece.FitsBefore rest) (filled : piece.spelling ≠ []) :
        ∃ escaped : EscapedText, escaped.spelling = text := by
      have shorter : rest.length < size := by
        have some := List.length_pos_iff.mpr filled
        rw [← measured, cut, List.length_append]
        omega
      obtain ⟨escaped, rfl⟩ := ih _ shorter rest rfl
      refine ⟨⟨piece :: escaped.pieces, escaped.ending, escaped.rest, fits, escaped.apart⟩, ?_⟩
      rw [cut, EscapedText.spelling, EscapedText.spelling, List.flatMap_cons, List.append_assoc]
    match text with
    | [] => exact ⟨⟨[], [], Or.inl rfl, trivial⟩, rfl⟩
    | c :: rest =>
      by_cases other : c = '\\'
      · subst other
        match rest with
        | [] => exact ⟨⟨[], ['\\'], Or.inr rfl, trivial⟩, rfl⟩
        | letter :: tail =>
          obtain ⟨piece, rest, cut, fits⟩ := exists_escape letter tail
          refine extend piece cut fits ?_
          cases piece <;> exact List.cons_ne_nil _ _
      · exact extend (.plain c other) rfl trivial (List.cons_ne_nil _ _)

/-! ## Characters written by their codes -/

/-- The code of a character in eight hexadecimal digits. -/
def eightDigits (c : Char) : List Char :=
  ((Nat.digits 16 c.toNat).reverse.map Json.hexChar).leftpad 8 '0'

/-- The escape that names a character by eight digits. -/
def longEscape (c : Char) : List Char := '\\' :: 'U' :: eightDigits c

/-- Each value below 16 has a digit. -/
theorem digit_hexChar :
    ∀ n < 16, IsDigitIn 16 (Json.hexChar n) ∧ digitValue (Json.hexChar n) = n := by
  decide

/-- The digits of a character are eight. -/
theorem length_eightDigits (c : Char) : (eightDigits c).length = 8 := by
  have few : (Nat.digits 16 c.toNat).length ≤ 8 := by
    rw [Nat.digits_length_le_iff (by decide)]
    exact Nat.lt_of_lt_of_le c.val.toNat_lt (by decide)
  rw [eightDigits, List.length_leftpad, List.length_map, List.length_reverse]
  exact Nat.max_eq_left few

/-- The digits of a character are hexadecimal. -/
theorem isDigitIn_of_mem_eightDigits {c d : Char} (listed : d ∈ eightDigits c) :
    IsDigitIn 16 d := by
  rw [eightDigits, List.leftpad, List.mem_append] at listed
  rcases listed with zero | digit
  · rw [List.eq_of_mem_replicate zero]
    decide
  · obtain ⟨n, inside, rfl⟩ := List.mem_map.mp digit
    exact (digit_hexChar n (Nat.digits_lt_base (by decide) (List.mem_reverse.mp inside))).1

/-- The digits of a character give its code. -/
theorem numeral_eightDigits (c : Char) : numeral 16 (eightDigits c) = c.toNat := by
  have zero : digitValue '0' = 0 := by decide
  have back : (Nat.digits 16 c.toNat).reverse.map (digitValue ∘ Json.hexChar) =
      (Nat.digits 16 c.toNat).reverse := by
    rw [List.map_congr_left, List.map_id]
    intro n inside
    exact (digit_hexChar n (Nat.digits_lt_base (by decide) (List.mem_reverse.mp inside))).2
  rw [numeral, eightDigits, List.leftpad, List.map_append, List.map_replicate, zero, List.map_map,
    back, List.reverse_append, List.reverse_reverse, List.reverse_replicate,
    Nat.ofDigits_append_replicate_zero, Nat.ofDigits_digits]

/-- Characters that are all written by their codes are read back. -/
theorem decodeEscapes_flatMap_longEscape (text : List Char) :
    decodeEscapes (text.flatMap longEscape) = text := by
  induction text with
  | nil => rw [List.flatMap_nil, decodeEscapes]
  | cons c text ih =>
    have listed : ('U', (eightDigits c).length) ∈ codeWidths := by
      rw [length_eightDigits]
      decide
    rw [List.flatMap_cons]
    exact (decodeEscapes_piece (.code c 'U' (eightDigits c) listed
      (fun d => isDigitIn_of_mem_eightDigits) (numeral_eightDigits c).symm) trivial).trans
        (congrArg (c :: ·) ih)

/-! ## The whole format -/

/-- Whatever the pieces of a text with escapes are, decoding gives their values one behind the
other, and a backslash left over at the end is kept. Every text is made of such pieces. A piece is
decoded by itself, and what follows it as if it stood alone, also behind an escape that names no
character and stays as it is written. So a text whose characters are all written by their codes is
read back. -/
theorem decodeEscapes_eq_values :
    (∀ text : EscapedText, decodeEscapes text.spelling = text.value) ∧
    (∀ text : List Char, ∃ escaped : EscapedText, escaped.spelling = text) ∧
    (∀ (piece : EscapedPiece) (rest : List Char), piece.FitsBefore rest →
      decodeEscapes (piece.spelling ++ rest) = piece.value ++ decodeEscapes rest) ∧
    ∀ text : List Char, decodeEscapes (text.flatMap longEscape) = text :=
  ⟨EscapedText.decodeEscapes_spelling, exists_escapedText,
    fun piece _ fits => decodeEscapes_piece piece fits, decodeEscapes_flatMap_longEscape⟩

/-- Digits that run out at a backslash, a short octal code in front of a digit, a surrogate, the
largest octal code and a backslash at the end. -/
def brokenEscapes : EscapedText where
  pieces := [.broken 'x' 2 ['4'] (by decide) (by simp [IsDigitIn, digitChars]) (Or.inl (by decide)),
    .octal ['1'] (by decide) (by decide) (by simp [IsDigitIn, digitChars]), .plain '8' (by decide),
    .broken 'u' 4 ['D', '8', '0', '0'] (by decide) (by simp [IsDigitIn, digitChars])
      (Or.inr ⟨rfl, fun c same =>
        absurd (same ▸ (show c.toNat.isValidChar from c.valid)) (by decide)⟩),
    .octal ['7', '7', '7'] (by decide) (by decide) (by simp [IsDigitIn, digitChars])]
  ending := ['\\']
  rest := Or.inr rfl
  apart := by
    simp [Apart, EscapedPiece.FitsBefore, EscapedPiece.spelling]
    decide

/-- Each escape ends where it must, and those that name no character stay. -/
theorem decodeEscapes_brokenEscapes :
    brokenEscapes.spelling = "\\x4\\18\\uD800\\777\\".toList ∧
      brokenEscapes.value = "\\x4\u00018\\uD800\u01ff\\".toList ∧
      decodeEscapes "\\x4\\18\\uD800\\777\\".toList =
        "\\x4\u00018\\uD800\u01ff\\".toList := by
  obtain ⟨values, _⟩ := decodeEscapes_eq_values
  have spelled : brokenEscapes.spelling = "\\x4\\18\\uD800\\777\\".toList := by decide
  have valued : brokenEscapes.value = "\\x4\u00018\\uD800\u01ff\\".toList := by decide
  exact ⟨spelled, valued, by rw [← spelled, values, valued]⟩

end SourceOutline.Grammar
