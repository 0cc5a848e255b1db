import Mathlib.Algebra.Order.Ring.Nat
import Mathlib.Data.List.TakeWhile
import Mathlib.Data.Nat.SuccPred
import SourceOutline.Json.Reader

/-!
# The grammar of JSON

What a text of JSON is, said without a reader. Each relation is about the front of a text: what
stands there, and what is left behind it. The reader accepts exactly these texts
(`parse?_eq_some_iff`).
-/

namespace SourceOutline.Json

/-! ## The parts of a text -/

/-- The rest is the text without some of the blanks in front. -/
inductive Spaced : List Char → List Char → Prop where
  | refl (text : List Char) : Spaced text text
  | cons {c : Char} {text rest : List Char} (space : isSpace c) (later : Spaced text rest) :
    Spaced (c :: text) rest

/-- A code unit that is one half of a character. -/
def IsSurrogate (unit : Nat) : Prop := 0xd800 ≤ unit ∧ unit < 0xe000

/-- One character of a string: itself, or an escape. -/
inductive CharAt : List Char → Char → List Char → Prop where
  | plain {c : Char} {rest : List Char} (noQuote : c ≠ '"') (noEscape : c ≠ '\\')
    (visible : 0x20 ≤ c.toNat) : CharAt (c :: rest) c rest
  | simple {e c : Char} {rest : List Char} (letter : simpleEscape? e = some c) :
    CharAt ('\\' :: e :: rest) c rest
  | unit {text rest : List Char} {unit : Nat} (digits : hexQuad? text = some (unit, rest))
    (whole : ¬ IsSurrogate unit) : CharAt ('\\' :: 'u' :: text) (Char.ofNat unit) rest
  | pair {text more rest : List Char} {high low : Nat}
    (first : hexQuad? text = some (high, '\\' :: 'u' :: more))
    (second : hexQuad? more = some (low, rest)) (isHigh : 0xd800 ≤ high ∧ high < 0xdc00)
    (isLow : 0xdc00 ≤ low ∧ low < 0xe000) :
    CharAt ('\\' :: 'u' :: text)
      (Char.ofNat (0x10000 + (high - 0xd800) * 0x400 + (low - 0xdc00))) rest

/-- The characters of a string behind its opening quote. -/
inductive StringAt : List Char → List Char → List Char → Prop where
  | close {rest : List Char} : StringAt ('"' :: rest) [] rest
  | cons {text more body rest : List Char} {c : Char} (first : CharAt text c more)
    (later : StringAt more body rest) : StringAt text (c :: body) rest

/-- A string behind its opening quote, with escapes of any code units. -/
inductive SkippedAt : List Char → List Char → Prop where
  | close {rest : List Char} : SkippedAt ('"' :: rest) rest
  | plain {c : Char} {text rest : List Char} (noQuote : c ≠ '"') (noEscape : c ≠ '\\')
    (visible : 0x20 ≤ c.toNat) (later : SkippedAt text rest) : SkippedAt (c :: text) rest
  | simple {e c : Char} {text rest : List Char} (letter : simpleEscape? e = some c)
    (later : SkippedAt text rest) : SkippedAt ('\\' :: e :: text) rest
  | unit {text more rest : List Char} {unit : Nat} (digits : hexQuad? text = some (unit, more))
    (later : SkippedAt more rest) : SkippedAt ('\\' :: 'u' :: text) rest

/-- A string behind its opening quote, with its value if it has one. -/
inductive QuotedAt : List Char → Option String → List Char → Prop where
  | value {text body rest : List Char} (stands : StringAt text body rest) :
    QuotedAt text (some (String.ofList body)) rest
  | unpaired {text rest : List Char} (noValue : ∀ body tail, ¬ StringAt text body tail)
    (skipped : SkippedAt text rest) : QuotedAt text none rest

/-- At least one digit and nothing else. -/
def IsDigits (text : List Char) : Prop := text ≠ [] ∧ ∀ c ∈ text, c.isDigit

/-- The digits before the point: zero alone, or no zero in front. -/
def IsWhole (text : List Char) : Prop :=
  text = ['0'] ∨ IsDigits text ∧ text.head? ≠ some '0'

/-- Nothing, or a point with digits behind it. -/
def IsFraction (text : List Char) : Prop :=
  text = [] ∨ ∃ digits, text = '.' :: digits ∧ IsDigits digits

/-- Nothing, or an exponent with an optional sign. -/
def IsExponent (text : List Char) : Prop :=
  text = [] ∨ ∃ e sign digits, text = e :: (sign ++ digits) ∧ (e = 'e' ∨ e = 'E') ∧
    (sign = [] ∨ sign = ['+'] ∨ sign = ['-']) ∧ IsDigits digits

/-- The literal of a number. -/
def IsNumber (text : List Char) : Prop :=
  ∃ sign whole fraction exponent, text = sign ++ whole ++ fraction ++ exponent ∧
    (sign = [] ∨ sign = ['-']) ∧ IsWhole whole ∧ IsFraction fraction ∧ IsExponent exponent

/-- A value may end here: the text is over, or a blank, a comma or a closing bracket follows. -/
def Ends (rest : List Char) : Prop :=
  ∀ c ∈ rest.head?, isSpace c ∨ c = ',' ∨ c = ']' ∨ c = '\x7d'

mutual

/-- A value with blanks in front. -/
inductive ValueAt : List Char → Json → List Char → Prop where
  | null {text rest : List Char} (spaced : Spaced text ('n' :: 'u' :: 'l' :: 'l' :: rest)) :
    ValueAt text .null rest
  | true {text rest : List Char} (spaced : Spaced text ('t' :: 'r' :: 'u' :: 'e' :: rest)) :
    ValueAt text (.bool Bool.true) rest
  | false {text rest : List Char}
    (spaced : Spaced text ('f' :: 'a' :: 'l' :: 's' :: 'e' :: rest)) :
    ValueAt text (.bool Bool.false) rest
  | number {text literal rest : List Char} (spaced : Spaced text (literal ++ rest))
    (isNumber : IsNumber literal) (ends : Ends rest) :
    ValueAt text (.number (String.ofList literal)) rest
  | string {text more rest : List Char} {value : String} (spaced : Spaced text ('"' :: more))
    (stands : QuotedAt more (some value) rest) : ValueAt text (.string value) rest
  | unpaired {text more rest : List Char} {raw : String} (spaced : Spaced text ('"' :: more))
    (kept : front ('"' :: more) rest = raw) (stands : QuotedAt more none rest) :
    ValueAt text (.unpaired raw) rest
  | emptyArray {text more rest : List Char} (spaced : Spaced text ('[' :: more))
    (closed : Spaced more (']' :: rest)) : ValueAt text (.array []) rest
  | array {text more rest : List Char} {items : List Json} (spaced : Spaced text ('[' :: more))
    (listed : ItemsAt more items rest) : ValueAt text (.array items) rest
  | emptyObject {text more rest : List Char} (spaced : Spaced text ('\x7b' :: more))
    (closed : Spaced more ('\x7d' :: rest)) : ValueAt text (.object []) rest
  | object {text more rest : List Char} {entries : List (Option String × Json)}
    {members : List (String × Json)} (spaced : Spaced text ('\x7b' :: more))
    (keyed : keyed? entries = some members) (listed : EntriesAt more entries rest) :
    ValueAt text (.object members) rest
  | unkeyed {text more rest : List Char} {entries : List (Option String × Json)} {raw : String}
    (spaced : Spaced text ('\x7b' :: more)) (noKey : keyed? entries = none)
    (kept : front ('\x7b' :: more) rest = raw) (listed : EntriesAt more entries rest) :
    ValueAt text (.unpaired raw) rest

/-- Items up to a closing bracket. -/
inductive ItemsAt : List Char → List Json → List Char → Prop where
  | last {text more rest : List Char} {item : Json} (first : ValueAt text item more)
    (closed : Spaced more (']' :: rest)) : ItemsAt text [item] rest
  | cons {text more others rest : List Char} {item : Json} {items : List Json}
    (first : ValueAt text item more) (comma : Spaced more (',' :: others))
    (later : ItemsAt others items rest) : ItemsAt text (item :: items) rest

/-- Members up to a closing brace, also those whose keys have no value. -/
inductive EntriesAt : List Char → List (Option String × Json) → List Char → Prop where
  | last {text start behind inner more rest : List Char} {key : Option String} {value : Json}
    (spaced : Spaced text ('"' :: start)) (named : QuotedAt start key behind)
    (colon : Spaced behind (':' :: inner)) (stands : ValueAt inner value more)
    (closed : Spaced more ('\x7d' :: rest)) : EntriesAt text [(key, value)] rest
  | cons {text start behind inner more others rest : List Char} {key : Option String}
    {value : Json} {entries : List (Option String × Json)} (spaced : Spaced text ('"' :: start))
    (named : QuotedAt start key behind) (colon : Spaced behind (':' :: inner))
    (stands : ValueAt inner value more) (comma : Spaced more (',' :: others))
    (later : EntriesAt others entries rest) : EntriesAt text ((key, value) :: entries) rest

end

/-- The text is that of a value, with nothing but blanks around it. -/
def IsText (text : List Char) (value : Json) : Prop :=
  ∃ rest, ValueAt text value rest ∧ Spaced rest []

/-! ## Blanks and ends -/

/-- Blanks make a text longer. -/
theorem Spaced.length_le {text rest : List Char} (spaced : Spaced text rest) :
    rest.length ≤ text.length := by
  induction spaced with
  | refl => exact Nat.le_refl _
  | cons space later induction => exact Nat.le_succ_of_le induction

/-- What stands behind a character is shorter than the text in front of it. -/
theorem Spaced.length_lt {text rest : List Char} {c : Char} (spaced : Spaced text (c :: rest)) :
    rest.length < text.length :=
  Nat.lt_of_lt_of_le (Nat.lt_succ_self _) spaced.length_le

/-- Skipping blanks skips some blanks. -/
theorem spaced_skipSpace (text : List Char) : Spaced text (skipSpace text) := by
  induction text with
  | nil => exact .refl _
  | cons c text induction =>
    by_cases space : isSpace c
    · rw [skipSpace, List.dropWhile_cons_of_pos space]
      exact .cons space induction
    · rw [skipSpace, List.dropWhile_cons_of_neg space]
      exact .refl _

/-- Blanks in front do not matter to what is left when all blanks are skipped. -/
theorem Spaced.skipSpace_eq {text rest : List Char} (spaced : Spaced text rest) :
    skipSpace text = skipSpace rest := by
  induction spaced with
  | refl => rfl
  | cons space later induction => rw [← induction, skipSpace, List.dropWhile_cons_of_pos space]; rfl

/-- Blanks are skipped up to a character that is not one. -/
theorem Spaced.skipSpace_cons {text rest : List Char} {c : Char} (spaced : Spaced text (c :: rest))
    (token : isSpace c = false) : skipSpace text = c :: rest := by
  rw [spaced.skipSpace_eq, skipSpace, List.dropWhile_cons_of_neg (by simp [token])]

/-- A value ends in front of blanks that a closing character or a comma follows. -/
theorem ends_of_skipSpace {rest tail : List Char} {c : Char} (skipped : skipSpace rest = c :: tail)
    (closing : c = ',' ∨ c = ']' ∨ c = '\x7d') : Ends rest := by
  intro d head
  cases rest with
  | nil => simp at head
  | cons e rest =>
    obtain rfl : e = d := Option.mem_some.mp head
    by_cases space : isSpace e
    · exact .inl space
    · rw [skipSpace, List.dropWhile_cons_of_neg space] at skipped
      exact .inr ((List.cons.inj skipped).1 ▸ closing)

/-- A value ends in front of blanks at the end of the text. -/
theorem Spaced.ends {rest tail : List Char} (spaced : Spaced rest tail) (ends : Ends tail) :
    Ends rest := by
  cases spaced with
  | refl => exact ends
  | cons space later =>
    intro d head
    exact .inl (Option.mem_some.mp head ▸ space)

/-! ## Strings -/

/-- Four digits are four characters. -/
theorem length_of_hexQuad? {text rest : List Char} {unit : Nat}
    (found : hexQuad? text = some (unit, rest)) : text.length = rest.length + 4 := by
  unfold hexQuad? at found
  repeat' split at found
  all_goals simp_all

/-- A character of a string takes up text. -/
theorem CharAt.length_lt {text rest : List Char} {c : Char} (stands : CharAt text c rest) :
    rest.length < text.length := by
  cases stands with
  | plain => simp
  | simple => simp
  | unit digits =>
    have := length_of_hexQuad? digits
    simp; omega
  | pair first second =>
    have := length_of_hexQuad? first
    have := length_of_hexQuad? second
    simp at *; omega

/-- A string takes up text. -/
theorem StringAt.length_lt {text body rest : List Char} (stands : StringAt text body rest) :
    rest.length < text.length := by
  induction stands with
  | close => simp
  | cons first later induction => exact Nat.lt_trans induction first.length_lt

/-- A string with escapes of any code units takes up text. -/
theorem SkippedAt.length_lt {text rest : List Char} (skipped : SkippedAt text rest) :
    rest.length < text.length := by
  induction skipped with
  | close => simp
  | plain noQuote noEscape visible later induction => simp; omega
  | simple letter later induction => simp; omega
  | unit digits later induction =>
    have := length_of_hexQuad? digits
    simp; omega

/-- A string takes up text, also without a value. -/
theorem QuotedAt.length_lt {text rest : List Char} {value : Option String}
    (stands : QuotedAt text value rest) : rest.length < text.length := by
  cases stands with
  | value stands => exact stands.length_lt
  | unpaired noValue skipped => exact skipped.length_lt

/-- The letter of a simple escape is no `u`. -/
theorem simpleEscape?_ne {e c : Char} (letter : simpleEscape? e = some c) : e ≠ 'u' := by
  rintro rfl
  simp [simpleEscape?] at letter

/-- One character of a string is read. -/
theorem CharAt.read {text more : List Char} {c : Char} (stands : CharAt text c more) (fuel : Nat) :
    stringBody? (fuel + 1) text =
      (stringBody? fuel more).map fun (body, tail) => (c :: body, tail) := by
  cases stands with
  | plain noQuote noEscape visible =>
    simp only [stringBody?, if_neg noQuote, if_neg noEscape, if_neg (Nat.not_lt.mpr visible)]
  | simple letter =>
    have := simpleEscape?_ne letter
    simp [stringBody?, letter]
  | @unit text rest unit digits whole =>
    have low : ¬ (0xd800 ≤ unit ∧ unit < 0xdc00) := fun both => whole ⟨both.1, by omega⟩
    have high : ¬ (0xdc00 ≤ unit ∧ unit < 0xe000) := fun both => whole ⟨by omega, both.2⟩
    simp [stringBody?, unicodeEscape?, digits, low, high]
  | pair first second isHigh isLow =>
    simp [stringBody?, unicodeEscape?, first, second, isHigh, isLow]

/-- A string is read. -/
theorem StringAt.read {text body rest : List Char} (stands : StringAt text body rest) {fuel : Nat}
    (enough : text.length ≤ fuel + rest.length) : stringBody? fuel text = some (body, rest) := by
  induction stands generalizing fuel with
  | close =>
    cases fuel with
    | zero => simp at enough
    | succ fuel => simp [stringBody?]
  | cons first later induction =>
    have shorter := first.length_lt
    have := later.length_lt
    cases fuel with
    | zero => omega
    | succ fuel => rw [first.read, induction (by omega), Option.map_some]

/-- An escape with a `u` that is read is a character. -/
theorem charAt_of_unicodeEscape? {text rest : List Char} {c : Char}
    (found : unicodeEscape? text = some (c, rest)) : CharAt ('\\' :: 'u' :: text) c rest := by
  unfold unicodeEscape? at found
  split at found
  · contradiction
  next high behind first =>
  split at found
  next isHigh =>
    split at found
    next more =>
      split at found
      next low tail second =>
        split at found
        next isLow =>
          rw [Option.some.injEq, Prod.mk.injEq] at found
          obtain ⟨rfl, rfl⟩ := found
          exact .pair first second isHigh isLow
        · contradiction
      · contradiction
    · contradiction
  next notHigh =>
    split at found
    · contradiction
    next notLow =>
      rw [Option.some.injEq, Prod.mk.injEq] at found
      obtain ⟨rfl, rfl⟩ := found
      refine .unit first fun both => ?_
      obtain ⟨low, high⟩ := both
      omega

/-- What is read is a string. -/
theorem stringAt_of_stringBody? {fuel : Nat} {text body rest : List Char}
    (found : stringBody? fuel text = some (body, rest)) : StringAt text body rest := by
  induction fuel generalizing text body with
  | zero => simp [stringBody?] at found
  | succ fuel induction =>
    cases text with
    | nil => simp [stringBody?] at found
    | cons c text =>
      simp only [stringBody?] at found
      split at found
      next quote =>
        cases found
        exact quote ▸ .close
      next noQuote =>
      split at found
      next escape =>
        subst escape
        split at found
        next more =>
          split at found
          · contradiction
          next c behind escaped =>
            obtain ⟨⟨body, tail⟩, later, same⟩ := Option.map_eq_some_iff.mp found
            cases same
            exact .cons (charAt_of_unicodeEscape? escaped) (induction later)
        next e more _ =>
          split at found
          · contradiction
          next c letter =>
            obtain ⟨⟨body, tail⟩, later, same⟩ := Option.map_eq_some_iff.mp found
            cases same
            exact .cons (.simple letter) (induction later)
        · contradiction
      next noEscape =>
      split at found
      · contradiction
      next visible =>
        obtain ⟨⟨body, tail⟩, later, same⟩ := Option.map_eq_some_iff.mp found
        cases same
        exact .cons (.plain noQuote noEscape (Nat.not_lt.mp visible)) (induction later)

/-- The reader of strings finds exactly the strings. -/
theorem string?_eq_some_iff (text : List Char) (value : String) (rest : List Char) :
    string? text = some (value, rest) ↔ StringAt text value.toList rest := by
  constructor
  · intro found
    obtain ⟨⟨body, tail⟩, stands, same⟩ := Option.map_eq_some_iff.mp found
    cases same
    rw [String.toList_ofList]
    exact stringAt_of_stringBody? stands
  · intro stands
    simp [string?, @StringAt.read _ _ _ stands (text.length + 1) (by omega)]

/-- A string is skipped, whatever its escapes stand for. -/
theorem SkippedAt.read {text rest : List Char} (skipped : SkippedAt text rest) {fuel : Nat}
    (enough : text.length ≤ fuel + rest.length) : skipString? fuel text = some rest := by
  induction skipped generalizing fuel with
  | close =>
    cases fuel with
    | zero => simp at enough
    | succ fuel => simp [skipString?]
  | plain noQuote noEscape visible later induction =>
    have := later.length_lt
    simp only [List.length_cons] at enough
    cases fuel with
    | zero => omega
    | succ fuel =>
      simp only [skipString?, if_neg noQuote, if_neg noEscape, if_neg (Nat.not_lt.mpr visible),
        @induction fuel (by omega)]
  | simple letter later induction =>
    have := later.length_lt
    have := simpleEscape?_ne letter
    simp only [List.length_cons] at enough
    cases fuel with
    | zero => omega
    | succ fuel => simp [skipString?, letter, @induction fuel (by omega)]
  | unit digits later induction =>
    have := later.length_lt
    have := length_of_hexQuad? digits
    simp only [List.length_cons] at enough
    cases fuel with
    | zero => omega
    | succ fuel => simp [skipString?, digits, @induction fuel (by omega)]

/-- What is skipped is a string. -/
theorem skippedAt_of_skipString? {fuel : Nat} {text rest : List Char}
    (found : skipString? fuel text = some rest) : SkippedAt text rest := by
  induction fuel generalizing text with
  | zero => simp [skipString?] at found
  | succ fuel induction =>
    cases text with
    | nil => simp [skipString?] at found
    | cons c text =>
      simp only [skipString?] at found
      split at found
      next quote =>
        cases found
        exact quote ▸ .close
      next noQuote =>
      split at found
      next escape =>
        subst escape
        split at found
        next more =>
          split at found
          · contradiction
          next unit behind digits => exact .unit digits (induction found)
        next e more _ =>
          split at found
          · contradiction
          next c letter => exact .simple letter (induction found)
        · contradiction
      next noEscape =>
      split at found
      · contradiction
      next visible => exact .plain noQuote noEscape (Nat.not_lt.mp visible) (induction found)

/-- The reader finds no value exactly where there is none. -/
theorem string?_eq_none_iff (text : List Char) :
    string? text = none ↔ ∀ body tail, ¬ StringAt text body tail := by
  constructor
  · intro missing body tail stands
    have found := (string?_eq_some_iff text (String.ofList body) tail).mpr (by simpa using stands)
    rw [missing] at found
    contradiction
  · intro noValue
    refine Option.eq_none_iff_forall_ne_some.mpr fun (value, tail) found => ?_
    exact noValue _ _ ((string?_eq_some_iff text value tail).mp found)

/-- The reader finds exactly the strings with and without a value. -/
theorem quoted?_eq_some_iff (text : List Char) (value : Option String) (rest : List Char) :
    quoted? text = some (value, rest) ↔ QuotedAt text value rest := by
  constructor
  · intro found
    unfold quoted? at found
    split at found
    next body tail read =>
      cases found
      rw [← String.ofList_toList (s := body)]
      exact .value ((string?_eq_some_iff text body rest).mp read)
    next missing =>
      obtain ⟨tail, read, same⟩ := Option.map_eq_some_iff.mp found
      cases same
      exact .unpaired ((string?_eq_none_iff text).mp missing) (skippedAt_of_skipString? read)
  · rintro (stands | ⟨noValue, skipped⟩)
    next body =>
      have found := (string?_eq_some_iff text (String.ofList body) rest).mpr (by simpa using stands)
      simp only [quoted?, found]
    · have read := @SkippedAt.read _ _ skipped (text.length + 1) (by omega)
      simp only [quoted?, (string?_eq_none_iff text).mpr noValue, read, Option.map_some]

/-! ## Numbers -/

/-- No digit stands in front. -/
def NoDigit (text : List Char) : Prop := ∀ c ∈ text.head?, c.isDigit = false

/-- No digit stands where a value ends. -/
theorem Ends.noDigit {rest : List Char} (ends : Ends rest) : NoDigit rest := by
  intro c head
  rcases ends c head with space | rfl | rfl | rfl
  · simp only [isSpace, Bool.or_eq_true, beq_iff_eq] at space
    rcases space with ((rfl | rfl) | rfl) | rfl <;> decide
  all_goals decide

/-- Neither a point nor an exponent stands where a value ends. -/
theorem Ends.head?_ne {rest : List Char} (ends : Ends rest) {c : Char}
    (mark : c = '.' ∨ c = 'e' ∨ c = 'E') : rest.head? ≠ some c := by
  intro head
  have := ends c head
  rcases mark with rfl | rfl | rfl <;> simp [isSpace] at this

/-- Digits are read up to what is none. -/
theorem IsDigits.read {digits rest : List Char} (isDigits : IsDigits digits)
    (noDigit : NoDigit rest) : digits? (digits ++ rest) = some (digits, rest) := by
  have taken : (digits ++ rest).takeWhile Char.isDigit = digits := by
    rw [List.takeWhile_append_of_pos isDigits.2]
    cases rest with
    | nil => simp
    | cons c rest => rw [List.takeWhile_cons_of_neg (by simp [noDigit c rfl]), List.append_nil]
  simp [digits?, taken, isDigits.1]

/-- What is read are digits. -/
theorem isDigits_of_digits? {text digits rest : List Char}
    (found : digits? text = some (digits, rest)) : IsDigits digits ∧ text = digits ++ rest := by
  simp only [digits?, Option.ite_none_left_eq_some, Option.some.injEq, Prod.mk.injEq] at found
  obtain ⟨nonempty, rfl, rfl⟩ := found
  refine ⟨⟨by simpa using nonempty, fun c member => List.mem_takeWhile_imp member⟩, ?_⟩
  exact (List.prefix_iff_eq_append.mp (List.takeWhile_prefix _)).symm

/-- A digit stands in front of the digits before the point. -/
theorem IsWhole.head {whole : List Char} (isWhole : IsWhole whole) :
    ∃ c tail, whole = c :: tail ∧ c.isDigit := by
  rcases isWhole with rfl | ⟨⟨nonempty, digits⟩, -⟩
  · exact ⟨'0', [], rfl, rfl⟩
  · obtain ⟨c, tail, rfl⟩ := List.exists_cons_of_ne_nil nonempty
    exact ⟨c, tail, rfl, digits c List.mem_cons_self⟩

/-- The digits before the point are read. -/
theorem IsWhole.read {whole rest : List Char} (isWhole : IsWhole whole) (noDigit : NoDigit rest) :
    integerPart? (whole ++ rest) = some (whole, rest) := by
  rcases isWhole with rfl | ⟨digits, noZero⟩
  · rfl
  · rw [← digits.read noDigit, integerPart?.eq_2]
    rintro tail same
    obtain ⟨c, others, rfl⟩ := List.exists_cons_of_ne_nil digits.1
    rw [List.cons_append] at same
    exact noZero (congrArg some (List.cons.inj same).1)

/-- What is read are the digits before a point. -/
theorem isWhole_of_integerPart? {text whole rest : List Char}
    (found : integerPart? text = some (whole, rest)) : IsWhole whole ∧ text = whole ++ rest := by
  unfold integerPart? at found
  split at found
  · cases found
    exact ⟨.inl rfl, rfl⟩
  next noZero =>
    obtain ⟨digits, rfl⟩ := isDigits_of_digits? found
    refine ⟨.inr ⟨digits, fun zero => ?_⟩, rfl⟩
    obtain ⟨tail, rfl⟩ := List.head?_eq_some_iff.mp zero
    exact noZero (tail ++ rest) rfl

/-- The fraction is read. -/
theorem IsFraction.read {fraction rest : List Char} (isFraction : IsFraction fraction)
    (noDigit : NoDigit rest) (noPoint : rest.head? ≠ some '.') :
    fraction? (fraction ++ rest) = some (fraction, rest) := by
  rcases isFraction with rfl | ⟨digits, rfl, isDigits⟩
  · rw [List.nil_append, fraction?.eq_2]
    rintro tail rfl
    exact noPoint rfl
  · simp [fraction?, isDigits.read noDigit]

/-- What is read is a fraction. -/
theorem isFraction_of_fraction? {text fraction rest : List Char}
    (found : fraction? text = some (fraction, rest)) :
    IsFraction fraction ∧ text = fraction ++ rest := by
  unfold fraction? at found
  split at found
  · obtain ⟨⟨digits, tail⟩, read, same⟩ := Option.map_eq_some_iff.mp found
    cases same
    obtain ⟨isDigits, rfl⟩ := isDigits_of_digits? read
    exact ⟨.inr ⟨digits, rfl, isDigits⟩, rfl⟩
  · cases found
    exact ⟨.inl rfl, rfl⟩

/-- A sign in front of digits is told from them. -/
theorem filter_take_sign {sign digits : List Char} (test : Char → Bool)
    (isSign : sign = [] ∨ ∃ c, sign = [c] ∧ test c) (noSign : ∀ c ∈ digits.head?, test c = false) :
    ((sign ++ digits).take 1).filter test = sign := by
  rcases isSign with rfl | ⟨c, rfl, isSign⟩
  · cases digits with
    | nil => rfl
    | cons c digits => simp [noSign c rfl]
  · simp [isSign]

/-- A sign or nothing is cut off in front. -/
theorem cut_sign (test : Char → Bool) (text : List Char) :
    text = (text.take 1).filter test ++ text.drop ((text.take 1).filter test).length ∧
      ((text.take 1).filter test = [] ∨ ∃ c, (text.take 1).filter test = [c] ∧ test c) := by
  cases text with
  | nil => simp
  | cons c text => by_cases sign : test c <;> simp [sign]

/-- No sign stands in front of digits. -/
theorem ne_sign_of_isDigit {c : Char} (digit : c.isDigit) : c ≠ '-' ∧ c ≠ '+' := by
  constructor <;> rintro rfl <;> simp at digit

/-- The exponent is read. -/
theorem IsExponent.read {exponent rest : List Char} (isExponent : IsExponent exponent)
    (ends : Ends rest) : exponent? (exponent ++ rest) = some (exponent, rest) := by
  rcases isExponent with rfl | ⟨e, sign, digits, rfl, isMark, isSign, isDigits⟩
  · cases rest with
    | nil => rfl
    | cons c rest =>
      have noMark : ¬ (c = 'e' ∨ c = 'E') := fun mark =>
        ends.head?_ne (.inr mark) rfl
      simp [exponent?, noMark]
  · have noSign : ∀ c ∈ (digits ++ rest).head?, (c == '+' || c == '-') = false := by
      intro c head
      obtain ⟨d, tail, rfl⟩ := List.exists_cons_of_ne_nil isDigits.1
      obtain rfl : d = c := Option.mem_some.mp head
      have := ne_sign_of_isDigit (isDigits.2 d List.mem_cons_self)
      simp [this]
    have isSign : sign = [] ∨ ∃ c, sign = [c] ∧ (c == '+' || c == '-') := by
      rcases isSign with rfl | rfl | rfl <;> simp
    have taken := filter_take_sign (fun c => c == '+' || c == '-') isSign noSign
    simp only [List.cons_append, List.append_assoc, exponent?, if_pos isMark, taken,
      List.drop_left, isDigits.read ends.noDigit, Option.map_some]

/-- What is read is an exponent. -/
theorem isExponent_of_exponent? {text exponent rest : List Char}
    (found : exponent? text = some (exponent, rest)) :
    IsExponent exponent ∧ text = exponent ++ rest := by
  unfold exponent? at found
  split at found
  next e tail =>
    split at found
    next isMark =>
      obtain ⟨⟨digits, behind⟩, read, same⟩ := Option.map_eq_some_iff.mp found
      cases same
      obtain ⟨isDigits, cut⟩ := isDigits_of_digits? read
      obtain ⟨front, isSign⟩ := cut_sign (fun c => c == '+' || c == '-') tail
      refine ⟨.inr ⟨e, _, digits, rfl, isMark, ?_, isDigits⟩, ?_⟩
      · rcases isSign with none | ⟨c, one, isSign⟩
        · exact .inl none
        · simpa [one] using isSign
      · rw [cut] at front
        conv_lhs => rw [front]
        simp
    next noMark =>
      cases found
      exact ⟨.inl rfl, rfl⟩
  · cases found
    exact ⟨.inl rfl, rfl⟩

/-- No digit stands behind the digits before the point. -/
theorem noDigit_tail {fraction exponent rest : List Char} (isFraction : IsFraction fraction)
    (isExponent : IsExponent exponent) (ends : Ends rest) :
    NoDigit (fraction ++ (exponent ++ rest)) ∧ NoDigit (exponent ++ rest) ∧
      (exponent ++ rest).head? ≠ some '.' := by
  have behind : NoDigit (exponent ++ rest) ∧ (exponent ++ rest).head? ≠ some '.' := by
    rcases isExponent with rfl | ⟨e, sign, digits, rfl, rfl | rfl, -⟩
    · exact ⟨ends.noDigit, ends.head?_ne (.inl rfl)⟩
    all_goals simp [NoDigit]
  refine ⟨?_, behind⟩
  rcases isFraction with rfl | ⟨digits, rfl, -⟩
  · exact behind.1
  · simp [NoDigit]

/-- A number is read up to its end. -/
theorem IsNumber.read {literal rest : List Char} (isNumber : IsNumber literal)
    (ends : Ends rest) : number? (literal ++ rest) = some (String.ofList literal, rest) := by
  obtain ⟨sign, whole, fraction, exponent, rfl, isSign, isWhole, isFraction, isExponent⟩ := isNumber
  obtain ⟨wholeEnds, fractionEnds, noPoint⟩ := noDigit_tail isFraction isExponent ends
  have noSign : ∀ c ∈ (whole ++ (fraction ++ (exponent ++ rest))).head?, (c == '-') = false := by
    intro c head
    obtain ⟨d, tail, rfl, digit⟩ := isWhole.head
    obtain rfl : d = c := Option.mem_some.mp head
    simp [(ne_sign_of_isDigit digit).1]
  have isSign : sign = [] ∨ ∃ c, sign = [c] ∧ (c == '-') := by
    rcases isSign with rfl | rfl <;> simp
  have taken := filter_take_sign (· == '-') isSign noSign
  simp only [number?, List.append_assoc, taken, List.drop_left, isWhole.read wholeEnds,
    isFraction.read fractionEnds noPoint, isExponent.read ends, Option.map_some]

/-- What is read is a number. -/
theorem isNumber_of_number? {text rest : List Char} {literal : String}
    (found : number? text = some (literal, rest)) :
    IsNumber literal.toList ∧ text = literal.toList ++ rest := by
  simp only [number?] at found
  obtain ⟨front, isSign⟩ := cut_sign (· == '-') text
  split at found
  · contradiction
  next whole behind readWhole =>
  split at found
  · contradiction
  next fraction tail readFraction =>
  obtain ⟨⟨exponent, last⟩, readExponent, same⟩ := Option.map_eq_some_iff.mp found
  cases same
  obtain ⟨isWhole, cutWhole⟩ := isWhole_of_integerPart? readWhole
  obtain ⟨isFraction, cutFraction⟩ := isFraction_of_fraction? readFraction
  obtain ⟨isExponent, cutExponent⟩ := isExponent_of_exponent? readExponent
  rw [String.toList_ofList]
  refine ⟨⟨_, whole, fraction, exponent, rfl, ?_, isWhole, isFraction, isExponent⟩, ?_⟩
  · simpa using isSign
  · rw [cutWhole, cutFraction, cutExponent] at front
    conv_lhs => rw [front]
    simp only [List.append_assoc]

end SourceOutline.Json
