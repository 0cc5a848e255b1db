import Mathlib.Data.List.DropRight
import SourceOutline.Proofs.Json.Grammar

/-!
# The reader and the grammar of JSON

The reader of values counts down a fuel. Every part of a text is shorter than the text, so the
length of the text is enough fuel for whatever the grammar finds in it (`value?_of_valueAt`), and
what the reader finds is in the grammar with any fuel (`valueAt_of_value?`).
-/

namespace SourceOutline.Json

/-! ## Every part takes up text -/

/-- A number is not empty and begins with a sign or a digit. -/
theorem IsNumber.head {literal : List Char} (isNumber : IsNumber literal) :
    ∃ c tail, literal = c :: tail ∧ (c = '-' ∨ c.isDigit) := by
  obtain ⟨sign, whole, fraction, exponent, rfl, rfl | rfl, isWhole, -⟩ := isNumber
  · obtain ⟨c, tail, rfl, digit⟩ := isWhole.head
    exact ⟨c, tail ++ fraction ++ exponent, by simp, .inr digit⟩
  · exact ⟨'-', whole ++ fraction ++ exponent, by simp, .inl rfl⟩

/-- Values, items and members in a text below a length take up text. -/
theorem length_lt_of_lt (bound : Nat) :
    (∀ {text rest : List Char} {value : Json}, text.length < bound → ValueAt text value rest →
      rest.length < text.length) ∧
    (∀ {text rest : List Char} {items : List Json}, text.length < bound →
      ItemsAt text items rest → rest.length < text.length) ∧
    (∀ {text rest : List Char} {entries : List (Option String × Json)}, text.length < bound →
      EntriesAt text entries rest → rest.length < text.length) := by
  induction bound with
  | zero => simp
  | succ bound induction =>
    obtain ⟨_, ofItems, ofEntries⟩ := induction
    have ofValue {text rest : List Char} {value : Json} (below : text.length < bound + 1)
        (stands : ValueAt text value rest) : rest.length < text.length := by
      cases stands with
      | null spaced => exact Nat.lt_of_lt_of_le (by simp; omega) spaced.length_le
      | true spaced => exact Nat.lt_of_lt_of_le (by simp; omega) spaced.length_le
      | false spaced => exact Nat.lt_of_lt_of_le (by simp; omega) spaced.length_le
      | number spaced isNumber ends =>
        obtain ⟨c, tail, rfl, -⟩ := isNumber.head
        exact Nat.lt_of_lt_of_le (by simp) spaced.length_le
      | string spaced stands => exact stands.length_lt.trans spaced.length_lt
      | unpaired spaced _ stands => exact stands.length_lt.trans spaced.length_lt
      | emptyArray spaced closed => exact closed.length_lt.trans spaced.length_lt
      | array spaced listed =>
        have inside := spaced.length_lt
        exact (ofItems (by omega) listed).trans inside
      | emptyObject spaced closed => exact closed.length_lt.trans spaced.length_lt
      | object spaced _ listed =>
        have inside := spaced.length_lt
        exact (ofEntries (by omega) listed).trans inside
      | unkeyed spaced _ _ listed =>
        have inside := spaced.length_lt
        exact (ofEntries (by omega) listed).trans inside
    refine ⟨ofValue, fun below listed => ?_, fun below listed => ?_⟩
    · cases listed with
      | last first closed => exact closed.length_lt.trans (ofValue below first)
      | cons first comma later =>
        have behind := comma.length_lt.trans (ofValue below first)
        exact (ofItems (by omega) later).trans behind
    · cases listed with
      | last spaced named colon stands closed =>
        have inside := colon.length_lt.trans (named.length_lt.trans spaced.length_lt)
        exact closed.length_lt.trans ((ofValue (by omega) stands).trans inside)
      | cons spaced named colon stands comma later =>
        have inside := colon.length_lt.trans (named.length_lt.trans spaced.length_lt)
        have behind := comma.length_lt.trans ((ofValue (by omega) stands).trans inside)
        exact (ofEntries (by omega) later).trans behind

/-- A value takes up text. -/
theorem ValueAt.length_lt {text rest : List Char} {value : Json}
    (stands : ValueAt text value rest) : rest.length < text.length :=
  (length_lt_of_lt _).1 (Nat.lt_succ_self _) stands

/-- Items take up text. -/
theorem ItemsAt.length_lt {text rest : List Char} {items : List Json}
    (listed : ItemsAt text items rest) : rest.length < text.length :=
  (length_lt_of_lt _).2.1 (Nat.lt_succ_self _) listed

/-- Members take up text. -/
theorem EntriesAt.length_lt {text rest : List Char} {entries : List (Option String × Json)}
    (listed : EntriesAt text entries rest) : rest.length < text.length :=
  (length_lt_of_lt _).2.2 (Nat.lt_succ_self _) listed

/-! ## What the grammar finds is read -/

/-- A sign or a digit is no blank. -/
theorem isSpace_eq_false {c : Char} (begins : c = '-' ∨ c.isDigit) : isSpace c = false := by
  rcases begins with rfl | digit
  · rfl
  · by_contra space
    simp only [isSpace, Bool.not_eq_false, Bool.or_eq_true, beq_iff_eq] at space
    rcases space with ((rfl | rfl) | rfl) | rfl <;> simp at digit

/-- A value does not begin with a closing bracket. -/
theorem ValueAt.skipSpace_ne {text rest tail : List Char} {value : Json}
    (stands : ValueAt text value rest) : skipSpace text ≠ ']' :: tail := by
  cases stands with
  | number spaced isNumber ends =>
    obtain ⟨c, literal, rfl, begins⟩ := isNumber.head
    rw [List.cons_append] at spaced
    rw [spaced.skipSpace_cons (isSpace_eq_false begins)]
    intro same
    obtain ⟨rfl, -⟩ := List.cons.inj same
    simp at begins
  | null spaced => simp [spaced.skipSpace_cons rfl]
  | true spaced => simp [spaced.skipSpace_cons rfl]
  | false spaced => simp [spaced.skipSpace_cons rfl]
  | string spaced => simp [spaced.skipSpace_cons rfl]
  | unpaired spaced => simp [spaced.skipSpace_cons rfl]
  | emptyArray spaced => simp [spaced.skipSpace_cons rfl]
  | array spaced => simp [spaced.skipSpace_cons rfl]
  | emptyObject spaced => simp [spaced.skipSpace_cons rfl]
  | object spaced => simp [spaced.skipSpace_cons rfl]
  | unkeyed spaced => simp [spaced.skipSpace_cons rfl]

/-- Items do not begin with a closing bracket. -/
theorem ItemsAt.skipSpace_ne {text rest tail : List Char} {items : List Json}
    (listed : ItemsAt text items rest) : skipSpace text ≠ ']' :: tail := by
  cases listed with
  | last first => exact first.skipSpace_ne
  | cons first => exact first.skipSpace_ne

/-- Members begin with a quote. -/
theorem EntriesAt.skipSpace_ne {text rest tail : List Char}
    {entries : List (Option String × Json)} (listed : EntriesAt text entries rest) :
    skipSpace text ≠ '\x7d' :: tail := by
  cases listed with
  | last spaced => simp [spaced.skipSpace_cons rfl]
  | cons spaced => simp [spaced.skipSpace_cons rfl]

/-- Blanks are skipped once. -/
theorem skipSpace_skipSpace (text : List Char) : skipSpace (skipSpace text) = skipSpace text :=
  List.dropWhile_idempotent _ text

/-- Blanks in front do not matter to values. -/
theorem value?_skipSpace (fuel : Nat) (text : List Char) :
    value? fuel (skipSpace text) = value? fuel text := by
  cases fuel <;> simp only [value?, skipSpace_skipSpace]

/-- Blanks in front do not matter to items. -/
theorem items?_skipSpace (fuel : Nat) (text : List Char) :
    items? fuel (skipSpace text) = items? fuel text := by
  cases fuel <;> simp only [items?, value?_skipSpace]

/-- Blanks in front do not matter to members. -/
theorem entries?_skipSpace (fuel : Nat) (text : List Char) :
    entries? fuel (skipSpace text) = entries? fuel text := by
  cases fuel <;> simp only [entries?, skipSpace_skipSpace]

/-- No other value begins like a number. -/
theorem value?_of_number {text tail : List Char} {c : Char} (skipped : skipSpace text = c :: tail)
    (begins : c = '-' ∨ c.isDigit) (fuel : Nat) :
    value? (fuel + 1) text =
      (number? (c :: tail)).map fun (literal, rest) => (.number literal, rest) := by
  rw [value?, skipped]
  split
  all_goals first | rfl | simp_all

/-- An array that is not closed at once has items. -/
theorem value?_of_array {text more : List Char} (skipped : skipSpace text = '[' :: more)
    (notClosed : ∀ tail, skipSpace more ≠ ']' :: tail) (fuel : Nat) :
    value? (fuel + 1) text = (items? fuel more).map fun (items, rest) => (.array items, rest) := by
  simp only [value?, skipped, items?_skipSpace]

/-- An object that is not closed at once has members. -/
theorem value?_of_object {text more : List Char} (skipped : skipSpace text = '\x7b' :: more)
    (notClosed : ∀ tail, skipSpace more ≠ '\x7d' :: tail) (fuel : Nat) :
    value? (fuel + 1) text =
      (entries? fuel more).map fun (entries, rest) =>
        (ofEntries ('\x7b' :: more) rest entries, rest) := by
  simp only [value?, skipped, entries?_skipSpace]

/-- What the grammar finds is read, if there is fuel for every character. -/
theorem value?_of_valueAt (fuel : Nat) :
    (∀ {text rest : List Char} {value : Json}, ValueAt text value rest →
      text.length ≤ fuel + rest.length → value? fuel text = some (value, rest)) ∧
    (∀ {text rest : List Char} {items : List Json}, ItemsAt text items rest →
      text.length ≤ fuel + rest.length → items? fuel text = some (items, rest)) ∧
    (∀ {text rest : List Char} {entries : List (Option String × Json)},
      EntriesAt text entries rest → text.length ≤ fuel + rest.length →
        entries? fuel text = some (entries, rest)) := by
  induction fuel with
  | zero =>
    refine ⟨fun stands enough => ?_, fun listed enough => ?_, fun listed enough => ?_⟩
    · have := stands.length_lt
      omega
    · have := listed.length_lt
      omega
    · have := listed.length_lt
      omega
  | succ fuel induction =>
    obtain ⟨ofValue, ofItems, ofEntries⟩ := induction
    refine ⟨fun stands enough => ?_, fun listed enough => ?_, fun listed enough => ?_⟩
    · cases stands with
      | null spaced => simp [value?, spaced.skipSpace_cons rfl]
      | true spaced => simp [value?, spaced.skipSpace_cons rfl]
      | false spaced => simp [value?, spaced.skipSpace_cons rfl]
      | number spaced isNumber ends =>
        obtain ⟨c, tail, rfl, begins⟩ := isNumber.head
        rw [List.cons_append] at spaced
        rw [value?_of_number (spaced.skipSpace_cons (isSpace_eq_false begins)) begins,
          ← List.cons_append, isNumber.read ends, Option.map_some]
      | string spaced stands =>
        simp only [value?, spaced.skipSpace_cons rfl, (quoted?_eq_some_iff _ _ _).mpr stands,
          Option.map_some, ofQuoted]
      | unpaired spaced kept stands =>
        simp only [value?, spaced.skipSpace_cons rfl, (quoted?_eq_some_iff _ _ _).mpr stands,
          Option.map_some, ofQuoted, kept]
      | emptyArray spaced closed =>
        simp [value?, spaced.skipSpace_cons rfl, closed.skipSpace_cons rfl]
      | array spaced listed =>
        have := spaced.length_lt
        rw [value?_of_array (spaced.skipSpace_cons rfl) fun tail => listed.skipSpace_ne,
          ofItems listed (by omega), Option.map_some]
      | emptyObject spaced closed =>
        simp [value?, spaced.skipSpace_cons rfl, closed.skipSpace_cons rfl]
      | object spaced keyed listed =>
        have := spaced.length_lt
        rw [value?_of_object (spaced.skipSpace_cons rfl) fun tail => listed.skipSpace_ne,
          ofEntries listed (by omega), Option.map_some]
        simp only [Json.ofEntries, keyed]
      | unkeyed spaced noKey kept listed =>
        have := spaced.length_lt
        rw [value?_of_object (spaced.skipSpace_cons rfl) fun tail => listed.skipSpace_ne,
          ofEntries listed (by omega), Option.map_some]
        simp only [Json.ofEntries, noKey, kept]
    · cases listed with
      | last first closed =>
        have := closed.length_lt
        simp only [items?, ofValue first (by omega), closed.skipSpace_cons rfl]
      | cons first comma later =>
        have := first.length_lt
        have := comma.length_lt
        have := later.length_lt
        simp only [items?, ofValue first (by omega), comma.skipSpace_cons rfl,
          ofItems later (by omega), Option.map_some]
    · cases listed with
      | last spaced named colon stands closed =>
        have := spaced.length_lt
        have := named.length_lt
        have := colon.length_lt
        have := closed.length_lt
        simp only [entries?, spaced.skipSpace_cons rfl, (quoted?_eq_some_iff _ _ _).mpr named,
          colon.skipSpace_cons rfl, ofValue stands (by omega), closed.skipSpace_cons rfl]
      | cons spaced named colon stands comma later =>
        have := spaced.length_lt
        have := named.length_lt
        have := colon.length_lt
        have := stands.length_lt
        have := comma.length_lt
        have := later.length_lt
        simp only [entries?, spaced.skipSpace_cons rfl, (quoted?_eq_some_iff _ _ _).mpr named,
          colon.skipSpace_cons rfl, ofValue stands (by omega), comma.skipSpace_cons rfl,
          ofEntries later (by omega), Option.map_some]

/-! ## What is read is in the grammar -/

/-- What the reader finds with some fuel is in the grammar. A value that is a number must be seen to
end, which each use of the reader checks. -/
theorem valueAt_of_value? (fuel : Nat) :
    (∀ {text rest : List Char} {value : Json}, value? fuel text = some (value, rest) → Ends rest →
      ValueAt text value rest) ∧
    (∀ {text rest : List Char} {items : List Json}, items? fuel text = some (items, rest) →
      ItemsAt text items rest) ∧
    (∀ {text rest : List Char} {entries : List (Option String × Json)},
      entries? fuel text = some (entries, rest) → EntriesAt text entries rest) := by
  induction fuel with
  | zero => simp [value?, items?, entries?]
  | succ fuel induction =>
    obtain ⟨ofValue, ofItems, ofEntries⟩ := induction
    refine ⟨?_, ?_, ?_⟩
    · intro text rest value found ends
      have spaced := spaced_skipSpace text
      unfold value? at found
      split at found
      next skipped => cases found; exact .null (skipped ▸ spaced)
      next skipped => cases found; exact .true (skipped ▸ spaced)
      next skipped => cases found; exact .false (skipped ▸ spaced)
      next more skipped =>
        rw [skipped] at spaced
        obtain ⟨⟨value, tail⟩, read, same⟩ := Option.map_eq_some_iff.mp found
        cases same
        have stands := (quoted?_eq_some_iff more value rest).mp read
        cases value with
        | some value => exact .string spaced stands
        | none => exact .unpaired spaced rfl stands
      next more skipped =>
        rw [skipped] at spaced
        split at found
        next tail closed => cases found; exact .emptyArray spaced (closed ▸ spaced_skipSpace more)
        · rw [items?_skipSpace] at found
          obtain ⟨⟨items, tail⟩, read, same⟩ := Option.map_eq_some_iff.mp found
          cases same
          exact .array spaced (ofItems read)
      next more skipped =>
        rw [skipped] at spaced
        split at found
        next tail closed => cases found; exact .emptyObject spaced (closed ▸ spaced_skipSpace more)
        · rw [entries?_skipSpace] at found
          obtain ⟨⟨entries, tail⟩, read, same⟩ := Option.map_eq_some_iff.mp found
          cases same
          rw [Json.ofEntries]
          split
          next members keyed => exact .object spaced keyed (ofEntries read)
          next noKey => exact .unkeyed spaced noKey rfl (ofEntries read)
      · obtain ⟨⟨literal, tail⟩, read, same⟩ := Option.map_eq_some_iff.mp found
        cases same
        obtain ⟨isNumber, cut⟩ := isNumber_of_number? read
        rw [← String.ofList_toList (s := literal)]
        exact .number (cut ▸ spaced) isNumber ends
    · intro text rest items found
      simp only [items?] at found
      split at found
      · contradiction
      next item more read =>
      split at found
      next tail closed =>
        cases found
        exact .last (ofValue read (ends_of_skipSpace closed (by simp)))
          (closed ▸ spaced_skipSpace more)
      next others comma =>
        obtain ⟨⟨items, tail⟩, later, same⟩ := Option.map_eq_some_iff.mp found
        cases same
        exact .cons (ofValue read (ends_of_skipSpace comma (by simp)))
          (comma ▸ spaced_skipSpace more) (ofItems later)
      · contradiction
    · intro text rest entries found
      simp only [entries?] at found
      split at found
      next start skipped =>
        split at found
        · contradiction
        next key behind readKey =>
        split at found
        next inner colon =>
          split at found
          · contradiction
          next value more read =>
          have named := (quoted?_eq_some_iff start key behind).mp readKey
          split at found
          next tail closed =>
            cases found
            exact .last (skipped ▸ spaced_skipSpace text) named (colon ▸ spaced_skipSpace behind)
              (ofValue read (ends_of_skipSpace closed (by simp))) (closed ▸ spaced_skipSpace more)
          next others comma =>
            obtain ⟨⟨entries, tail⟩, later, same⟩ := Option.map_eq_some_iff.mp found
            cases same
            exact .cons (skipped ▸ spaced_skipSpace text) named (colon ▸ spaced_skipSpace behind)
              (ofValue read (ends_of_skipSpace comma (by simp))) (comma ▸ spaced_skipSpace more)
              (ofEntries later)
          · contradiction
        · contradiction
      · contradiction

/-- Nothing but blanks is left when all blanks are skipped. -/
theorem spaced_nil_iff (rest : List Char) : Spaced rest [] ↔ skipSpace rest = [] := by
  constructor
  · intro spaced
    rw [spaced.skipSpace_eq]
    rfl
  · intro skipped
    exact skipped ▸ spaced_skipSpace rest

/-- The reader accepts exactly the texts of the grammar, each as its value. -/
theorem parse?_eq_some_iff (text : List Char) (value : Json) :
    parse? text = some value ↔ IsText text value := by
  constructor
  · intro found
    unfold parse? at found
    split at found
    next read rest values =>
      rw [Option.ite_none_right_eq_some, Option.some.injEq] at found
      obtain ⟨blank, rfl⟩ := found
      have spaced := (spaced_nil_iff rest).mpr (List.isEmpty_iff.mp blank)
      exact ⟨rest, (valueAt_of_value? _).1 values (spaced.ends (by simp [Ends])), spaced⟩
    · contradiction
  · rintro ⟨rest, stands, spaced⟩
    have read := (value?_of_valueAt (text.length + 1)).1 stands (by omega)
    simp [parse?, read, (spaced_nil_iff rest).mp spaced]

end SourceOutline.Json
