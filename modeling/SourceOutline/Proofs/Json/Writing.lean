import Mathlib.Tactic.IntervalCases
import SourceOutline.Json.Shape
import SourceOutline.Json.Writer
import SourceOutline.Proofs.Json.Reading

/-!
# Written values are read back

Both layouts of a value are texts of the grammar, so the reader gives the value back. Numbers are
kept as they are written and must be numbers of the grammar for that (`Plain`).
-/

namespace SourceOutline.Json

/-! ## Blanks in front -/

/-- Blanks may stand in front of blanks. -/
theorem Spaced.trans {text more rest : List Char} (first : Spaced text more)
    (second : Spaced more rest) : Spaced text rest := by
  induction first with
  | refl => exact second
  | cons space later induction => exact .cons space (induction second)

/-- Blanks may stand in front of a value. -/
theorem Spaced.valueAt {text more rest : List Char} {value : Json} (first : Spaced text more)
    (stands : ValueAt more value rest) : ValueAt text value rest := by
  cases stands with
  | null spaced => exact .null (first.trans spaced)
  | true spaced => exact .true (first.trans spaced)
  | false spaced => exact .false (first.trans spaced)
  | number spaced isNumber ends => exact .number (first.trans spaced) isNumber ends
  | string spaced stands => exact .string (first.trans spaced) stands
  | unpaired spaced kept stands => exact .unpaired (first.trans spaced) kept stands
  | emptyArray spaced closed => exact .emptyArray (first.trans spaced) closed
  | array spaced listed => exact .array (first.trans spaced) listed
  | emptyObject spaced closed => exact .emptyObject (first.trans spaced) closed
  | object spaced keyed listed => exact .object (first.trans spaced) keyed listed
  | unkeyed spaced noKey kept listed => exact .unkeyed (first.trans spaced) noKey kept listed

/-- A line feed and the blanks of a level are blanks. -/
theorem spaced_newLine (level : Nat) (rest : List Char) :
    Spaced ((newLine level).toList ++ rest) rest := by
  have blanks (count : Nat) : Spaced (List.replicate count ' ' ++ rest) rest := by
    induction count with
    | zero => exact .refl rest
    | succ count induction => exact .cons rfl induction
  rw [newLine, String.toList_ofList]
  exact .cons rfl (blanks _)

/-- A value ends in front of a new line. -/
theorem ends_newLine (level : Nat) (rest : List Char) : Ends ((newLine level).toList ++ rest) := by
  simp [Ends, newLine, isSpace]

/-! ## Strings and numbers -/

/-- A written digit is read back. -/
theorem hexDigit?_hexChar : ∀ n < 16, hexDigit? (hexChar n) = some n := by decide

/-- A written character is a character of a string. -/
theorem charAt_escapeChar (c : Char) (rest : List Char) : CharAt (escapeChar c ++ rest) c rest := by
  by_cases special : c ∈ ['"', '\\', '\n', '\r', '\t', '\x08', '\x0c']
  · simp only [List.mem_cons, List.not_mem_nil, or_false] at special
    rcases special with rfl | rfl | rfl | rfl | rfl | rfl | rfl <;> exact .simple rfl
  · simp only [List.mem_cons, List.not_mem_nil, or_false, not_or] at special
    obtain ⟨quote, backslash, feed, carriage, tab, back, form⟩ := special
    simp only [escapeChar, if_neg quote, if_neg backslash, if_neg feed, if_neg carriage, if_neg tab,
      if_neg back, if_neg form]
    split
    next control =>
      have digits :
          hexQuad? ('0' :: '0' :: hexChar (c.toNat / 16) :: hexChar (c.toNat % 16) :: rest) =
            some (c.toNat, rest) := by
        have zero : hexDigit? '0' = some 0 := rfl
        simp only [hexQuad?, zero, hexDigit?_hexChar (c.toNat / 16) (by omega),
          hexDigit?_hexChar (c.toNat % 16) (by omega), Option.some.injEq, Prod.mk.injEq, and_true]
        omega
      have stands := CharAt.unit digits (by simp [IsSurrogate]; omega)
      rwa [Char.ofNat_toNat] at stands
    next visible => exact .plain quote backslash (Nat.not_lt.mp visible)

/-- Written characters are a string up to the closing quote. -/
theorem stringAt_escape (body rest : List Char) :
    StringAt (body.flatMap escapeChar ++ '"' :: rest) body rest := by
  induction body with
  | nil => exact .close
  | cons c body induction =>
    rw [List.flatMap_cons, List.append_assoc]
    exact .cons (charAt_escapeChar c _) induction

/-- A written string has its value. -/
theorem quotedAt_escape (text : String) (rest : List Char) :
    QuotedAt (text.toList.flatMap escapeChar ++ '"' :: rest) (some text) rest := by
  have stands := QuotedAt.value (stringAt_escape text.toList rest)
  rwa [String.ofList_toList] at stands

/-- The text of a quoted string: its opening quote, and its characters up to the closing one. -/
theorem toList_quote (text : String) (rest : List Char) :
    (quote text).toList ++ rest = '"' :: (text.toList.flatMap escapeChar ++ '"' :: rest) := by
  simp [quote]

/-- The digits of a number that is not zero do not begin with a zero. -/
theorem head?_toDigits_ne {n : Nat} (positive : 0 < n) : (Nat.toDigits 10 n).head? ≠ some '0' := by
  induction n using Nat.strongRecOn with
  | ind n induction =>
    by_cases small : n < 10
    · rw [Nat.toDigits_of_lt_base small]
      interval_cases n <;> decide
    · have larger : 10 ≤ n := Nat.not_lt.mp small
      have shorter := induction (n / 10) (by omega) (by omega)
      rw [Nat.toDigits_of_base_le (by decide) larger]
      cases digits : Nat.toDigits 10 (n / 10) with
      | nil => exact absurd digits Nat.toDigits_ne_nil
      | cons c tail => simpa [digits] using shorter

/-- The digits of a natural number are a number. -/
theorem isNumber_repr (n : Nat) : IsNumber (Nat.repr n).toList := by
  rw [Nat.toList_repr]
  refine ⟨[], Nat.toDigits 10 n, [], [], by simp, .inl rfl, ?_, .inl rfl, .inl rfl⟩
  rcases Nat.eq_zero_or_pos n with rfl | positive
  · exact .inl rfl
  · refine .inr ⟨⟨Nat.toDigits_ne_nil, fun c member => ?_⟩, head?_toDigits_ne positive⟩
    exact Nat.isDigit_of_mem_toDigits (by decide) (by decide) member

/-- The value of digits is that of the standard library. -/
theorem digitsValue_eq (digits : List Char) :
    digitsValue digits = Nat.ofDigitChars 10 digits 0 := by
  simp only [digitsValue, Nat.ofDigitChars, Nat.mul_comm]

/-- A written natural number that fits into a machine word is read back. -/
theorem word?_ofNat {n : Nat} (fits : n ≤ maxWord) : (ofNat n).word? = some n := by
  have digits : (Nat.toDigits 10 n).all Char.isDigit := List.all_eq_true.mpr fun c member =>
    Nat.isDigit_of_mem_toDigits (by decide) (by decide) member
  have value : digitsValue (Nat.toDigits 10 n) = n := by
    rw [digitsValue_eq, Nat.ofDigitChars_toDigits (by decide) (by decide)]
  simp [ofNat, word?, natLiteral?, Nat.toList_repr, digits, value, fits, Nat.toDigits_ne_nil]

/-! ## Both layouts -/

/-- The numbers in the value are numbers of the grammar, and every string has a value. -/
inductive Plain : Json → Prop where
  | null : Plain .null
  | bool (value : Bool) : Plain (.bool value)
  | number {literal : String} (isNumber : IsNumber literal.toList) : Plain (.number literal)
  | string (value : String) : Plain (.string value)
  | array {items : List Json} (each : ∀ item ∈ items, Plain item) : Plain (.array items)
  | object {members : List (String × Json)} (each : ∀ entry ∈ members, Plain entry.2) :
    Plain (.object members)

/-- A list of plain values is plain. -/
theorem plain_array_map {α : Type} {write : α → Json} (each : ∀ item, Plain (write item))
    (items : List α) : Plain (array (items.map write)) := by
  refine .array fun item member => ?_
  obtain ⟨written, _, rfl⟩ := List.mem_map.mp member
  exact each written

/-- A quoted string is a value. -/
theorem valueAt_quote (value : String) (rest : List Char) :
    ValueAt ((quote value).toList ++ rest) (.string value) rest := by
  rw [toList_quote]
  exact .string (.refl _) (quotedAt_escape value rest)

/-- A literal is a value. -/
theorem valueAt_literal {literal : String} (isNumber : IsNumber literal.toList) {rest : List Char}
    (ends : Ends rest) : ValueAt (literal.toList ++ rest) (.number literal) rest := by
  have stands := ValueAt.number (.refl _) isNumber ends
  rwa [String.ofList_toList] at stands

/-- Items without blanks are items. -/
theorem itemsAt_compactItems {items : List Json} (nonempty : items ≠ [])
    (each : ∀ item ∈ items, ∀ rest, Ends rest → ValueAt (item.compact.toList ++ rest) item rest)
    (rest : List Char) : ItemsAt ((compactItems items).toList ++ ']' :: rest) items rest := by
  induction items with
  | nil => exact absurd rfl nonempty
  | cons item items induction =>
    have first := each item List.mem_cons_self
    cases items with
    | nil =>
      rw [compactItems]
      exact .last (first _ (by simp [Ends])) (.refl _)
    | cons second items =>
      have later := induction (by simp) fun item member => each item (List.mem_cons_of_mem _ member)
      rw [compactItems, String.toList_append, String.toList_append, List.append_assoc,
        List.append_assoc]
      · exact .cons (first _ (by simp [Ends])) (.refl _) later
      · simp

/-- Members with the keys that are written. -/
def entriesOf (members : List (String × Json)) : List (Option String × Json) :=
  members.map fun (key, value) => (some key, value)

/-- Written keys have values. -/
theorem keyed?_entriesOf (members : List (String × Json)) :
    keyed? (entriesOf members) = some members := by
  induction members with
  | nil => rfl
  | cons entry members induction =>
    rw [keyed?] at induction
    rw [entriesOf, List.map_cons, keyed?, List.mapM_cons, ← entriesOf, induction]
    rfl

/-- A written key with the last value. -/
theorem entriesAt_last {text inner more rest : List Char} {key : String} {value : Json}
    (spaced : Spaced text ((quote key).toList ++ ':' :: inner)) (stands : ValueAt inner value more)
    (closed : Spaced more ('\x7d' :: rest)) : EntriesAt text (entriesOf [(key, value)]) rest := by
  rw [toList_quote] at spaced
  exact .last spaced (quotedAt_escape key _) (.refl _) stands closed

/-- A written key with a value and the members behind it. -/
theorem entriesAt_cons {text inner more others rest : List Char} {key : String} {value : Json}
    {members : List (String × Json)} (spaced : Spaced text ((quote key).toList ++ ':' :: inner))
    (stands : ValueAt inner value more) (comma : Spaced more (',' :: others))
    (later : EntriesAt others (entriesOf members) rest) :
    EntriesAt text (entriesOf ((key, value) :: members)) rest := by
  rw [toList_quote] at spaced
  exact .cons spaced (quotedAt_escape key _) (.refl _) stands comma later

/-- Members without blanks are members. -/
theorem entriesAt_compactMembers {members : List (String × Json)} (nonempty : members ≠ [])
    (each : ∀ entry ∈ members, ∀ rest, Ends rest →
      ValueAt (entry.2.compact.toList ++ rest) entry.2 rest) (rest : List Char) :
    EntriesAt ((compactMembers members).toList ++ '\x7d' :: rest) (entriesOf members) rest := by
  induction members with
  | nil => exact absurd rfl nonempty
  | cons entry members induction =>
    obtain ⟨key, value⟩ := entry
    have first := each (key, value) List.mem_cons_self
    cases members with
    | nil =>
      simp only [compactMembers, String.toList_append, List.append_assoc]
      exact entriesAt_last (.refl _) (first _ (by simp [Ends])) (.refl _)
    | cons second members =>
      have later := induction (by simp) fun entry member =>
        each entry (List.mem_cons_of_mem _ member)
      rw [compactMembers]
      · simp only [String.toList_append, List.append_assoc]
        exact entriesAt_cons (.refl _) (first _ (by simp [Ends])) (.refl _) later
      · simp

/-- A value without blanks is a value. -/
theorem Plain.valueAt_compact {value : Json} (plain : Plain value) {rest : List Char}
    (ends : Ends rest) : ValueAt (value.compact.toList ++ rest) value rest := by
  induction plain generalizing rest with
  | null => exact .null (.refl _)
  | bool value =>
    cases value with
    | true => exact .true (.refl _)
    | false => exact .false (.refl _)
  | number isNumber => exact valueAt_literal isNumber ends
  | string value => exact valueAt_quote value rest
  | @array items each induction =>
    rw [compact, String.toList_append, String.toList_append, List.append_assoc, List.append_assoc]
    cases items with
    | nil => exact .emptyArray (.refl _) (.refl _)
    | cons item items =>
      exact .array (.refl _)
        (itemsAt_compactItems (by simp) (fun item member rest => induction item member) rest)
  | @object members each induction =>
    rw [compact, String.toList_append, String.toList_append, List.append_assoc, List.append_assoc]
    cases members with
    | nil => exact .emptyObject (.refl _) (.refl _)
    | cons entry members =>
      exact .object (.refl _) (keyed?_entriesOf _) (entriesAt_compactMembers (by simp)
        (fun entry member rest => induction entry member) rest)

/-- Items on lines of their own are items. -/
theorem itemsAt_pretty (level outer : Nat) {item : Json} {items : List Json}
    (each : ∀ one ∈ item :: items, ∀ rest, Ends rest →
      ValueAt ((prettyAt level one).toList ++ rest) one rest) (rest : List Char) :
    ItemsAt ((newLine level).toList ++ ((prettyAt level item).toList ++
      ((prettyItems level items).toList ++ ((newLine outer).toList ++ ']' :: rest))))
      (item :: items) rest := by
  induction items generalizing item with
  | nil =>
    refine .last ((spaced_newLine level _).valueAt
      (each item List.mem_cons_self _ ?_)) (spaced_newLine outer _)
    exact ends_newLine outer _
  | cons second items induction =>
    have later := @induction second fun one member => each one (List.mem_cons_of_mem _ member)
    simp only [prettyItems, String.toList_append, List.append_assoc]
    exact .cons ((spaced_newLine level _).valueAt
      (each item List.mem_cons_self _ (by simp [Ends]))) (.refl _) later

/-- Members on lines of their own are members. -/
theorem entriesAt_pretty (level outer : Nat) {key : String} {value : Json}
    {members : List (String × Json)}
    (each : ∀ entry ∈ (key, value) :: members, ∀ rest, Ends rest →
      ValueAt ((prettyAt level entry.2).toList ++ rest) entry.2 rest) (rest : List Char) :
    EntriesAt ((newLine level).toList ++ ((quote key).toList ++ (": ".toList ++
      ((prettyAt level value).toList ++ ((prettyMembers level members).toList ++
        ((newLine outer).toList ++ '\x7d' :: rest))))))
      (entriesOf ((key, value) :: members)) rest := by
  have blank (text : List Char) : Spaced (' ' :: text) text := .cons rfl (.refl _)
  have first := each (key, value) List.mem_cons_self
  induction members generalizing key value with
  | nil =>
    exact entriesAt_last (spaced_newLine level _)
      ((blank _).valueAt (first _ (ends_newLine outer _))) (spaced_newLine outer _)
  | cons second members induction =>
    obtain ⟨otherKey, other⟩ := second
    have others := fun entry member => each entry (List.mem_cons_of_mem (key, value) member)
    have later := induction others (others (otherKey, other) List.mem_cons_self)
    simp only [prettyMembers, String.toList_append, List.append_assoc]
    exact entriesAt_cons (spaced_newLine level _)
      ((blank _).valueAt (first _ (by simp [Ends]))) (.refl _) later

/-- A value over several lines is a value. -/
theorem Plain.valueAt_prettyAt {value : Json} (plain : Plain value) (level : Nat) {rest : List Char}
    (ends : Ends rest) : ValueAt ((prettyAt level value).toList ++ rest) value rest := by
  induction plain generalizing level rest with
  | null =>
    rw [prettyAt]
    exact .null (.refl _)
  | bool value =>
    rw [prettyAt]
    cases value with
    | true => exact .true (.refl _)
    | false => exact .false (.refl _)
  | number isNumber =>
    rw [prettyAt]
    exact valueAt_literal isNumber ends
  | string value =>
    rw [prettyAt]
    exact valueAt_quote value rest
  | @array items each induction =>
    cases items with
    | nil =>
      rw [prettyAt]
      exact .emptyArray (.refl _) (.refl _)
    | cons item items =>
      simp only [prettyAt, String.toList_append, List.append_assoc]
      exact .array (.refl _)
        (itemsAt_pretty (level + 1) level (fun one member rest => induction one member _) rest)
  | @object members each induction =>
    cases members with
    | nil =>
      rw [prettyAt]
      exact .emptyObject (.refl _) (.refl _)
    | cons entry members =>
      obtain ⟨key, value⟩ := entry
      simp only [prettyAt, String.toList_append, List.append_assoc]
      exact .object (.refl _) (keyed?_entriesOf _) (entriesAt_pretty (level + 1) level
        (fun entry member rest => induction entry member _) rest)

/-- A value without blanks is read back. -/
theorem Plain.parse?_compact {value : Json} (plain : Plain value) :
    parse? value.compact.toList = some value := by
  have stands := @Plain.valueAt_compact _ plain [] (by simp [Ends])
  rw [List.append_nil] at stands
  exact (parse?_eq_some_iff _ value).mpr ⟨[], stands, .refl _⟩

/-- A value over several lines is read back, also with blanks behind it. -/
theorem Plain.parse?_pretty {value : Json} (plain : Plain value) {blanks : List Char}
    (spaced : Spaced blanks []) : parse? (value.pretty.toList ++ blanks) = some value := by
  have stands := plain.valueAt_prettyAt 0 (spaced.ends (by simp [Ends]))
  exact (parse?_eq_some_iff _ value).mpr ⟨blanks, stands, spaced⟩

end SourceOutline.Json
