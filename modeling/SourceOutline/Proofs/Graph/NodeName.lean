import Mathlib.Data.List.Nodup
import SourceOutline.Graph.Dot

/-!
# Names of graph nodes

Different declarations may ask for one name, and a number behind a taken name may itself be
the name of another declaration. The names given are distinct all the same. The search for a
number ends because the numbered forms of a name are all different, so a list of used names
cannot hold the name and as many of its numbered forms as the list is long. For the same reason
the number of a declaration is hardly larger than its place in the list, and it can be counted
in all but the longest lists (`numbersFit_of_length`).
-/

namespace SourceOutline.Graph

/-- A name of letters, digits and underscores, at least one of them. -/
def IsNodeName (name : String) : Prop := name ≠ "" ∧ ∀ c ∈ name.toList, isIdChar c = true

/-- The numbers behind the names of a list can be counted. -/
def NumbersFit (tree : List Declaration) : Prop :=
  ∀ (index : Nat) (declaration : Declaration) (number : Nat), tree[index]? = some declaration →
    (uniqueIds tree)[index]? = some (withNumber (baseId declaration) number) →
      number < largestNumber

/-! ## Numbered forms -/

/-- Different numbers give different names. -/
theorem withNumber_injective (base : String) : Function.Injective (withNumber base) := by
  intro left right same
  have texts := congrArg String.toList same
  simp only [withNumber, String.toList_append, List.append_assoc, List.append_cancel_left_eq,
    Nat.toList_repr] at texts
  have values := congrArg (fun digits => Nat.ofDigitChars 10 digits 0) texts
  simpa only [Nat.ofDigitChars_ten_toDigits] using values

/-- A numbered form is longer than the name. -/
theorem withNumber_ne (base : String) (number : Nat) : withNumber base number ≠ base := by
  intro same
  have lengths := congrArg String.length same
  have mark : "_".length = 1 := by decide
  simp only [withNumber, String.length_append] at lengths
  omega

/-- The search for a number finds one in its range after others that are used. It stops
before the end of the range only at a name that is free. -/
theorem freeNumber_spec (used : List String) (base : String) (tries first : Nat) :
    first ≤ freeNumber used base tries first ∧ freeNumber used base tries first ≤ first + tries ∧
      (∀ earlier, first ≤ earlier → earlier < freeNumber used base tries first →
        withNumber base earlier ∈ used) ∧
      (freeNumber used base tries first < first + tries →
        withNumber base (freeNumber used base tries first) ∉ used) := by
  induction tries generalizing first with
  | zero =>
    rw [freeNumber]
    exact ⟨Nat.le_refl _, Nat.le_refl _, by omega, by omega⟩
  | succ tries ih =>
    by_cases taken : withNumber base first ∈ used
    · rw [freeNumber, if_pos (List.contains_iff_mem.mpr taken)]
      obtain ⟨above, below, before, free⟩ := ih (first + 1)
      refine ⟨by omega, by omega, ?_, fun early => free (by omega)⟩
      intro earlier low high
      rcases Nat.eq_or_lt_of_le low with rfl | later
      · exact taken
      · exact before earlier later high
    · rw [freeNumber, if_neg (mt List.contains_iff_mem.mp taken)]
      exact ⟨Nat.le_refl _, by omega, by omega, fun _ => taken⟩

/-- A list cannot hold a name and as many of its numbered forms as it is long. -/
theorem exists_withNumber_not_mem {used : List String} {base : String} (taken : base ∈ used)
    (suffix : Nat) : ∃ number, suffix ≤ number ∧ number < suffix + used.length ∧
      withNumber base number ∉ used := by
  by_contra none
  have all : ∀ number, suffix ≤ number → number < suffix + used.length →
      withNumber base number ∈ used := by
    intro number above below
    by_contra free
    exact none ⟨number, above, below, free⟩
  let names := base :: (List.range' suffix used.length).map (withNumber base)
  have distinct : names.Nodup := by
    rw [List.nodup_cons]
    constructor
    · intro listed
      obtain ⟨number, _, same⟩ := List.mem_map.mp listed
      exact withNumber_ne base number same
    · exact List.Nodup.map (withNumber_injective base) List.nodup_range'
  have inside : names ⊆ used := by
    intro name listed
    rcases List.mem_cons.mp listed with rfl | listed
    · exact taken
    · obtain ⟨number, range, rfl⟩ := List.mem_map.mp listed
      rw [List.mem_range'_1] at range
      exact all number range.1 range.2
  have bound := distinct.length_le_of_subset inside
  simp only [names, List.length_cons, List.length_map, List.length_range'] at bound
  omega

/-! ## The name of one declaration -/

/-- A declaration takes a number exactly if the name it asks for is taken, and then the first
number whose form of the name is free. -/
theorem number?_spec (used : List String) (declaration : Declaration) :
    (baseId declaration ∉ used ∧ number? used declaration = none) ∨
      ∃ number, number? used declaration = some number ∧ 2 ≤ number ∧ number < used.length + 2 ∧
        withNumber (baseId declaration) number ∉ used := by
  by_cases taken : baseId declaration ∈ used
  · right
    obtain ⟨above, below, before, free⟩ :=
      freeNumber_spec used (baseId declaration) used.length 2
    obtain ⟨other, low, high, otherFree⟩ := exists_withNumber_not_mem taken 2
    -- A number past a free one would have that one among the used names before it.
    have early : freeNumber used (baseId declaration) used.length 2 < 2 + used.length := by
      by_contra late
      exact otherFree (before other low (by omega))
    exact ⟨_, if_pos (List.contains_iff_mem.mpr taken), above, by omega, free early⟩
  · exact Or.inl ⟨taken, if_neg (mt List.contains_iff_mem.mp taken)⟩

/-- The name given is free, and it is the name asked for or one of its numbered forms. -/
theorem assignId_spec (used : List String) (declaration : Declaration) :
    assignId used declaration ∉ used ∧
      (assignId used declaration = baseId declaration ∨
        ∃ number, 2 ≤ number ∧ number < used.length + 2 ∧
          assignId used declaration = withNumber (baseId declaration) number) := by
  rcases number?_spec used declaration with ⟨free, none⟩ | ⟨number, found, low, high, free⟩
  · rw [assignId, none]
    exact ⟨free, Or.inl rfl⟩
  · rw [assignId, found]
    exact ⟨free, Or.inr ⟨number, low, high, rfl⟩⟩

/-- The name given has a number behind the name asked for exactly if it takes that number. -/
theorem assignId_eq_withNumber_iff (used : List String) (declaration : Declaration)
    (number : Nat) :
    assignId used declaration = withNumber (baseId declaration) number ↔
      number? used declaration = some number := by
  rw [assignId]
  cases number? used declaration with
  | none => simpa using (withNumber_ne _ number).symm
  | some taken => simpa using (withNumber_injective (baseId declaration)).eq_iff

/-! ## The names of all declarations -/

/-- Every declaration gets a name. -/
@[simp] theorem length_assignIds (used : List String) (tree : List Declaration) :
    (assignIds used tree).length = tree.length := by
  induction tree generalizing used with
  | nil => rfl
  | cons declaration rest ih => rw [assignIds, List.length_cons, List.length_cons, ih]

/-- No name given is among those used before. -/
theorem not_mem_used_of_mem_assignIds {used : List String} {tree : List Declaration} {id : String}
    (given : id ∈ assignIds used tree) : id ∉ used := by
  induction tree generalizing used with
  | nil => contradiction
  | cons declaration rest ih =>
    rcases List.mem_cons.mp given with rfl | later
    · exact (assignId_spec used declaration).1
    · exact fun before => ih later (List.mem_cons_of_mem _ before)

/-- No name is given twice. -/
theorem nodup_assignIds (used : List String) (tree : List Declaration) :
    (assignIds used tree).Nodup := by
  induction tree generalizing used with
  | nil => exact List.nodup_nil
  | cons declaration rest ih =>
    rw [assignIds, List.nodup_cons]
    exact ⟨fun later => not_mem_used_of_mem_assignIds later List.mem_cons_self, ih _⟩

/-- The name of a declaration is given when the names before it are used. -/
theorem getElem?_assignIds (used : List String) {tree : List Declaration} {index : Nat}
    {declaration : Declaration} (placed : tree[index]? = some declaration) :
    ∃ taken : List String, taken.length = used.length + index ∧
      (assignIds used tree)[index]? = some (assignId taken declaration) := by
  induction tree generalizing used index with
  | nil => simp at placed
  | cons first rest ih =>
    cases index with
    | zero =>
      obtain rfl : first = declaration := by simpa using placed
      exact ⟨used, rfl, rfl⟩
    | succ index =>
      obtain ⟨taken, size, given⟩ :=
        ih (assignId used first :: used) (List.getElem?_cons_succ ▸ placed)
      refine ⟨taken, ?_, given⟩
      rw [size, List.length_cons]
      omega

/-- Names are assigned by kind and name alone. -/
theorem assignIds_congr {left right : List Declaration}
    (same : left.map baseId = right.map baseId) (used : List String) :
    assignIds used left = assignIds used right := by
  induction left generalizing right used with
  | nil => simp_all [assignIds]
  | cons first rest ih =>
    cases right with
    | nil => simp at same
    | cons other others =>
      obtain ⟨head, tail⟩ := List.cons.inj same
      have id : assignId used first = assignId used other := by
        simp only [assignId, number?, head]
      rw [assignIds, assignIds, id, ih tail]

/-! ## The characters of a name -/

/-- Replacing leaves only characters that need no replacement. -/
theorem isIdChar_of_mem_sanitizeId {text : String} {c : Char}
    (inside : c ∈ (sanitizeId text).toList) : isIdChar c = true := by
  rw [sanitizeId, String.toList_ofList] at inside
  obtain ⟨original, _, rfl⟩ := List.mem_map.mp inside
  split
  · assumption
  · decide

/-- A digit needs no replacement. -/
theorem isIdChar_of_isDigit {c : Char} (digit : c.isDigit = true) : isIdChar c = true := by
  simp [isIdChar, Char.isAlphanum, digit]

/-- The name asked for is a node name. -/
theorem isNodeName_baseId (declaration : Declaration) : IsNodeName (baseId declaration) := by
  refine ⟨?_, fun c inside => isIdChar_of_mem_sanitizeId inside⟩
  intro blank
  have texts := congrArg String.toList blank
  simp [baseId, sanitizeId] at texts

/-- A numbered form of a node name is a node name. -/
theorem isNodeName_withNumber {base : String} (node : IsNodeName base) (number : Nat) :
    IsNodeName (withNumber base number) := by
  constructor
  · intro blank
    have texts := congrArg String.toList blank
    simp [withNumber] at texts
  · intro c inside
    simp only [withNumber, String.toList_append, List.mem_append, Nat.toList_repr] at inside
    rcases inside with (inBase | inMark) | inNumber
    · exact node.2 c inBase
    · obtain rfl : c = '_' := by simpa using inMark
      decide
    · exact isIdChar_of_isDigit (Nat.isDigit_of_mem_toDigits (by decide) (by decide) inNumber)

/-- Every declaration of a tree gets a node name: the one it asks for, or that with a number
no larger than its place in the list allows. -/
theorem uniqueIds_spec {tree : List Declaration} {index : Nat} {declaration : Declaration}
    (placed : tree[index]? = some declaration) :
    ∃ id, (uniqueIds tree)[index]? = some id ∧ IsNodeName id ∧
      (id = baseId declaration ∨
        ∃ number, 2 ≤ number ∧ number ≤ index + 2 ∧
          id = withNumber (baseId declaration) number) := by
  obtain ⟨taken, size, given⟩ := getElem?_assignIds [rootId] placed
  rw [List.length_singleton] at size
  obtain ⟨_, plain | ⟨number, low, high, withNumber⟩⟩ := assignId_spec taken declaration
  · rw [plain] at given
    exact ⟨_, given, isNodeName_baseId declaration, Or.inl rfl⟩
  · rw [withNumber] at given
    exact ⟨_, given, isNodeName_withNumber (isNodeName_baseId declaration) number,
      Or.inr ⟨number, low, by omega, rfl⟩⟩

/-! ## Counting numbers -/

/-- The count fails exactly where a declaration takes a number that cannot be counted. -/
theorem checkNumbers_eq_ok_iff (used : List String) (tree : List Declaration) :
    checkNumbers used tree = .ok () ↔
      ∀ (index : Nat) (declaration : Declaration) (number : Nat), tree[index]? = some declaration →
        (assignIds used tree)[index]? = some (withNumber (baseId declaration) number) →
          number < largestNumber := by
  induction tree generalizing used with
  | nil => simp [checkNumbers]
  | cons first rest ih =>
    have split : (∀ (index : Nat) (declaration : Declaration) (number : Nat),
        (first :: rest)[index]? = some declaration →
        (assignIds used (first :: rest))[index]? =
          some (withNumber (baseId declaration) number) → number < largestNumber) ↔
        (∀ number, number? used first = some number → number < largestNumber) ∧
        checkNumbers (assignId used first :: used) rest = .ok () := by
      rw [ih]
      constructor
      · intro fits
        refine ⟨fun number taken => fits 0 first number rfl ?_, fun index => fits (index + 1)⟩
        exact congrArg some ((assignId_eq_withNumber_iff used first number).mpr taken)
      · rintro ⟨own, others⟩ index declaration number placed named
        cases index with
        | zero =>
          obtain rfl := Option.some.inj placed
          exact own number ((assignId_eq_withNumber_iff used first number).mp
            (Option.some.inj named))
        | succ index => exact others index declaration number placed named
    rw [split, checkNumbers]
    cases number? used first with
    | none => simp
    | some number =>
      rcases Nat.lt_or_ge number largestNumber with fits | beyond
      · simp [fits, Nat.not_le.mpr fits]
      · simp [beyond, Nat.not_lt.mpr beyond]

/-- The numbers of a list can be counted unless the list is about as long as the largest. -/
theorem numbersFit_of_length {tree : List Declaration} (short : tree.length + 1 < largestNumber) :
    NumbersFit tree := by
  intro index declaration number placed named
  have inside := (List.getElem?_eq_some_iff.mp placed).1
  obtain ⟨id, given, _, plain | ⟨other, _, bound, numbered⟩⟩ := uniqueIds_spec placed
  · rw [given, plain] at named
    exact absurd (Option.some.inj named).symm (withNumber_ne _ number)
  · rw [given, numbered] at named
    have same := withNumber_injective _ (Option.some.inj named)
    omega

end SourceOutline.Graph
