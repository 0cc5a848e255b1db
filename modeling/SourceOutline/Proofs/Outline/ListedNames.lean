import Mathlib.Data.List.Basic
import Mathlib.Data.List.TakeWhile
import SourceOutline.Grammar.Annotation
import SourceOutline.Grammar.Source
import SourceOutline.Outline.ByTree
import SourceOutline.Proofs.Text.Search

/-!
# Parameters that are listed

A parameter list of the grammar is listed up to its first star or splat, from the last slash in
front of that on. What stands behind the star or splat has no say, and neither has what stands in
front of the slash. The kind of an entry is told by the token that it starts with: a splat with a
type is a splat.
-/

namespace SourceOutline.Grammar

/-! ## Kinds of entries -/

/-- A regular parameter with this name. -/
inductive Parameter.IsNamed : Parameter → List Char → Prop where
  | plain (name : List Char) : IsNamed (.plain name) name
  | withDefault (name : List Char) : IsNamed (.withDefault name) name
  | typed (name : List Char) : IsNamed (.typed name) name
  | typedWithDefault (name : List Char) : IsNamed (.typedWithDefault name) name

/-- The star that ends the positional parameters, or a splat with or without a type. -/
inductive Parameter.EndsList : Parameter → Prop where
  | star : EndsList .star
  | splat (typed : Bool) : EndsList (.splat typed)

/-- The test for an end of the list is exact. -/
theorem Parameter.isStop_iff (parameter : Parameter) :
    parameter.isStop = true ↔ parameter.EndsList := by
  constructor
  · intro stops
    cases parameter with
    | star => exact .star
    | splat typed => exact .splat typed
    | _ => contradiction
  · rintro (_ | _) <;> rfl

/-- A name is given just for a parameter that has it. -/
theorem Parameter.name?_eq_some_iff {parameter : Parameter} {name : List Char} :
    parameter.name? = some name ↔ parameter.IsNamed name := by
  constructor
  · intro named
    cases parameter with
    | plain own => exact Option.some.inj named ▸ .plain own
    | withDefault own => exact Option.some.inj named ▸ .withDefault own
    | typed own => exact Option.some.inj named ▸ .typed own
    | typedWithDefault own => exact Option.some.inj named ▸ .typedWithDefault own
    | _ => contradiction
  · rintro (_ | _ | _ | _) <;> rfl

/-- An entry that starts with the token is of the kind of the parameter. -/
inductive StartsAs : Token → Parameter → Prop where
  | slash : StartsAs (.mark "/") .slash
  | star : StartsAs (.mark "*") .star
  | splat (typed : Bool) : StartsAs (.mark "*") (.splat typed)
  | doubleSplat (typed : Bool) : StartsAs (.mark "**") (.splat typed)
  | grouped : StartsAs (.mark "(") .grouped
  | named {text : String} {parameter : Parameter} (name : isName text = true)
      (named : parameter.IsNamed text.toList) : StartsAs (.word text) parameter

/-! ## Reading an entry -/

/-- What is read in two steps is read by both. -/
theorem Reader.exists_of_bind {α β : Type} {reader : Reader α} {rest : α → Reader β}
    {before after : Cursor} {result : β}
    (done : (reader >>= rest) before = .ok (result, after)) :
    ∃ value middle, reader before = .ok (value, middle) ∧
      rest value middle = .ok (result, after) := by
  change (reader before >>= fun found => rest found.1 found.2) = _ at done
  cases found : reader before with
  | error failure =>
    rw [found] at done
    contradiction
  | ok value =>
    rw [found] at done
    exact ⟨value.1, value.2, rfl, done⟩

/-- A reader that takes nothing gives its value. -/
theorem Reader.pure_eq_ok {α : Type} {value result : α} {before after : Cursor}
    (done : (pure value : Reader α) before = .ok (result, after)) : value = result :=
  (Prod.mk.inj (Except.ok.inj done)).1

open Reader

/-- A name is the word that stands there. -/
theorem token_of_takeName {expect : Expect} {before after : Cursor} {name : List Char}
    {tree : Tree} (done : takeName expect before = .ok ((name, tree), after)) :
    ∃ text, before.token = .word text ∧ isName text = true ∧ text.toList = name := by
  rw [takeName] at done
  obtain ⟨token, middle, peeked, rest⟩ := exists_of_bind done
  have shape : before.token = token := (Prod.mk.inj (Except.ok.inj peeked)).1
  split at rest
  · next text =>
    split at rest
    · next name =>
      obtain ⟨_, _, _, rest⟩ := exists_of_bind rest
      exact ⟨text, shape, name, (Prod.mk.inj (pure_eq_ok rest)).1⟩
    · contradiction
  · contradiction

/-- Behind two stars there is a splat, and behind one a splat unless the entry ends there. -/
theorem star_or_splat {inner : Inner} {fuel : Nat} {before after : Cursor} {entry : Parameter}
    (done : (do
      let double ← atMark "**"
      let _ ← take Follow.bracketed.after
      if !double && (← atMarks [",", ")"]) then return .star
      else
        let (operand, _) ← primary inner (loopTargets inner fuel) fuel .bracketed
        if operand.form.isTarget then return .splat (← parameterType inner) else fail :
        Reader Parameter) before = .ok (entry, after)) :
    (entry = .star ∧ before.token ≠ .mark "**") ∨ ∃ typed, entry = .splat typed := by
  obtain ⟨double, _, marked, rest⟩ := exists_of_bind done
  have stars : (before.token == .mark "**") = double := (Prod.mk.inj (Except.ok.inj marked)).1
  obtain ⟨_, _, _, rest⟩ := exists_of_bind rest
  obtain ⟨_, _, _, rest⟩ := exists_of_bind rest
  split at rest
  · next alone =>
    refine Or.inl ⟨(pure_eq_ok rest).symm, fun two => ?_⟩
    rw [two] at stars
    simp [← stars] at alone
  · obtain ⟨⟨operand, _⟩, _, _, rest⟩ := exists_of_bind rest
    dsimp only at rest
    split at rest
    · obtain ⟨typed, _, _, rest⟩ := exists_of_bind rest
      exact Or.inr ⟨typed, (pure_eq_ok rest).symm⟩
    · contradiction

/-- A parameter made of a name has this name, with or without type and default. -/
theorem namedParameter_isNamed (name : List Char) (typed defaulted : Bool) :
    (namedParameter name typed defaulted).IsNamed name := by
  cases typed <;> cases defaulted <;> constructor

/-- An entry is read for what it starts with. -/
theorem parameter_startsAs {inner : Inner} {fuel : Nat} {before after : Cursor}
    {entry : Parameter} (done : parameter inner fuel before = .ok (entry, after)) :
    StartsAs before.token entry := by
  rw [parameter] at done
  obtain ⟨token, middle, peeked, rest⟩ := exists_of_bind done
  obtain ⟨shape, rfl⟩ : before.token = token ∧ before = middle :=
    Prod.mk.inj (Except.ok.inj peeked)
  split at rest
  · obtain ⟨_, _, _, rest⟩ := exists_of_bind rest
    rw [shape, ← pure_eq_ok rest]
    exact .slash
  · rw [shape]
    rcases star_or_splat rest with ⟨rfl, _⟩ | ⟨typed, rfl⟩
    · exact .star
    · exact .splat typed
  · rcases star_or_splat rest with ⟨_, single⟩ | ⟨typed, rfl⟩
    · exact absurd shape single
    · rw [shape]
      exact .doubleSplat typed
  · obtain ⟨_, _, _, rest⟩ := exists_of_bind rest
    split at rest
    · obtain ⟨_, _, _, rest⟩ := exists_of_bind rest
      rw [shape, ← pure_eq_ok rest]
      exact .grouped
    · contradiction
  · obtain ⟨⟨name, _⟩, _, took, rest⟩ := exists_of_bind rest
    obtain ⟨text, word, regular, rfl⟩ := token_of_takeName took
    obtain ⟨typed, _, _, rest⟩ := exists_of_bind rest
    obtain ⟨defaulted, _, _, rest⟩ := exists_of_bind rest
    rw [word, ← pure_eq_ok rest]
    exact .named regular (namedParameter_isNamed _ typed defaulted)

end SourceOutline.Grammar

namespace SourceOutline.Outline

open Grammar

/-! ## Cutting a list -/

/-- The names of the regular parameters among these, in order. -/
inductive NamesOf : List Parameter → List String → Prop where
  | nil : NamesOf [] []
  | named {parameter : Parameter} {name : List Char} {parameters : List Parameter}
      {names : List String} (own : parameter.IsNamed name) (others : NamesOf parameters names) :
      NamesOf (parameter :: parameters) (String.ofList name :: names)
  | unnamed {parameter : Parameter} {parameters : List Parameter} {names : List String}
      (none : ∀ name, ¬ parameter.IsNamed name) (others : NamesOf parameters names) :
      NamesOf (parameter :: parameters) names

/-- A list is cut behind the last slash in front of its first star or splat, and in front of that
star or splat. -/
structure Cut (parameters passed counted ended : List Parameter) : Prop where
  /-- The three parts are the list. -/
  whole : parameters = passed ++ counted ++ ended
  /-- No star or splat stands in the first two parts. -/
  regular : ∀ parameter ∈ passed ++ counted, ¬ parameter.EndsList
  /-- One stands in front of the third, if there is a third. -/
  ends : ∀ first ∈ ended.head?, first.EndsList
  /-- The first part ends with a slash, if there is a first. -/
  slash : ∀ last ∈ passed.getLast?, last = .slash
  /-- No slash stands in the second. -/
  plain : .slash ∉ counted

/-- Every list is cut. -/
theorem exists_cut (parameters : List Parameter) :
    ∃ passed counted ended, Cut parameters passed counted ended := by
  have whole := List.takeWhile_append_dropWhile (p := (!Parameter.isStop ·)) (l := parameters)
  have regular : ∀ parameter ∈ parameters.takeWhile (!Parameter.isStop ·),
      ¬ parameter.EndsList := by
    intro parameter inside stops
    simpa [(Parameter.isStop_iff parameter).mpr stops] using List.mem_takeWhile_imp inside
  have ends : ∀ first ∈ (parameters.dropWhile (!Parameter.isStop ·)).head?, first.EndsList := by
    intro first here
    have stops := List.head?_dropWhile_not (!Parameter.isStop ·) parameters
    rw [Option.mem_def.mp here] at stops
    exact (Parameter.isStop_iff first).mp (by simpa using stops)
  by_cases divided : .slash ∈ parameters.takeWhile (!Parameter.isStop ·)
  · obtain ⟨before, behind, cut, plain⟩ := Text.exists_last_of_mem divided
    rw [cut, List.append_cons] at whole regular
    exact ⟨before ++ [.slash], behind, _, whole.symm, regular, ends, by simp, plain⟩
  · exact ⟨[], parameters.takeWhile (!Parameter.isStop ·), _, whole.symm, regular, ends, by simp,
      divided⟩

/-! ## Reading a list -/

/-- A star or splat and what stands behind it have no say. -/
theorem namesAfter_append_of_endsList (names : List (List Char)) (front : List Parameter)
    {stop : Parameter} (ends : stop.EndsList) (rest : List Parameter) :
    namesAfter names (front ++ stop :: rest) = namesAfter names front := by
  induction front generalizing names with
  | nil => exact if_pos ((Parameter.isStop_iff stop).mpr ends)
  | cons parameter front ih =>
    rw [List.cons_append, namesAfter, namesAfter]
    split
    · rfl
    · split
      · exact ih []
      · exact ih _

/-- What stands in front of a slash has no say, unless a star or splat does. -/
theorem namesAfter_append_slash (names : List (List Char)) {front : List Parameter}
    (regular : ∀ parameter ∈ front, ¬ parameter.EndsList) (rest : List Parameter) :
    namesAfter names (front ++ .slash :: rest) = namesAfter [] rest := by
  induction front generalizing names with
  | nil => rfl
  | cons parameter front ih =>
    obtain ⟨first, others⟩ := List.forall_mem_cons.mp regular
    rw [List.cons_append, namesAfter, if_neg (mt (Parameter.isStop_iff parameter).mp first)]
    split
    · exact ih [] others
    · exact ih _ others

/-- Without a star, splat or slash all names are listed. -/
theorem namesAfter_of_regular (names : List (List Char)) {counted : List Parameter}
    (regular : ∀ parameter ∈ counted, ¬ parameter.EndsList) (plain : .slash ∉ counted) :
    namesAfter names counted = names ++ counted.filterMap Parameter.name? := by
  induction counted generalizing names with
  | nil => simp [namesAfter]
  | cons parameter counted ih =>
    obtain ⟨first, others⟩ := List.forall_mem_cons.mp regular
    rw [List.mem_cons, not_or] at plain
    rw [namesAfter, if_neg (mt (Parameter.isStop_iff parameter).mp first),
      if_neg (Ne.symm plain.1), ih _ others plain.2, List.append_assoc, List.filterMap_cons]
    cases parameter.name? <;> rfl

/-- The names of a list are those of its parameters that have one. -/
theorem namesOf_filterMap (parameters : List Parameter) :
    NamesOf parameters ((parameters.filterMap Parameter.name?).map String.ofList) := by
  induction parameters with
  | nil => exact .nil
  | cons parameter parameters ih =>
    cases own : parameter.name? with
    | none =>
      rw [List.filterMap_cons_none own]
      refine .unnamed (fun name named => ?_) ih
      rw [Parameter.name?_eq_some_iff.mpr named] at own
      contradiction
    | some name =>
      rw [List.filterMap_cons_some own, List.map_cons]
      exact .named (Parameter.name?_eq_some_iff.mp own) ih

/-- The names listed are those of the second part of a cut. -/
theorem Cut.namesAfter_eq {parameters passed counted ended : List Parameter}
    (cut : Cut parameters passed counted ended) :
    namesAfter [] parameters = counted.filterMap Parameter.name? := by
  obtain ⟨rfl, regular, ends, slash, plain⟩ := cut
  have short : namesAfter [] (passed ++ counted ++ ended) = namesAfter [] (passed ++ counted) := by
    cases ended with
    | nil => rw [List.append_nil]
    | cons stop rest => exact namesAfter_append_of_endsList [] _ (ends stop rfl) rest
  have late : namesAfter [] (passed ++ counted) = namesAfter [] counted := by
    rcases List.eq_nil_or_concat' passed with rfl | ⟨front, last, rfl⟩
    · rfl
    · obtain rfl := slash last (by simp)
      have early : ∀ parameter ∈ front, ¬ parameter.EndsList := fun parameter inside =>
        regular parameter (by simp [inside])
      rw [List.append_assoc]
      exact namesAfter_append_slash [] early counted
  rw [short, late]
  exact namesAfter_of_regular [] (fun parameter inside =>
    regular parameter (List.mem_append_right _ inside)) plain

/-- For every parameter list: it is cut behind the last slash in front of its first star or splat
and in front of that star or splat, and the names listed are those of the regular parameters
between the two, in order. A star or splat lists nothing and ends the list, whatever stands behind
it, and what stands in front of a slash changes nothing, unless a star or splat is among it. An
entry that is read from a source is a star or splat when it starts with a star, with or without a
type, a slash when it starts with one, and a regular parameter with the name that it starts with. -/
theorem listedNames_between_slash_and_splat (parameters : List Parameter) :
    (∃ passed counted ended, Cut parameters passed counted ended) ∧
    (∀ passed counted ended, Cut parameters passed counted ended →
      NamesOf counted (listedNames parameters)) ∧
    (∀ front stop rest, stop.EndsList → parameters = front ++ stop :: rest →
      listedNames parameters = listedNames front ∧
      ∀ others, listedNames (front ++ stop :: others) = listedNames parameters) ∧
    (∀ front rest, (∀ parameter ∈ front, ¬ parameter.EndsList) →
      parameters = front ++ .slash :: rest → listedNames parameters = listedNames rest) ∧
    ∀ inner fuel before entry after, parameter inner fuel before = .ok (entry, after) →
      StartsAs before.token entry := by
  refine ⟨exists_cut parameters, ?_, ?_, ?_, fun _ _ _ _ _ done => parameter_startsAs done⟩
  · intro passed counted ended cut
    rw [listedNames, cut.namesAfter_eq]
    exact namesOf_filterMap counted
  · rintro front stop rest ends rfl
    have short (others : List Parameter) :
        listedNames (front ++ stop :: others) = listedNames front := by
      rw [listedNames, namesAfter_append_of_endsList [] front ends, listedNames]
    exact ⟨short rest, fun others => (short others).trans (short rest).symm⟩
  · rintro front rest regular rfl
    rw [listedNames, listedNames, namesAfter_append_slash [] regular]

/-- The entries of a list up to a slash. -/
def firstEntries : List Parameter := [.plain "a".toList, .slash]

/-- The entries behind the slash. -/
def middleEntries : List Parameter :=
  [.typed "b".toList, .grouped, .withDefault "e".toList]

/-- A splat with a type, a regular parameter and another slash. -/
def lastEntries : List Parameter := [.splat true, .plain "h".toList, .slash]

/-- The place in front of the splat. -/
def splatPlace : Cursor := Cursor.ofLocated (next (boundary false) {} "*g: int, h, /)".toList 0 {})

/-- The slash behind the splat does not forget the names, and an entry with one star and a type is
read as a splat. -/
theorem listedNames_middleEntries :
    Cut (firstEntries ++ middleEntries ++ lastEntries) firstEntries middleEntries lastEntries ∧
    listedNames (firstEntries ++ middleEntries ++ lastEntries) = ["b", "e"] ∧
    NamesOf middleEntries ["b", "e"] ∧
    listedNames (firstEntries ++ middleEntries ++ .splat true :: firstEntries) = ["b", "e"] ∧
    listedNames (middleEntries ++ lastEntries) = ["b", "e"] ∧
    ∃ after, parameter (readers 9) 9 splatPlace = .ok (.splat true, after) ∧
      StartsAs splatPlace.token (.splat true) := by
  have names : listedNames (firstEntries ++ middleEntries ++ lastEntries) = ["b", "e"] := by
    decide
  have cut : Cut (firstEntries ++ middleEntries ++ lastEntries) firstEntries middleEntries
      lastEntries := by
    refine ⟨rfl, fun parameter inside => ?_, ?_, ?_, by decide⟩
    · rw [← Parameter.isStop_iff]
      revert parameter
      decide
    · rintro _ ⟨⟩
      exact .splat true
    · rintro _ ⟨⟩
      rfl
  obtain ⟨_, listed, further, later, reading⟩ := listedNames_between_slash_and_splat
    (firstEntries ++ middleEntries ++ lastEntries)
  refine ⟨cut, names, names ▸ listed _ _ _ cut, ?_, ?_, ?_⟩
  · rw [← names]
    exact (further _ _ _ (.splat true) rfl).2 firstEntries
  · rw [← names]
    refine (later [.plain "a".toList] _ ?_ rfl).symm
    rintro _ (_ | ⟨_, ⟨⟩⟩)
    nofun
  · have read : (parameter (readers 9) 9 splatPlace).toOption.map Prod.fst =
        some (.splat true) := by decide +kernel
    cases done : parameter (readers 9) 9 splatPlace with
    | error failure =>
      rw [done] at read
      contradiction
    | ok found =>
      rw [done] at read
      obtain ⟨entry, after⟩ := found
      obtain rfl : entry = .splat true := Option.some.inj read
      exact ⟨after, rfl, reading _ _ _ _ _ done⟩

end SourceOutline.Outline
