import SourceOutline.Language.Signature
import SourceOutline.Proofs.Pattern.Surroundings
import SourceOutline.Proofs.Text.Search

/-!
# Content rules and further lines

A rule that holds of a text holds of it with further lines in front and behind: a text that it asks
for still stands there, and none of its patterns asks for the start or the end of the text. So the
rule that decides about the larger text is the same one or an earlier one.
-/

namespace SourceOutline.Language

open Text

/-- The number of the first content rule that holds, if one does. -/
def decidingRule? (source : List Char) : Option Nat :=
  contentRules.findIdx? fun rule => rule.2.holds source

/-- The languages of the content rules, in the order in which the rules are tried. -/
def ruledLanguages : List Language := contentRules.map Prod.fst

/-- The place of a language among those of the content rules. -/
def priority (language : Language) : Nat := ruledLanguages.idxOf language

/-! ## Conditions -/

/-- No pattern of the condition asks for the start or the end of the text. -/
def Signature.readsLines : Signature → Bool
  | holdsText _ => true
  | holdsPattern pattern => pattern.readsLines
  | both first second => first.readsLines && second.readsLines
  | either first second => first.readsLines && second.readsLines

/-- The text with further lines in front of it and behind it. -/
def surround (above source below : List Char) : List Char :=
  above ++ '\n' :: (source ++ '\n' :: below)

/-- A condition that holds of a text holds of it between further lines. -/
theorem Signature.holds_surround {signature : Signature} (reads : signature.readsLines = true)
    {source : List Char} (holds : signature.holds source = true) (above below : List Char) :
    signature.holds (surround above source below) = true := by
  induction signature with
  | holdsText needle =>
    have inside : source <:+: surround above source below :=
      ⟨above ++ ['\n'], '\n' :: below, by simp [surround]⟩
    exact hasInfix_iff.mpr ((hasInfix_iff.mp holds).trans inside)
  | holdsPattern pattern => exact Pattern.isMatch_surrounded reads holds above below
  | both first second ihFirst ihSecond =>
    obtain ⟨readsFirst, readsSecond⟩ := Bool.and_eq_true_iff.mp reads
    obtain ⟨left, right⟩ := Bool.and_eq_true_iff.mp holds
    exact Bool.and_eq_true_iff.mpr ⟨ihFirst readsFirst left, ihSecond readsSecond right⟩
  | either first second ihFirst ihSecond =>
    obtain ⟨readsFirst, readsSecond⟩ := Bool.and_eq_true_iff.mp reads
    rcases (Bool.or_eq_true _ _).mp holds with left | right
    · exact (Bool.or_eq_true _ _).mpr (Or.inl (ihFirst readsFirst left))
    · exact (Bool.or_eq_true _ _).mpr (Or.inr (ihSecond readsSecond right))

/-- No content rule asks for the start or the end of the text. -/
theorem readsLines_of_mem_contentRules {rule : Language × Signature}
    (listed : rule ∈ contentRules) : rule.2.readsLines = true := by
  have checked : contentRules.all (·.2.readsLines) = true := by decide +kernel
  exact List.all_eq_true.mp checked rule listed

/-! ## The rule that decides -/

/-- Each language has one content rule at most. -/
theorem nodup_ruledLanguages : ruledLanguages.Nodup := by decide

/-- The language of a text is that of the rule that decides. -/
theorem ofContent_eq (source : List Char) :
    ofContent source = ((decidingRule? source).bind fun rule => ruledLanguages[rule]?).getD
      unknown := by
  have same : (contentRules.find? fun rule => rule.2.holds source).map Prod.fst =
      (decidingRule? source).bind fun rule => ruledLanguages[rule]? := by
    rw [List.find?_eq_bind_findIdx?_getElem?, Option.map_bind]
    refine Option.bind_congr fun rule _ => ?_
    rw [ruledLanguages, List.getElem?_map, Function.comp_apply]
  rw [← same, ofContent]
  cases contentRules.find? fun rule => rule.2.holds source <;> rfl

/-- A rule that decides has a place among the rules, and its language has the same place. -/
theorem priority_of_decidingRule? {source : List Char} {rule : Nat}
    (decided : decidingRule? source = some rule) :
    ofContent source ∈ ruledLanguages ∧ priority (ofContent source) = rule := by
  have inside : rule < ruledLanguages.length := by
    rw [ruledLanguages, List.length_map]
    exact (List.findIdx?_eq_some_iff_getElem.mp decided).1
  have language : ofContent source = ruledLanguages[rule] := by
    rw [ofContent_eq, decided, Option.bind_some, List.getElem?_eq_getElem inside, Option.getD_some]
  rw [language, priority]
  exact ⟨List.getElem_mem inside, nodup_ruledLanguages.idxOf_getElem rule inside⟩

/-- A rule that decides about a text decides about it between further lines, or an earlier one
does. -/
theorem decidingRule?_surround {source : List Char} {rule : Nat}
    (decided : decidingRule? source = some rule) (above below : List Char) :
    ∃ earlier, decidingRule? (surround above source below) = some earlier ∧ earlier ≤ rule := by
  obtain ⟨inside, first⟩ := List.findIdx?_eq_some_iff_findIdx_eq.mp decided
  have sooner :
      contentRules.findIdx (fun rule => rule.2.holds (surround above source below)) ≤ rule := by
    rw [← first]
    refine List.findIdx_le_findIdx fun rule listed holds => ?_
    exact Signature.holds_surround (readsLines_of_mem_contentRules listed) holds above below
  have within := Nat.lt_of_le_of_lt sooner inside
  exact ⟨_, List.findIdx?_eq_some_iff_findIdx_eq.mpr ⟨within, rfl⟩, sooner⟩

/-- For all texts, a text that a content rule decides about is decided, with further lines in front
of it and behind it, by the same rule or by an earlier one. So it stays recognised, and its language
becomes none of a later rule. The language of any text is that of the rule that decides about it. -/
theorem ofContent_surrounded (above source below : List Char) :
    (∀ text, ofContent text =
      ((decidingRule? text).bind fun rule => ruledLanguages[rule]?).getD unknown) ∧
    (∀ rule, decidingRule? source = some rule →
      ∃ earlier, decidingRule? (surround above source below) = some earlier ∧ earlier ≤ rule) ∧
    (ofContent source ≠ unknown →
      ofContent (surround above source below) ≠ unknown ∧
      priority (ofContent (surround above source below)) ≤ priority (ofContent source)) := by
  refine ⟨ofContent_eq, fun rule decided => decidingRule?_surround decided above below, ?_⟩
  intro known
  obtain ⟨rule, decided⟩ : ∃ rule, decidingRule? source = some rule := by
    cases found : decidingRule? source with
    | some rule => exact ⟨rule, rfl⟩
    | none => exact absurd (by rw [ofContent_eq, found]; rfl) known
  obtain ⟨earlier, later, sooner⟩ := decidingRule?_surround decided above below
  obtain ⟨listed, place⟩ := priority_of_decidingRule? later
  refine ⟨?_, ?_⟩
  · intro lost
    rw [lost] at listed
    exact absurd listed (by decide)
  · rw [place, (priority_of_decidingRule? decided).2]
    exact sooner

/-- An import and a method, whose colon stands in front of blanks at the end of the text. -/
def pythonText : List Char := "import os\ndef run(a) -> int:  ".toList

/-- A text that a later rule decides about. -/
def scriptText : List Char := "function go() \x7b\x7d".toList

/-- The text keeps its language when a line stands in front of it and a script behind it, and a
rule before its own decides when a header is included behind it. -/
theorem ofContent_pythonText :
    decidingRule? pythonText = some 6 ∧ decidingRule? scriptText = some 9 ∧
    (∃ earlier, decidingRule? (surround "fn".toList pythonText scriptText) = some earlier ∧
      earlier ≤ 6) ∧
    ofContent (surround "fn".toList pythonText scriptText) = .python ∧
    ofContent (surround [] pythonText "#include".toList) = .cpp ∧
    priority (ofContent (surround [] pythonText "#include".toList)) ≤ priority .python := by
  have decided : decidingRule? pythonText = some 6 := by decide +kernel
  have language : ofContent pythonText = .python := by decide +kernel
  have rules := (ofContent_surrounded "fn".toList pythonText scriptText).2.1
  have kept := (ofContent_surrounded [] pythonText "#include".toList).2.2
  rw [language] at kept
  exact ⟨decided, by decide +kernel, rules 6 decided, by decide +kernel, by decide +kernel,
    (kept (by decide)).2⟩

end SourceOutline.Language
