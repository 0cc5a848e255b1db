import Mathlib.Data.List.Forall2
import Mathlib.Data.List.Nodup
import SourceOutline.Language.Signature
import SourceOutline.Proofs.Text.Lines
import SourceOutline.Proofs.Text.Search

/-!
# Languages of file names

A path leads to its last part that is neither empty nor a single dot, and the extension of this file
is what stands behind its last dot, unless nothing stands in front of that dot. No extension is
listed for two languages, so the one that a path has stands for one language, however its letters
are written. The main statement says that such a path is classified by this language whatever the
source is, and that all other paths are classified by the source alone.
-/

namespace SourceOutline.Language

open Text

/-! ## Files of paths -/

/-- A part of a path that names nothing. -/
def IsIdle (part : List Char) : Prop := part = [] ∨ part = ['.']

/-- A part of a path may follow here. -/
def OpensPart (directory : List Char) : Prop :=
  directory = [] ∨ directory.getLast? = some '/'

/-- The path names a file, and behind it at most slashes and single dots. -/
structure LeadsTo (path file : List Char) : Prop where
  /-- The file stands behind its directory. -/
  stands : ∃ (directory : List Char) (idle : List (List Char)),
    path = directory ++ file ++ idle.flatMap ('/' :: ·) ∧ OpensPart directory ∧
      ∀ part ∈ idle, IsIdle part
  /-- The file is one part. -/
  single : '/' ∉ file
  /-- The part names something. -/
  named : ¬ IsIdle file
  /-- The path does not lead upwards. -/
  inward : file ≠ ['.', '.']

/-- A path leads to a file that stands behind its directory. -/
theorem leadsTo_append {directory file : List Char} (opens : OpensPart directory)
    (single : '/' ∉ file) (named : ¬ IsIdle file) (inward : file ≠ ['.', '.']) :
    LeadsTo (directory ++ file) file :=
  ⟨⟨directory, [], by simp, opens, by simp⟩, single, named, inward⟩

/-- The last part that is not idle, by the places of the parts. -/
theorem getLast?_named_eq_some_iff {parts : List (List Char)} {file : List Char} :
    (parts.filter fun part => part != [] && part != ['.']).getLast? = some file ↔
      ¬ IsIdle file ∧ ∃ front idle, parts = front ++ file :: idle ∧ ∀ part ∈ idle, IsIdle part := by
  have named (part : List Char) : (part != [] && part != ['.']) = true ↔ ¬ IsIdle part := by
    simp [IsIdle]
  rw [List.getLast?_filter, List.find?_eq_some_iff_append]
  refine and_congr (named file) ?_
  constructor
  · rintro ⟨behind, before, reversed, idle⟩
    refine ⟨before.reverse, behind.reverse, ?_, fun part inside => ?_⟩
    · rw [← List.reverse_reverse parts, reversed]
      simp
    · have unnamed := idle part (List.mem_reverse.mp inside)
      by_contra other
      simp [(named part).mpr other] at unnamed
  · rintro ⟨front, idle, rfl, unnamed⟩
    refine ⟨idle.reverse, front.reverse, by simp, fun part inside => ?_⟩
    rw [Bool.not_eq_true', Bool.eq_false_iff, Ne, named]
    exact not_not_intro (unnamed part (List.mem_reverse.mp inside))

/-- The parts of a path are those of its directory, then the file and what follows. -/
theorem splitOn_directory {directory : List Char} (opens : OpensPart directory) :
    ∃ front, ∀ rest, (directory ++ rest).splitOn '/' = front ++ rest.splitOn '/' := by
  rcases opens with rfl | ends
  · exact ⟨[], fun rest => rfl⟩
  · obtain ⟨inner, rfl⟩ := List.getLast?_eq_some_iff.mp ends
    refine ⟨inner.splitOn '/', fun rest => ?_⟩
    rw [List.append_assoc, List.singleton_append, List.splitOn_append_cons_self]

/-- The name of a file is that of the file to which the path leads. -/
theorem fileName?_eq_some_iff (path file : List Char) :
    fileName? path = some file ↔ LeadsTo path file := by
  have last : fileName? path = some file ↔
      ((path.splitOn '/').filter fun part => part != [] && part != ['.']).getLast? = some file ∧
        file ≠ ['.', '.'] := by
    rw [fileName?]
    cases ((path.splitOn '/').filter fun part => part != [] && part != ['.']).getLast? with
    | none => simp
    | some part => grind
  rw [last, getLast?_named_eq_some_iff]
  constructor
  · rintro ⟨⟨named, front, idle, parts, unnamed⟩, inward⟩
    have single : '/' ∉ file := not_mem_of_mem_splitOn '/' path file (by simp [parts])
    have whole : ['/'].intercalate (path.splitOn '/') = path := List.intercalate_splitOn '/'
    rw [parts] at whole
    refine ⟨?_, single, named, inward⟩
    cases front with
    | nil =>
      refine ⟨[], idle, ?_, Or.inl rfl, unnamed⟩
      rw [← whole, List.nil_append, List.nil_append, intercalate_cons]
    | cons first front =>
      refine ⟨first ++ front.flatMap ('/' :: ·) ++ ['/'], idle, ?_, Or.inr (by simp), unnamed⟩
      rw [← whole, List.cons_append, intercalate_cons, List.flatMap_append, List.flatMap_cons]
      simp
  · rintro ⟨⟨directory, idle, rfl, opens, unnamed⟩, single, named, inward⟩
    obtain ⟨front, parts⟩ := splitOn_directory opens
    refine ⟨⟨named, front, idle, ?_, unnamed⟩, inward⟩
    rw [List.append_assoc, parts, ← intercalate_cons,
      List.splitOn_intercalate '/' ?_ (List.cons_ne_nil _ _)]
    refine List.forall_mem_cons.mpr ⟨single, fun part inside => ?_⟩
    rcases unnamed part inside with rfl | rfl <;> decide

/-! ## Extensions of paths -/

/-- The file of the path has something in front of its last dot, and the extension behind it. -/
def HasExtension (path extension : List Char) : Prop :=
  '.' ∉ extension ∧ ∃ stem, stem ≠ [] ∧ LeadsTo path (stem ++ '.' :: extension)

/-- An extension is found just where the file of the path has it. -/
theorem extension?_eq_some_iff (path extension : List Char) :
    extension? path = some extension ↔ HasExtension path extension := by
  rw [extension?]
  constructor
  · intro found
    split at found
    · contradiction
    · next file leads =>
      split at found
      · contradiction
      · next stem tail cut =>
        obtain ⟨rfl, outside⟩ := cutAtLast?_eq_some_iff.mp cut
        split at found
        · contradiction
        · next filled =>
          obtain rfl := Option.some.inj found
          exact ⟨outside, stem, by simpa using filled, (fileName?_eq_some_iff _ _).mp leads⟩
  · rintro ⟨outside, stem, filled, leads⟩
    simp [(fileName?_eq_some_iff _ _).mpr leads, cutAtLast?_append outside, filled]

/-- A file behind its directory has the extension behind its last dot. -/
theorem hasExtension_append {directory stem extension : List Char} (opens : OpensPart directory)
    (filled : stem ≠ []) (single : '/' ∉ stem) (written : extension ≠ [])
    (plain : '.' ∉ extension) (inside : '/' ∉ extension) :
    HasExtension (directory ++ stem ++ '.' :: extension) extension := by
  -- The extension ends in another character than a dot, so the file is neither `.` nor `..`.
  obtain ⟨last, ends⟩ := Option.ne_none_iff_exists'.mp (mt List.getLast?_eq_none_iff.mp written)
  have named : last ≠ '.' := fun dot => plain (dot ▸ List.mem_of_getLast? ends)
  have behind : (stem ++ '.' :: extension).getLast? = some last := by
    rw [List.getLast?_append, List.getLast?_cons, ends]
    rfl
  rw [List.append_assoc]
  refine ⟨plain, stem, filled, leadsTo_append opens (by simp [single, inside]) ?_ ?_⟩
  · rintro (empty | dot)
    · simp at empty
    · rw [dot] at behind
      exact named (Option.some.inj behind).symm
  · intro dots
    rw [dots] at behind
    exact named (Option.some.inj behind).symm

/-- A file that starts with its only dot has no extension. -/
theorem not_hasExtension_dotFile {directory name : List Char} (opens : OpensPart directory)
    (filled : name ≠ []) (single : '/' ∉ name) (plain : '.' ∉ name) (extension : List Char) :
    ¬ HasExtension (directory ++ '.' :: name) extension := by
  have leads : LeadsTo (directory ++ '.' :: name) ('.' :: name) := by
    refine leadsTo_append opens (by simp [single]) ?_ ?_
    · simp [IsIdle, filled]
    · rintro ⟨⟩
      simp at plain
  rintro ⟨outside, stem, something, other⟩
  have same : '.' :: name = stem ++ '.' :: extension :=
    Option.some.inj (((fileName?_eq_some_iff _ _).mpr leads).symm.trans
      ((fileName?_eq_some_iff _ _).mpr other))
  obtain ⟨c, rest, rfl⟩ := List.exists_cons_of_ne_nil something
  have later : name = rest ++ '.' :: extension := (List.cons.inj same).2
  simp [later] at plain

/-! ## Languages of extensions -/

/-- The character is a way to write the letter: in either case, and a `k` also as the sign for
kelvin. -/
def WritesLetter (c letter : Char) : Prop := c.toLower = letter ∨ (c = '\u212a' ∧ letter = 'k')

/-- The text is a way to write the listed extension. -/
def Spells (written entry : List Char) : Prop := List.Forall₂ WritesLetter written entry

/-- The path has an extension that is listed for the language. -/
def StandsFor (path : List Char) (language : Language) : Prop :=
  ∃ extension entry, HasExtension path extension ∧ (entry, language) ∈ extensionTable ∧
    Spells extension entry.toList

/-- A text is a way to write the entry when it is that entry in lower case. -/
theorem lowerName_eq_iff {written entry : List Char} (plain : '\u212a' ∉ entry) :
    lowerName written = entry ↔ Spells written entry := by
  induction written generalizing entry with
  | nil => cases entry <;> simp [lowerName, Spells]
  | cons c written ih =>
    cases entry with
    | nil => simp [lowerName, Spells]
    | cons letter entry =>
      rw [List.mem_cons, not_or] at plain
      obtain ⟨other, rest⟩ := plain
      have first : (if c == '\u212a' then 'k' else c.toLower) = letter ↔ WritesLetter c letter := by
        by_cases kelvin : c = '\u212a'
        · subst kelvin
          have same : '\u212a'.toLower = '\u212a' := by decide
          simp [WritesLetter, same, other, eq_comm]
        · simp [WritesLetter, kelvin]
      rw [Spells, List.forall₂_cons, ← Spells, ← ih rest, ← first, lowerName, List.map_cons,
        List.cons.injEq, ← lowerName]

/-- Entries are written in letters, digits and plus signs. -/
theorem entry_plain {entry : String} {language : Language}
    (listed : (entry, language) ∈ extensionTable) :
    entry.toList ≠ [] ∧ '.' ∉ entry.toList ∧ '/' ∉ entry.toList ∧ '\u212a' ∉ entry.toList := by
  have checked : ∀ row ∈ extensionTable, row.1.toList ≠ [] ∧ '.' ∉ row.1.toList ∧
      '/' ∉ row.1.toList ∧ '\u212a' ∉ row.1.toList := by decide +kernel
  exact checked _ listed

/-- No extension is listed twice. -/
theorem nodup_entries : (extensionTable.map Prod.fst).Nodup := by decide +kernel

/-- The table lists every known language with its extensions. -/
theorem mem_extensionTable {entry : String} {language : Language} :
    (entry, language) ∈ extensionTable ↔ language ∈ known ∧ entry ∈ language.extensions := by
  simp [extensionTable]

/-- The language of an extension has it in the table, or no language has. -/
theorem ofExtension_cases (written : List Char) :
    (∃ entry, (entry, ofExtension written) ∈ extensionTable ∧ Spells written entry.toList) ∨
    (ofExtension written = unknown ∧
      ∀ entry language, (entry, language) ∈ extensionTable → ¬ Spells written entry.toList) := by
  rw [ofExtension]
  cases found : known.find? fun language =>
      language.extensions.any (·.toList == lowerName written) with
  | some language =>
    have holds := List.find?_some found
    obtain ⟨entry, inside, lower⟩ := List.any_eq_true.mp holds
    have listed := mem_extensionTable.mpr ⟨List.mem_of_find?_eq_some found, inside⟩
    exact Or.inl ⟨entry, listed, (lowerName_eq_iff (entry_plain listed).2.2.2).mp
      (beq_iff_eq.mp lower).symm⟩
  | none =>
    refine Or.inr ⟨rfl, fun entry language listed spelled => ?_⟩
    obtain ⟨known, inside⟩ := mem_extensionTable.mp listed
    refine List.find?_eq_none.mp found language known (List.any_eq_true.mpr ⟨entry, inside, ?_⟩)
    exact beq_iff_eq.mpr ((lowerName_eq_iff (entry_plain listed).2.2.2).mpr spelled).symm

/-- An extension stands for the language that it is listed for. -/
theorem ofExtension_of_spells {written : List Char} {entry : String} {language : Language}
    (listed : (entry, language) ∈ extensionTable) (spelled : Spells written entry.toList) :
    ofExtension written = language := by
  rcases ofExtension_cases written with ⟨other, also, again⟩ | ⟨_, unlisted⟩
  · have same : other = entry := by
      rw [← String.toList_inj, ← (lowerName_eq_iff (entry_plain also).2.2.2).mpr again,
        (lowerName_eq_iff (entry_plain listed).2.2.2).mpr spelled]
    exact congrArg Prod.snd (List.inj_on_of_nodup_map nodup_entries also listed same)
  · exact absurd spelled (unlisted entry language listed)

/-! ## Languages of paths -/

/-- A path whose extension is listed is classified by it. -/
theorem classify_of_standsFor {path : List Char} {language : Language}
    (stands : StandsFor path language) (source : List Char) :
    classify path source = language := by
  obtain ⟨extension, entry, has, listed, spelled⟩ := stands
  have byPath : ofPath path = language := by
    rw [ofPath, (extension?_eq_some_iff path extension).mpr has]
    exact ofExtension_of_spells listed spelled
  have isKnown : language.isKnown = true :=
    bne_iff_ne.mpr fun none => absurd (none ▸ (mem_extensionTable.mp listed).1) (by decide)
  rw [classify, byPath, if_pos isKnown]

/-- A path without a listed extension is classified by the source. -/
theorem classify_of_not_standsFor {path : List Char}
    (unlisted : ∀ language, ¬ StandsFor path language) (source : List Char) :
    classify path source = ofContent source := by
  have byPath : ofPath path = unknown := by
    rw [ofPath]
    cases found : extension? path with
    | none => rfl
    | some extension =>
      have has := (extension?_eq_some_iff path extension).mp found
      rcases ofExtension_cases extension with ⟨entry, listed, spelled⟩ | ⟨none, _⟩
      · exact absurd ⟨extension, entry, has, listed, spelled⟩ (unlisted _)
      · exact none
  rw [classify, byPath]
  rfl

/-- An entry in any mixture of cases is a way to write it. -/
theorem spells_of_lowerAscii {written entry : List Char} (lower : lowerAscii written = entry) :
    Spells written entry := by
  subst lower
  rw [Spells, lowerAscii, List.forall₂_map_right_iff]
  exact List.forall₂_same.mpr fun c _ => Or.inl rfl

/-- A file behind its directory stands for the language for which its extension is listed, in any
mixture of cases. -/
theorem standsFor_append {directory stem written : List Char} {entry : String}
    {language : Language} (opens : OpensPart directory) (filled : stem ≠ []) (single : '/' ∉ stem)
    (listed : (entry, language) ∈ extensionTable) (lower : lowerAscii written = entry.toList) :
    StandsFor (directory ++ stem ++ '.' :: written) language := by
  obtain ⟨nonempty, plain, inside, _⟩ := entry_plain listed
  rw [← lower] at nonempty plain inside
  refine ⟨written, entry, hasExtension_append opens filled single ?_ ?_ ?_, listed,
    spells_of_lowerAscii lower⟩
  · rintro rfl
    exact nonempty rfl
  · exact fun dot => plain (List.mem_map.mpr ⟨'.', dot, rfl⟩)
  · exact fun slash => inside (List.mem_map.mpr ⟨'/', slash, rfl⟩)

/-- For all paths and sources: a file in any directory whose name ends, behind a dot with something
in front of it, in a listed extension in any mixture of cases has the language of that extension.
So has every path with an extension that is a way to write a listed one. Every other path is
classified by the source alone, as a file is whose name starts with its only dot, so that two such
paths classify each source alike. -/
theorem classify_by_extension_else_source :
    (∀ (directory stem written source : List Char) (entry : String) (language : Language),
      OpensPart directory → stem ≠ [] → '/' ∉ stem → (entry, language) ∈ extensionTable →
      lowerAscii written = entry.toList →
      classify (directory ++ stem ++ '.' :: written) source = language) ∧
    (∀ path language, StandsFor path language → ∀ source, classify path source = language) ∧
    (∀ path, (∀ language, ¬ StandsFor path language) →
      (∀ source, classify path source = ofContent source) ∧
      ∀ other, (∀ language, ¬ StandsFor other language) →
        ∀ source, classify path source = classify other source) ∧
    ∀ directory name : List Char, OpensPart directory → name ≠ [] → '/' ∉ name → '.' ∉ name →
      ∀ source, classify (directory ++ '.' :: name) source = ofContent source := by
  refine ⟨?_, fun path language stands source => classify_of_standsFor stands source, ?_, ?_⟩
  · intro directory stem written source entry language opens filled single listed lower
    exact classify_of_standsFor (standsFor_append opens filled single listed lower) source
  · refine fun path unlisted => ⟨classify_of_not_standsFor unlisted, fun other also source => ?_⟩
    rw [classify_of_not_standsFor unlisted, classify_of_not_standsFor also]
  · intro directory name opens filled single plain source
    refine classify_of_not_standsFor (fun language => ?_) source
    rintro ⟨extension, _, has, _⟩
    exact not_hasExtension_dotFile opens filled single plain extension has

/-- A text that a content rule decides about. -/
def pageText : List Char := "<?php".toList

/-- A name that starts with two dots has its extension behind the third, slashes and dots may follow
a file, and a file that starts with its only dot is read like one without a dot. -/
theorem classify_dottedNames :
    classify "lib.d/...KtS".toList pageText = .kotlin ∧
    classify "lib.d/a.\u212at//./".toList pageText = .kotlin ∧
    classify "lib.d/.py".toList pageText = .php ∧
    classify "lib.d/.py".toList pageText = classify "setup.py/../..".toList pageText := by
  obtain ⟨byName, byPath, bySource, dotFile⟩ := classify_by_extension_else_source
  have kelvin : StandsFor "lib.d/a.\u212at//./".toList .kotlin := by
    refine ⟨"\u212at".toList, "kt", (extension?_eq_some_iff _ _).mp (by decide), by decide, ?_⟩
    exact (lowerName_eq_iff (by decide)).mp (by decide)
  have unlisted {path : List Char} (none : extension? path = none) (language : Language) :
      ¬ StandsFor path language := by
    rintro ⟨extension, _, has, _⟩
    rw [(extension?_eq_some_iff path extension).mpr has] at none
    contradiction
  have dots := byName "lib.d/".toList "..".toList "KtS".toList pageText "kts" .kotlin
    (Or.inr rfl) (by decide) (by decide) (by decide) (by decide)
  have content : ofContent pageText = .php := by decide +kernel
  refine ⟨dots, byPath _ _ kelvin pageText, ?_, ?_⟩
  · rw [← content]
    exact dotFile "lib.d/".toList "py".toList (Or.inr rfl) (by decide) (by decide) (by decide) _
  · exact (bySource _ (unlisted (by decide))).2 _ (unlisted (by decide)) pageText

end SourceOutline.Language
