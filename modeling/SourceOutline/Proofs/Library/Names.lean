import SourceOutline.Library
import SourceOutline.Proofs.Text.Lines
import SourceOutline.Proofs.Text.Search

/-!
# Names of libraries

The segments of two paths with a slash or a backslash between them are those of the one and then
those of the other, so all that stands in front of the last segment is idle. The main statement says
which names come out: each one stands in its path, and it is filled, trimmed, of one segment and not
made of one or two dots. Each such name comes out, from itself where it has no known extension and
from itself with one, and in whatever directory.
-/

namespace SourceOutline.Library

open Text

/-! ## Segments -/

/-- The text is a single segment. -/
structure IsSegment (text : List Char) : Prop where
  /-- It has a character. -/
  filled : text ≠ []
  /-- It has no slash. -/
  noSlash : '/' ∉ text
  /-- It has no backslash. -/
  noBackslash : '\\' ∉ text
  /-- It has no double colon. -/
  noColons : ¬ [':', ':'] <:+: text

/-- A character that divides a path by itself. -/
def isDivider (c : Char) : Bool := c == '/' || c == '\\'

/-- A path is divided at slashes and backslashes alike, and then at double colons. -/
theorem segments_eq (path : List Char) :
    segments path =
      ((path.splitOnP isDivider).flatMap (splitOnText [':', ':'])).filter
        fun segment => !segment.isEmpty := by
  rw [segments, flatMap_splitOn]
  rfl

/-- The segments of two paths with a divider between them are those of the one and then those of the
other. -/
theorem segments_append_cons {separator : Char} (divides : isDivider separator = true)
    (front back : List Char) :
    segments (front ++ separator :: back) = segments front ++ segments back := by
  rw [segments_eq, segments_eq, segments_eq, List.splitOnP_append_cons _ _ divides,
    List.flatMap_append, List.filter_append]

/-- What is listed for a path is a segment that stands in it. -/
theorem isSegment_of_mem_segments {path segment : List Char} (listed : segment ∈ segments path) :
    IsSegment segment ∧ segment <:+: path := by
  -- The segment is cut from a piece, the piece from a part, and the part from the path.
  obtain ⟨listed, filled⟩ := List.mem_filter.mp listed
  obtain ⟨piece, inner, ofColons⟩ := List.mem_flatMap.mp listed
  obtain ⟨part, outer, ofBackslashes⟩ := List.mem_flatMap.mp inner
  obtain ⟨noColons, inPiece⟩ := splitOnText_spec (by simp) piece segment ofColons
  have inPart : piece <:+: part := infix_of_mem_splitOn ofBackslashes
  have inPath : part <:+: path := infix_of_mem_splitOn outer
  refine ⟨⟨by simpa using filled, fun slash => ?_, fun backslash => ?_, noColons⟩,
    inPiece.trans (inPart.trans inPath)⟩
  · exact not_mem_of_mem_splitOn '/' path part outer ((inPiece.trans inPart).subset slash)
  · exact not_mem_of_mem_splitOn '\\' part piece ofBackslashes (inPiece.subset backslash)

/-- A segment is the only one of itself. -/
theorem IsSegment.segments_eq_singleton {text : List Char} (single : IsSegment text) :
    segments text = [text] := by
  rw [segments, List.splitOn_eq_singleton single.noSlash, List.flatMap_singleton,
    List.splitOn_eq_singleton single.noBackslash, List.flatMap_singleton,
    splitOnText_eq_singleton single.noColons]
  simpa using single.filled

/-! ## Extensions -/

/-- The extension is one that names are written without, in any mixture of cases. -/
def IsKnown (extension : List Char) : Prop :=
  ∃ known ∈ sourceExtensions, lowerAscii extension = known.toList

/-- The text has something in front of a known extension. -/
def IsExtended (text : List Char) : Prop :=
  ∃ stem extension, text = stem ++ '.' :: extension ∧ stem ≠ [] ∧ IsKnown extension

/-- The table holds letters and digits in lower case. -/
theorem known_plain {known : String} (listed : known ∈ sourceExtensions) :
    known.toList ≠ [] ∧ lowerAscii known.toList = known.toList ∧
      known.toList.all Char.isAlphanum = true := by
  have checked : ∀ known ∈ sourceExtensions, known.toList ≠ [] ∧
      lowerAscii known.toList = known.toList ∧ known.toList.all Char.isAlphanum = true := by
    decide +kernel
  exact checked known listed

/-- Extensions are compared without regard to case. -/
theorem isKnown_iff (extension : List Char) :
    sourceExtensions.any (eqIgnoreAsciiCase ·.toList extension) = true ↔ IsKnown extension := by
  rw [List.any_eq_true]
  refine exists_congr fun known => and_congr_right fun listed => ?_
  rw [eqIgnoreAsciiCase, (known_plain listed).2.1, beq_iff_eq, eq_comm]

/-- A letter in lower case was a letter before. -/
theorem isAlphanum_of_toLower {c : Char} (lower : c.toLower.isAlphanum = true) :
    c.isAlphanum = true := by
  by_cases upper : c.isUpper = true
  · change (c.isUpper || c.isLower || c.isDigit) = true
    rw [upper, Bool.true_or, Bool.true_or]
  · have unchanged : c.toLower = c := dif_neg fun bounds => upper (decide_eq_true bounds)
    rwa [unchanged] at lower

/-- A known extension has a character. -/
theorem IsKnown.ne_nil {extension : List Char} (known : IsKnown extension) : extension ≠ [] := by
  obtain ⟨entry, listed, lower⟩ := known
  rintro rfl
  exact (known_plain listed).1 lower.symm

/-- A known extension is written in letters and digits. -/
theorem IsKnown.isAlphanum {extension : List Char} (known : IsKnown extension) :
    ∀ c ∈ extension, c.isAlphanum = true := by
  obtain ⟨entry, listed, lower⟩ := known
  intro c inside
  have lowered : c.toLower ∈ entry.toList := by
    rw [← lower]
    exact List.mem_map_of_mem inside
  exact isAlphanum_of_toLower (List.all_eq_true.mp (known_plain listed).2.2 _ lowered)

/-- A known extension is made of letters and digits. -/
theorem IsKnown.not_mem {extension : List Char} (known : IsKnown extension) {c : Char}
    (other : c.isAlphanum = false) : c ∉ extension := fun inside =>
  Bool.eq_false_iff.mp other (known.isAlphanum c inside)

/-- A known extension is dropped with its dot. -/
theorem dropExtension_append {stem extension : List Char} (filled : stem ≠ [])
    (known : IsKnown extension) : dropExtension (stem ++ '.' :: extension) = stem := by
  rw [dropExtension, cutAtLast?_append (known.not_mem (by decide))]
  simp [filled, (isKnown_iff extension).mpr known]

/-- Nothing else is dropped. -/
theorem dropExtension_eq_self {text : List Char} (plain : ¬ IsExtended text) :
    dropExtension text = text := by
  rw [dropExtension]
  split
  · next stem extension cut =>
    refine if_neg fun dropped => plain ?_
    obtain ⟨filled, known⟩ := Bool.and_eq_true_iff.mp dropped
    exact ⟨stem, extension, (cutAtLast?_eq_some_iff.mp cut).1, by simpa using filled,
      (isKnown_iff extension).mp known⟩
  · rfl

/-- What is left without the extension starts the text. -/
theorem isPrefix_dropExtension (text : List Char) : dropExtension text <+: text := by
  by_cases extended : IsExtended text
  · obtain ⟨stem, extension, rfl, filled, known⟩ := extended
    rw [dropExtension_append filled known]
    exact List.prefix_append _ _
  · simp only [dropExtension_eq_self extended, List.prefix_rfl]

/-! ## Names -/

/-- The text can be the name of a library. -/
structure IsName (text : List Char) : Prop extends IsSegment text where
  /-- There are no blanks around it. -/
  trimmed : trim text = text
  /-- It is not the current directory. -/
  notHere : text ≠ ['.']
  /-- It is not the directory above. -/
  notAbove : text ≠ ['.', '.']

/-- The last segment of a path gives its name. -/
theorem ofPath?_eq_some_iff {path name : List Char} :
    ofPath? path = some name ↔
      ∃ segment, (segments (trim path)).getLast? = some segment ∧
        trim (dropExtension segment) = name ∧ name ≠ [] ∧ name ≠ ['.'] ∧ name ≠ ['.', '.'] := by
  rw [ofPath?]
  cases (segments (trim path)).getLast? with
  | none => simp
  | some segment => grind

/-- Whatever is in a segment is a segment, if it is anything. -/
theorem IsSegment.mono {part text : List Char} (single : IsSegment text) (inside : part <:+: text)
    (filled : part ≠ []) : IsSegment part where
  filled := filled
  noSlash slash := single.noSlash (inside.subset slash)
  noBackslash backslash := single.noBackslash (inside.subset backslash)
  noColons colons := single.noColons (colons.trans inside)

/-- A name that a path gives is a name and stands in the path. -/
theorem isName_of_ofPath? {path name : List Char} (found : ofPath? path = some name) :
    IsName name ∧ name <:+: path := by
  obtain ⟨segment, last, rfl, filled, notHere, notAbove⟩ := ofPath?_eq_some_iff.mp found
  obtain ⟨single, inPath⟩ := isSegment_of_mem_segments (List.mem_of_getLast? last)
  have inside : trim (dropExtension segment) <:+: segment :=
    (isInfix_trim _).trans (isPrefix_dropExtension segment).isInfix
  exact ⟨⟨single.mono inside filled, trim_trim _, notHere, notAbove⟩,
    inside.trans (inPath.trans (isInfix_trim path))⟩

/-- A trimmed segment names what it is without its extension. -/
theorem ofPath?_of_isSegment {segment name : List Char} (single : IsSegment segment)
    (trimmed : trim segment = segment) (dropped : dropExtension segment = name)
    (proper : IsName name) : ofPath? segment = some name := by
  refine ofPath?_eq_some_iff.mpr ⟨segment, ?_, ?_, proper.filled, proper.notHere, proper.notAbove⟩
  · rw [trimmed, single.segments_eq_singleton, List.getLast?_singleton]
  · rw [dropped, proper.trimmed]

/-- A double colon does not reach over a character that is no colon. -/
theorem not_colons_infix {front back : List Char} {mark : Char} (other : mark ≠ ':')
    (before : ¬ [':', ':'] <:+: front) (behind : ':' ∉ back) :
    ¬ [':', ':'] <:+: front ++ mark :: back := by
  induction front with
  | nil =>
    rw [List.nil_append, List.infix_cons_iff, List.cons_prefix_cons]
    rintro (⟨same, _⟩ | inside)
    · exact other same.symm
    · exact behind (inside.subset (by simp))
  | cons c front ih =>
    rw [List.infix_cons_iff, not_or] at before
    rw [List.cons_append, List.infix_cons_iff, not_or]
    refine ⟨fun starts => before.1 ?_, ih before.2⟩
    -- The second colon stands in front of the mark, or it is the mark.
    cases front with
    | nil => simp [Ne.symm other] at starts
    | cons d front => simpa using starts

/-- A name with a known extension behind it is a trimmed segment. -/
theorem IsName.append_extension {name extension : List Char} (proper : IsName name)
    (known : IsKnown extension) :
    IsSegment (name ++ '.' :: extension) ∧
      trim (name ++ '.' :: extension) = name ++ '.' :: extension := by
  refine ⟨⟨by simp, ?_, ?_, ?_⟩, trim_eq_self_of_ends ?_ ?_⟩
  · simp [proper.noSlash, known.not_mem (c := '/') (by decide)]
  · simp [proper.noBackslash, known.not_mem (c := '\\') (by decide)]
  · exact not_colons_infix (by decide) proper.noColons (known.not_mem (by decide))
  · have starts := (trims_trim name).starts
    rw [proper.trimmed] at starts
    rwa [List.head?_append_of_ne_nil _ proper.filled]
  · intro c last
    rw [List.append_cons, List.getLast?_append_of_ne_nil _ known.ne_nil] at last
    exact isBlank_eq_false (by decide) (known.isAlphanum c (List.mem_of_mem_getLast? last))

/-! ## Directories -/

/-- Trimming a path behind a directory leaves the divider and the trimmed path. -/
theorem trim_directory {separator : Char} (ink : isBlank separator = false)
    (directory : List Char) {path : List Char} (starts : ∀ c ∈ path.head?, isBlank c = false)
    (filled : trim path ≠ []) :
    trim (directory ++ separator :: path) = trimStart directory ++ separator :: trim path := by
  have bare : trim path = trimEnd path := congrArg trimEnd (dropWhile_eq_self starts)
  have front : trimStart (directory ++ separator :: path) =
      trimStart directory ++ separator :: path := by
    rw [trimStart, List.dropWhile_append, List.dropWhile_cons_of_neg (by simp [ink])]
    split
    · next blank => rw [trimStart, List.isEmpty_iff.mp blank, List.nil_append]
    · rfl
  rw [bare] at filled ⊢
  rw [trim, front, List.append_cons, trimEnd_append_of_ne_nil _ filled, ← List.append_cons]

/-- A directory does not matter where the path has a segment of its own. -/
theorem ofPath?_directory {separator : Char} (divides : isDivider separator = true)
    (directory : List Char) {path : List Char} (starts : ∀ c ∈ path.head?, isBlank c = false)
    (named : segments (trim path) ≠ []) :
    ofPath? (directory ++ separator :: path) = ofPath? path := by
  have ink : isBlank separator = false := by
    rcases Bool.or_eq_true_iff.mp divides with same | same <;> rw [beq_iff_eq.mp same] <;> rfl
  have filled : trim path ≠ [] := fun empty => named (by rw [empty]; rfl)
  -- The segments of the directory come first, so the last segment is one of the path.
  rw [ofPath?, trim_directory ink directory starts filled, segments_append_cons divides,
    List.getLast?_append_of_ne_nil _ named, ofPath?]

/-- Every name that a path gives stands in the path, is filled and trimmed, has no divider and no
double colon, and is not made of one or two dots. Every such text is given as a name: by itself
unless it ends in a known extension, and by itself with any known extension behind it, in any
mixture of cases. And a directory with either divider in front of a path does not matter, as long as
the path does not begin with a blank and, trimmed, has a segment that is not empty. -/
theorem ofPath?_names_last_segment :
    (∀ path name, ofPath? path = some name → IsName name ∧ name <:+: path) ∧
    (∀ name, IsName name → (¬ IsExtended name → ofPath? name = some name) ∧
      ∀ extension, IsKnown extension → ofPath? (name ++ '.' :: extension) = some name) ∧
    ∀ (directory path : List Char) (separator : Char), separator = '/' ∨ separator = '\\' →
      (∀ c ∈ path.head?, isBlank c = false) → segments (trim path) ≠ [] →
      ofPath? (directory ++ separator :: path) = ofPath? path := by
  refine ⟨fun path name => isName_of_ofPath?, fun name proper => ⟨fun plain => ?_, ?_⟩, ?_⟩
  · have kept := dropExtension_eq_self plain
    exact ofPath?_of_isSegment proper.toIsSegment proper.trimmed kept proper
  · intro extension known
    obtain ⟨single, trimmed⟩ := proper.append_extension known
    exact ofPath?_of_isSegment single trimmed (dropExtension_append proper.filled known) proper
  · intro directory path separator divides starts named
    exact ofPath?_directory (by simpa [isDivider] using divides) directory starts named

/-- A path with three colons, a blank inside its last segment, a known extension in capitals, and
dividers and blanks behind it. -/
def oddPath : List Char := "x:::my lib .HPP//  ".toList

/-- The third colon stays with the name, and the directory does not. -/
theorem ofPath?_oddPath :
    ofPath? oddPath = some ":my lib".toList ∧ IsName ":my lib".toList ∧
    ":my lib".toList <:+: oddPath ∧ (∀ c ∈ oddPath.head?, isBlank c = false) ∧
    segments (trim oddPath) ≠ [] ∧
    ofPath? (" ..\\a::".toList ++ '\\' :: oddPath) = some ":my lib".toList ∧
    ofPath? ":my lib.Vue".toList = some ":my lib".toList ∧
    ofPath? ":my lib".toList = some ":my lib".toList := by
  obtain ⟨proper, names, directories⟩ := ofPath?_names_last_segment
  have found : ofPath? oddPath = some ":my lib".toList := by decide +kernel
  have starts : ∀ c ∈ oddPath.head?, isBlank c = false := by
    intro c first
    obtain rfl : 'x' = c := Option.some.inj first
    rfl
  have named : segments (trim oddPath) ≠ [] := by decide +kernel
  obtain ⟨isName, inside⟩ := proper _ _ found
  obtain ⟨byItself, extended⟩ := names _ isName
  refine ⟨found, isName, inside, starts, named, ?_, ?_, byItself ?_⟩
  · rw [directories _ oddPath '\\' (Or.inr rfl) starts named, found]
  · exact extended "Vue".toList ⟨"vue", by decide +kernel, by decide⟩
  · rintro ⟨stem, extension, same, _⟩
    have dot : '.' ∈ ":my lib".toList := by simp [same]
    exact absurd dot (by decide)

end SourceOutline.Library
