import SourceOutline.Text.Search

/-!
# Languages

Each language has a display name, the file extensions that stand for it and the other
names under which it may be asked for. Names and extensions are looked up in lower case.
-/

namespace SourceOutline

/-- The languages that a file can be classified as. -/
inductive Language where
  | c | cpp | rust | go | objectiveC | objectiveCpp
  | java | kotlin | scala
  | csharp
  | javaScript | typeScript | php | html | css | scss | vue
  | python | ruby | r
  | swift
  | shell | bash | zsh | powerShell
  | sql | xml | json | yaml | toml | markdown
  | unknown
  deriving DecidableEq, Repr, Inhabited

namespace Language

/-- Every language but the unknown one, in table order. -/
def known : List Language :=
  [c, cpp, rust, go, objectiveC, objectiveCpp, java, kotlin, scala, csharp, javaScript,
    typeScript, php, html, css, scss, vue, python, ruby, r, swift, shell, bash, zsh,
    powerShell, sql, xml, json, yaml, toml, markdown]

/-- The name shown in reports. -/
def displayName : Language → String
  | c => "C"
  | cpp => "C++"
  | rust => "Rust"
  | go => "Go"
  | objectiveC => "Objective-C"
  | objectiveCpp => "Objective-C++"
  | java => "Java"
  | kotlin => "Kotlin"
  | scala => "Scala"
  | csharp => "C#"
  | javaScript => "JavaScript"
  | typeScript => "TypeScript"
  | php => "PHP"
  | html => "HTML"
  | css => "CSS"
  | scss => "SCSS"
  | vue => "Vue"
  | python => "Python"
  | ruby => "Ruby"
  | r => "R"
  | swift => "Swift"
  | shell => "Shell"
  | bash => "Bash"
  | zsh => "Zsh"
  | powerShell => "PowerShell"
  | sql => "SQL"
  | xml => "XML"
  | json => "JSON"
  | yaml => "YAML"
  | toml => "TOML"
  | markdown => "Markdown"
  | unknown => "Unknown"

/-- File extensions, without the dot. -/
def extensions : Language → List String
  | c => ["c", "h"]
  | cpp => ["cpp", "cc", "cxx", "c++", "hpp", "hh", "hxx", "h++"]
  | rust => ["rs"]
  | go => ["go"]
  | objectiveC => ["m"]
  | objectiveCpp => ["mm"]
  | java => ["java"]
  | kotlin => ["kt", "kts"]
  | scala => ["scala", "sc"]
  | csharp => ["cs"]
  | javaScript => ["js", "mjs", "cjs", "jsx"]
  | typeScript => ["ts", "mts", "cts", "tsx"]
  | php => ["php", "phtml"]
  | html => ["html", "htm"]
  | css => ["css"]
  | scss => ["scss", "sass"]
  | vue => ["vue"]
  | python => ["py", "pyi", "pyw"]
  | ruby => ["rb", "rake", "gemspec"]
  | r => ["r"]
  | swift => ["swift"]
  | shell => ["sh", "ksh"]
  | bash => ["bash"]
  | zsh => ["zsh"]
  | powerShell => ["ps1", "psm1", "psd1"]
  | sql => ["sql"]
  | xml => ["xml", "xsd", "xsl", "xslt"]
  | json => ["json", "jsonc"]
  | yaml => ["yaml", "yml"]
  | toml => ["toml"]
  | markdown => ["md", "markdown"]
  | unknown => []

/-- Other names for the language. -/
def aliases : Language → List String
  | c => ["c"]
  | cpp => ["cpp", "c++", "cxx"]
  | rust => ["rust", "rs"]
  | go => ["go", "golang"]
  | objectiveC => ["objectivec", "objective-c", "objc"]
  | objectiveCpp => ["objectivec++", "objective-c++", "objcpp"]
  | java => ["java"]
  | kotlin => ["kotlin", "kt"]
  | scala => ["scala"]
  | csharp => ["csharp", "c#", "cs"]
  | javaScript => ["javascript", "js"]
  | typeScript => ["typescript", "ts"]
  | php => ["php"]
  | html => ["html"]
  | css => ["css"]
  | scss => ["scss", "sass"]
  | vue => ["vue"]
  | python => ["python", "py"]
  | ruby => ["ruby", "rb"]
  | r => ["r"]
  | swift => ["swift"]
  | shell => ["shell", "sh"]
  | bash => ["bash"]
  | zsh => ["zsh"]
  | powerShell => ["powershell", "ps1"]
  | sql => ["sql"]
  | xml => ["xml"]
  | json => ["json"]
  | yaml => ["yaml", "yml"]
  | toml => ["toml"]
  | markdown => ["markdown", "md"]
  | unknown => ["unknown", "text", ""]

/-- The language is not the unknown one. -/
def isKnown (language : Language) : Bool := language != unknown

/-- The language is outlined from its syntax tree. -/
def hasSyntaxTree (language : Language) : Bool := language == python

/-- Lower case, as far as it can make a text equal to an ASCII one: of the characters
beyond ASCII only the Kelvin sign lowers to an ASCII letter. -/
def lowerName (name : List Char) : List Char :=
  name.map fun c => if c == 'K' then 'k' else c.toLower

/-- The language of a file extension, given without the dot. -/
def ofExtension (extension : List Char) : Language :=
  let lower := lowerName extension
  (known.find? fun language => language.extensions.any (·.toList == lower)).getD unknown

/-- The last part of a path, unless it leads upwards. -/
def fileName? (path : List Char) : Option (List Char) :=
  let parts := (path.splitOn '/').filter fun part => part != [] && part != ['.']
  match parts.getLast? with
  | none => none
  | some last => if last == ['.', '.'] then none else some last

/-- The text behind the last dot of a file name that does not start with this dot. -/
def extension? (path : List Char) : Option (List Char) :=
  match fileName? path with
  | none => none
  | some file =>
    match Text.cutAtLast? '.' file with
    | none => none
    | some (stem, extension) => if stem.isEmpty then none else some extension

/-- The language that a path's extension stands for. -/
def ofPath (path : List Char) : Language :=
  match extension? path with
  | none => unknown
  | some extension => ofExtension extension

/-- The language asked for by name. -/
def parse? (name : List Char) : Option Language :=
  let lower := lowerName name
  let fits (language : Language) : Bool :=
    lowerName language.displayName.toList == lower || language.aliases.any (·.toList == lower)
  match known.find? fits with
  | some language => some language
  | none => if unknown.aliases.any (·.toList == lower) then some unknown else none

/-- Every extension with its language, in table order. -/
def extensionTable : List (String × Language) :=
  known.flatMap fun language => language.extensions.map fun extension => (extension, language)

end Language

end SourceOutline
