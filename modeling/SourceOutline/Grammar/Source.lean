import SourceOutline.Grammar.Statement

/-!
# Reading a source

The readers of the grammar over one another, and the syntax tree of a whole source.
-/

namespace SourceOutline.Grammar

/-- The readers with the given fuel. Each entry of a reader inside a reader takes one. -/
def readers : Nat → Inner
  | 0 =>
    { expression := fun _ => Reader.fail
      interpolation := Reader.fail
      annotation := fun _ => Reader.fail
      casePattern := fun _ => Reader.fail
      block := Reader.fail }
  | fuel + 1 =>
    { expression := fun follow cursor => expression (readers fuel) fuel follow cursor
      interpolation := fun cursor => interpolation (readers fuel) fuel cursor
      annotation := fun follow cursor => annotation (readers fuel) true fuel follow cursor
      casePattern := fun follow cursor => casePattern (readers fuel) fuel follow cursor
      block := fun cursor => statements (readers fuel) true fuel cursor }

/-- The syntax tree of a source, or the row of the statement that cannot be read. A reader
enters at most two others before it takes a character. -/
def parse (source : List Char) : Except Nat (List Tree) :=
  let fuel := 2 * source.length + 16
  let start := Cursor.ofLocated (next (boundary false) {} source 0 {})
  match statements (readers fuel) false fuel start with
  | .ok (trees, _) => .ok trees
  | .error row => .error (row.getD 0)

end SourceOutline.Grammar
