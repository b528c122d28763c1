/-!
# Queries

A query asks an index for the records of some categories whose word satisfies a pattern. The mode
tells how the pattern is read; a mode is written as a number with one bit for each choice.
-/

namespace SymbolIndex

/-- How a pattern is applied to a word. Without a choice the word has to equal the pattern. -/
structure Mode where
  /-- The word has to start with the pattern. -/
  start : Bool := false
  /-- The pattern is a glob. -/
  glob : Bool := false
  /-- The pattern is a regular expression. -/
  regex : Bool := false
  /-- Letters have to agree in case. -/
  caseSensitive : Bool := false
  deriving Repr, DecidableEq, Inhabited

namespace Mode

/-- The number of a mode. -/
def toNat (m : Mode) : Nat :=
  m.start.toNat + 2 * m.glob.toNat + 4 * m.regex.toNat + 8 * m.caseSensitive.toNat

/-- The mode of a number. -/
def ofNat (n : Nat) : Mode :=
  { start := n.testBit 0, glob := n.testBit 1, regex := n.testBit 2, caseSensitive := n.testBit 3 }

@[simp] theorem ofNat_toNat (m : Mode) : ofNat m.toNat = m := by
  rcases m with ⟨_ | _, _ | _, _ | _, _ | _⟩ <;> decide

end Mode

/-- A pattern and the mode in which it is applied. -/
structure Query where
  pattern : String
  mode : Mode := {}
  deriving Repr, DecidableEq, Inhabited

namespace Query

/-- The glob that every word satisfies. -/
def everythingPattern : String := "*"

/-- The query that every word satisfies. -/
def everything : Query := { pattern := everythingPattern, mode := { glob := true } }

end Query

end SymbolIndex
