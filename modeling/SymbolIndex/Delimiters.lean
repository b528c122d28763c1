/-!
# Delimiters

The two characters that cut the word of a record: the primary one between its fields, and the
other between the items of a list-valued field. Two more characters are fixed, and no delimiter may
be one of them: they annotate the names of parameters and event fields with types.
-/

namespace SymbolIndex

/-- The delimiters that the writer of an index used. -/
structure Delimiters where
  primary : Char
  sub : Char
  deriving Repr, DecidableEq, Inhabited

namespace Delimiters

/-- The delimiters of an index that does not say otherwise. -/
def standard : Delimiters := ⟨'\x00', ','⟩

/-- Stands between an annotated name and its types. -/
def annotation : Char := ':'

/-- Stands between the types of one annotated name. -/
def typeSeparator : Char := '|'

/-- Whether a character is taken for annotations. -/
def isReserved (c : Char) : Bool := c == annotation || c == typeSeparator

/-- Whether the delimiters tell fields, items and annotations apart. -/
def Valid (d : Delimiters) : Prop :=
  d.primary ≠ d.sub ∧ isReserved d.primary = false ∧ isReserved d.sub = false

instance (d : Delimiters) : Decidable d.Valid := inferInstanceAs (Decidable (_ ∧ _ ∧ _))

theorem valid_standard : standard.Valid := by decide

end Delimiters

end SymbolIndex
