import SymbolIndex.Delimiters
import SymbolIndex.Query.Basic
import SymbolIndex.Regex.Escape

/-!
# Queries for symbols

The queries that find the records of given symbols. Arrays share the members of one type, whatever
their items are, so a generic array is looked up as the bare type.
-/

namespace SymbolIndex

/-- A type's name as records spell it: without the parameter, for arrays. -/
def bareTypeName (name : String) : String :=
  if "Array<".toList.isPrefixOf name.toList then "Array" else name

/-- A name without the parameter has none. -/
@[simp] theorem bareTypeName_bareTypeName (name : String) :
    bareTypeName (bareTypeName name) = bareTypeName name := by
  by_cases h : "Array<".toList.isPrefixOf name.toList
  · simp only [bareTypeName, if_pos h]
    decide
  · simp only [bareTypeName, if_neg h]

/-- Leaving out the parameter brings no character into a name. -/
theorem subset_of_bareTypeName (name : String) : (bareTypeName name).toList ⊆ name.toList := by
  rw [bareTypeName]
  split
  · rename_i h
    exact List.Subset.trans (by decide) (List.isPrefixOf_iff_prefix.1 h).subset
  · exact List.Subset.refl _

namespace Query

def alternatives (names : List String) : List Char :=
  ['|'].intercalate (names.map fun name => Regex.escape name.toList)

/-- Matches the given names, as part of a larger regular expression. -/
def namesPattern (names : List String) : String :=
  String.ofList ('(' :: alternatives names ++ [')'])

/-- Finds the members of the given types. The pattern starts with the word and ends at the
delimiter, so that a name which another one starts with finds nothing of that one. -/
def membersOf (d : Delimiters) (owners : List String) : Query where
  pattern := String.ofList <|
    "^(?:".toList ++ alternatives (owners.map bareTypeName) ++ ')' ::
      Regex.codePointEscape d.primary
  mode := { regex := true }

/-- Finds the members of a type that have the given name. -/
def memberNamed (d : Delimiters) (owner name : String) : Query where
  pattern := bareTypeName owner ++ d.primary.toString ++ name ++ d.primary.toString
  mode := { start := true, caseSensitive := true }

/-- Finds the records of a type. -/
def typeNamed (d : Delimiters) (name : String) : Query where
  pattern := bareTypeName name ++ d.primary.toString
  mode := { start := true }

end Query

end SymbolIndex
