import SymbolIndex.Json.Field
import SymbolIndex.Category

/-!
# Records

A record is what an index stores: a word, in which a symbol is encoded, and the documents that
contribute it. An import file gives one record to a line, together with its category.
-/

namespace SymbolIndex

/-- A word of an index and the documents that contribute it, in the order of recording. -/
structure Record where
  word : String
  documents : List String
  deriving Repr, DecidableEq, Inhabited

namespace Record

/-- Whether a document contributes the word. -/
def hasDocument (r : Record) (document : String) : Bool := r.documents.contains document

/-- Reads the two fields of a record. -/
def ofFields? : List (Option Json) → Option Record
  | [word, documents] =>
    return {
      word := ← Json.required Json.text? word
      documents := ← Json.withDefault [] Json.texts? documents }
  | _ => none

def ofJson? (v : Json) : Option Record := do ofFields? (← v.fields? ["word", "documents"])

end Record

namespace Category

def ofJson? : Json → Option Category
  | .text s => ofTag? s
  | _ => none

end Category

/-- A line of an import file. -/
structure ImportLine where
  category : Category
  record : Record
  deriving Repr, DecidableEq

namespace ImportLine

/-- Reads a line: an object with the fields of a record and a category. What is not the category is
kept aside until all of it is there, so it has to be readable and must not nest too deeply. -/
def ofJson? : Json → Option ImportLine
  | .object ms => do
    let rest := ms.filter (·.1 != "category")
    if rest.all fun m => m.2.isReadable && m.2.depth + 1 ≤ Json.maxDepth then
      match ← Json.memberFields? ["category"] ms with
      | [category] =>
        return {
          category := ← Json.required Category.ofJson? category
          record := ← Record.ofFields? (← Json.memberFields? ["word", "documents"] rest) }
      | _ => none
    else none
  | _ => none

end ImportLine

end SymbolIndex
