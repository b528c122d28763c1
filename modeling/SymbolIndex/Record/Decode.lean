import SymbolIndex.Delimiters
import SymbolIndex.Record.Basic
import SymbolIndex.Record.Payload
import SymbolIndex.Text.Blank
import SymbolIndex.Text.Split

/-!
# Reading records

The word of a record holds fields, cut by the primary delimiter; fields that are lists hold items,
cut by the other one:

* a type: name, parents, description;
* a property: owner, name, types, description;
* a function: owner, name, return types, parameters, description;
* an event: owner, name, fields, description;
* a list of required modules: paths, as items.

A parameter or an event field is a name, or a name and its types. Fields at the end may be missing,
and an empty field or item counts as none. A member may carry a JSON object after its name in place
of the other fields. A record without a name says nothing.
-/

namespace SymbolIndex

open Text

namespace Record

/-- The field at a position, unless it is missing or empty. -/
def field? (fields : List (List Char)) (i : Nat) : Option (List Char) :=
  fields[i]?.filter fun f => !f.isEmpty

/-- A missing field counts for an empty one. -/
theorem field?_eq (fields : List (List Char)) (i : Nat) :
    field? fields i = (some (fields.getD i [])).filter fun f => !f.isEmpty := by
  rw [field?, List.getD_eq_getElem?_getD]
  cases fields[i]? <;> rfl

/-- What is read from a field is what its text gives, also where the field is missing. -/
theorem elim_field? {α : Type} {fields : List (List Char)} {read : List Char → α} {b : α}
    (hempty : read [] = b) (i : Nat) :
    (field? fields i).elim b read = read (fields.getD i []) := by
  rw [field?_eq]
  cases fields.getD i [] with
  | nil => exact hempty.symm
  | cons => rfl

def fieldText? (fields : List (List Char)) (i : Nat) : Option String :=
  (field? fields i).map String.ofList

/-- The nonempty items of a field. -/
def items (d : Delimiters) (field : List Char) : List String :=
  (nonemptyPieces d.sub field).map String.ofList

def fieldItems (d : Delimiters) (fields : List (List Char)) (i : Nat) : List String :=
  (field? fields i).elim [] (items d)

theorem fieldItems_eq_items (d : Delimiters) (fields : List (List Char)) (i : Nat) :
    fieldItems d fields i = items d (fields.getD i []) := by
  rw [fieldItems]
  exact elim_field? (by rfl) i

/-- A name with its types, from an item of a field. -/
def annotatedName (item : List Char) : List Char × List (List Char) :=
  match cut Delimiters.annotation item with
  | some (name, types) => (name, nonemptyPieces Delimiters.typeSeparator types)
  | none => (item, [])

/-- The annotated names in the field at a position; an item without a name counts as none. -/
def annotatedNames (d : Delimiters) (fields : List (List Char)) (i : Nat) :
    List (List Char × List (List Char)) :=
  (field? fields i).elim [] fun field =>
    ((splitOn d.sub field).map annotatedName).filter fun a => !a.1.isEmpty

def parameters (d : Delimiters) (fields : List (List Char)) (i : Nat) : List Parameter :=
  (annotatedNames d fields i).map fun a =>
    { name := String.ofList a.1, types := a.2.map String.ofList }

/-- The type of an event field, spelled with all its alternatives. -/
def alternatives? : List (List Char) → Option String
  | [] => none
  | types => some (String.ofList ([Delimiters.typeSeparator].intercalate types))

def eventFields (d : Delimiters) (fields : List (List Char)) (i : Nat) : List EventField :=
  (annotatedNames d fields i).map fun a =>
    { name := String.ofList a.1, typeName := alternatives? a.2 }

/-- The type that a record describes. -/
def toType? (d : Delimiters) (r : Record) : Option TypeSymbol :=
  let fields := splitOn d.primary r.word.toList
  (fieldText? fields 0).map fun name =>
    { name
      parents := fieldItems d fields 1
      description := fieldText? fields 2
      documents := r.documents }

/-- The owner, the name and the rest of a member's word. What is missing is empty. -/
def memberParts (d : Delimiters) (word : List Char) : List Char × List Char × List Char :=
  match cut d.primary word with
  | none => (word, [], [])
  | some (owner, rest) =>
    match cut d.primary rest with
    | none => (owner, rest, [])
    | some (name, rest) => (owner, name, rest)

/-- Whether the rest of a member's word is a JSON object. -/
def holdsPayload (rest : List Char) : Bool := (dropBlank rest).head? == some '\x7b'

/-- Description and details from the fields after a member's name. -/
def positionalDetails? (d : Delimiters) (category : Category) (fields : List (List Char)) :
    Option (Option String × MemberDetails) :=
  match category with
  | .property => some (fieldText? fields 1, .property { types := fieldItems d fields 0 })
  | .function =>
    some (fieldText? fields 2,
      .function { returnTypes := fieldItems d fields 0, parameters := parameters d fields 1 })
  | .event => some (fieldText? fields 1, .event (eventFields d fields 0))
  | .type | .require => none

/-- Description and details from a JSON object. An empty description is none. -/
def payloadDetails? (category : Category) (rest : List Char) :
    Option (Option String × MemberDetails) := do
  let payload ← Payload.ofJson? (← Json.parse (String.ofList rest))
  return (payload.description.filter (· != ""), ← payload.details? category)

/-- The member that a record of a category describes. -/
def toMember? (d : Delimiters) (category : Category) (r : Record) : Option MemberSymbol :=
  let (owner, name, rest) := memberParts d r.word.toList
  if name.isEmpty then none
  else
    let found :=
      if holdsPayload rest then payloadDetails? category rest
      else positionalDetails? d category (splitOn d.primary rest)
    found.map fun (description, details) =>
      { name := String.ofList name, owner := String.ofList owner, description
        documents := r.documents, details }

/-- The paths in a record of required modules. -/
def modulePaths (d : Delimiters) (r : Record) : List String := items d r.word.toList

/-- The name in a type's word: the text before the first delimiter, which has to be there. -/
def typeName? (d : Delimiters) (r : Record) : Option String :=
  match cut d.primary r.word.toList with
  | some (name, _) => if name.isEmpty then none else some (String.ofList name)
  | none => none

end Record

end SymbolIndex
