import SymbolIndex.Record.Decode
import Mathlib.Tactic.MkIffOfInductiveProp

/-!
# Writing records

A symbol is written into the word of a record field by field, the items of a list with the other
delimiter between them. What a symbol lacks is an empty field, and empty fields at the end may be
left out. A symbol can be written if no delimiter occurs where it would cut, if nothing is empty
that would count as missing, and if there is nothing in it that only a JSON object can say.
-/

namespace SymbolIndex

open Text

namespace Delimiters

variable (d : Delimiters)

/-- The word with the given fields. -/
def word (fields : List (List Char)) : List Char := [d.primary].intercalate fields

/-- The field with the given items. -/
def field (items : List (List Char)) : List Char := [d.sub].intercalate items

/-- A text that fills a field: it is there, and nothing cuts it. -/
@[mk_iff]
structure IsField (s : String) : Prop where
  ne_empty : s ≠ ""
  primary : d.primary ∉ s.toList

/-- A text that is an item of a field. -/
@[mk_iff]
structure IsItem (s : String) : Prop extends d.IsField s where
  sub : d.sub ∉ s.toList

instance (s : String) : Decidable (d.IsField s) := decidable_of_iff' _ (d.isField_iff s)

instance (s : String) : Decidable (d.IsItem s) := decidable_of_iff' _ (d.isItem_iff s)

end Delimiters

/-- Whether these are the fields without some of the empty ones at the end. -/
def Trimmed (fields written : List (List Char)) : Prop :=
  ∃ omitted, fields = written ++ List.replicate omitted []

/-- The field of a text that may be missing. -/
def optionalField (s : Option String) : List Char := s.elim [] String.toList

/-- The item of a name and of what annotates it, which may be missing. -/
def annotatedItem (name : String) (types : Option (List Char)) : List Char :=
  name.toList ++ types.elim [] (Delimiters.annotation :: ·)

variable (d : Delimiters)

namespace Parameter

/-- A parameter as an item: its name, and its types if there are some. -/
def item (p : Parameter) : List Char :=
  annotatedItem p.name <|
    if p.types = [] then none
    else some ([Delimiters.typeSeparator].intercalate (p.types.map String.toList))

/-- Parameters that an item can hold. The types may be annotated themselves. -/
@[mk_iff]
structure Writable (p : Parameter) : Prop where
  name : d.IsItem p.name
  annotation : Delimiters.annotation ∉ p.name.toList
  types : ∀ type ∈ p.types, d.IsItem type ∧ Delimiters.typeSeparator ∉ type.toList
  plain : p = { name := p.name, types := p.types }

instance (p : Parameter) : Decidable (p.Writable d) := decidable_of_iff' _ (writable_iff d p)

end Parameter

namespace EventField

/-- An event field as an item: its name, and its type if there is one. -/
def item (f : EventField) : List Char := annotatedItem f.name (f.typeName.map String.toList)

/-- Event fields that an item can hold. No alternative of the type may be empty. -/
@[mk_iff]
structure Writable (f : EventField) : Prop where
  name : d.IsItem f.name
  annotation : Delimiters.annotation ∉ f.name.toList
  type : ∀ type ∈ f.typeName, d.IsItem type ∧
    ∀ piece ∈ splitOn Delimiters.typeSeparator type.toList, piece ≠ []
  plain : f = { name := f.name, typeName := f.typeName }

instance (f : EventField) : Decidable (f.Writable d) := decidable_of_iff' _ (writable_iff d f)

end EventField

namespace MemberDetails

/-- The fields for the details. -/
def fields : MemberDetails → List (List Char)
  | .property p => [d.field (p.types.map String.toList)]
  | .function f =>
    [d.field (f.returnTypes.map String.toList), d.field (f.parameters.map Parameter.item)]
  | .event fs => [d.field (fs.map EventField.item)]

/-- Details that the fields can hold. -/
def Writable : MemberDetails → Prop
  | .property p => (∀ type ∈ p.types, d.IsItem type) ∧ p = { types := p.types }
  | .function f =>
    (∀ type ∈ f.returnTypes, d.IsItem type) ∧ (∀ p ∈ f.parameters, p.Writable d) ∧
      f = { returnTypes := f.returnTypes, parameters := f.parameters }
  | .event fs => ∀ f ∈ fs, f.Writable d

instance : (m : MemberDetails) → Decidable (m.Writable d)
  | .property _ => inferInstanceAs (Decidable (_ ∧ _))
  | .function _ => inferInstanceAs (Decidable (_ ∧ _))
  | .event fs => inferInstanceAs (Decidable (∀ f ∈ fs, f.Writable d))

end MemberDetails

namespace MemberSymbol

/-- The fields of a member after its owner and its name. -/
def payload (m : MemberSymbol) : List (List Char) :=
  m.details.fields d ++ [optionalField m.description]

/-- Members that can be written. -/
@[mk_iff]
structure Writable (m : MemberSymbol) : Prop where
  owner : d.primary ∉ m.owner.toList
  name : d.IsField m.name
  details : m.details.Writable d
  description : ∀ s ∈ m.description, d.IsField s

instance (m : MemberSymbol) : Decidable (m.Writable d) := decidable_of_iff' _ (writable_iff d m)

/-- The record of a member with some of its fields after the name. -/
def record (m : MemberSymbol) (written : List (List Char)) : Record :=
  { word := String.ofList (d.word (m.owner.toList :: m.name.toList :: written))
    documents := m.documents }

end MemberSymbol

namespace TypeSymbol

/-- The fields of a type. -/
def fields (t : TypeSymbol) : List (List Char) :=
  [t.name.toList, d.field (t.parents.map String.toList), optionalField t.description]

/-- Types that can be written. -/
@[mk_iff]
structure Writable (t : TypeSymbol) : Prop where
  name : d.IsField t.name
  parents : ∀ parent ∈ t.parents, d.IsItem parent
  description : ∀ s ∈ t.description, d.IsField s
  bare : t.properties = [] ∧ t.events = [] ∧ t.assembled = false

instance (t : TypeSymbol) : Decidable (t.Writable d) := decidable_of_iff' _ (writable_iff d t)

/-- The record of a type with some of its fields. -/
def record (t : TypeSymbol) (written : List (List Char)) : Record :=
  { word := String.ofList (d.word written), documents := t.documents }

end TypeSymbol

end SymbolIndex
