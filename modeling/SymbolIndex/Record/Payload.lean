import SymbolIndex.Symbol.Json

/-!
# Details written in JSON

A member's record may carry the details as one JSON object after the name. The object has its own
field names, one set for every kind of member; a kind takes the fields that it knows.
-/

namespace SymbolIndex

/-- The fields of a JSON object with a member's details. -/
structure Payload where
  description : Option String := none
  types : List String := []
  returnTypes : List String := []
  parameters : List Parameter := []
  fields : List EventField := []
  ofClass : Bool := false
  ofInstance : Bool := false
  isConstructor : Bool := false
  isMethod : Bool := false
  since : List String := []
  deriving Repr, DecidableEq

namespace Payload

open Json

def names : List String :=
  ["description", "types", "returnTypes", "parameters", "properties", "isClassProperty",
    "isInstanceProperty", "isConstructor", "isMethod", "since"]

/-- Reads a payload. Every field may be missing. -/
def ofJson? (v : Json) : Option Payload := do
  match ← v.fields? names with
  | [description, types, returnTypes, parameters, fields, ofClass, ofInstance, isConstructor,
      isMethod, since] =>
    return {
      description := ← withDefault none optionalText? description
      types := ← withDefault [] texts? types
      returnTypes := ← withDefault [] texts? returnTypes
      parameters := ← withDefault [] (list? Parameter.ofJson?) parameters
      fields := ← withDefault [] (list? EventField.ofJson?) fields
      ofClass := ← withDefault false flag? ofClass
      ofInstance := ← withDefault false flag? ofInstance
      isConstructor := ← withDefault false flag? isConstructor
      isMethod := ← withDefault false flag? isMethod
      since := ← withDefault [] texts? since }
  | _ => none

/-- The details of a member of a category; types and module lists are no members. -/
def details? (p : Payload) : Category → Option MemberDetails
  | .property => some <| .property {
      types := p.types, ofClass := p.ofClass, ofInstance := p.ofInstance, since := p.since }
  | .function => some <| .function {
      returnTypes := p.returnTypes, parameters := p.parameters
      isConstructor := p.isConstructor, isMethod := p.isMethod
      ofClass := p.ofClass, ofInstance := p.ofInstance, since := p.since }
  | .event => some (.event p.fields)
  | .type | .require => none

end Payload

end SymbolIndex
