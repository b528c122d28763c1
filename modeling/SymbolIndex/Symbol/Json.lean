import SymbolIndex.Json.Field
import SymbolIndex.Symbol.Basic

/-!
# Symbols in JSON

Each symbol has a written form: an object whose members come in a fixed order, without those that
say nothing. Reading the written form gives the symbol back. A member is one object for its name,
its kind and its details; everything beyond the common fields is kept aside until the kind is
known, so it has to be readable and must not nest too deeply.
-/

namespace SymbolIndex

open Json

/-- A member of an object that is left out when a condition fails. -/
def Json.memberIf (condition : Bool) (name : String) (v : Json) : List (String × Json) :=
  if condition then [(name, v)] else []

/-- A member of an object that is left out when there is no text. -/
def Json.optionalMember (name : String) : Option String → List (String × Json)
  | none => []
  | some s => [(name, text s)]

/-- A member of an object that is left out when the list is empty. -/
def Json.listMember (name : String) (items : List Json) : List (String × Json) :=
  memberIf (!items.isEmpty) name (array items)

namespace Parameter

def toJson (p : Parameter) : Json :=
  object ([("name", text p.name), ("types", ofTexts p.types)] ++ optionalMember "usage" p.usage ++
    optionalMember "description" p.description)

def ofJson? (v : Json) : Option Parameter := do
  match ← v.fields? ["name", "types", "usage", "description"] with
  | [name, types, usage, description] =>
    return {
      name := ← required text? name
      types := ← withDefault [] texts? types
      usage := ← withDefault none optionalText? usage
      description := ← withDefault none optionalText? description }
  | _ => none

end Parameter

namespace EventField

def toJson (f : EventField) : Json :=
  object ([("name", text f.name)] ++ optionalMember "type" f.typeName ++
    optionalMember "description" f.description)

def ofJson? (v : Json) : Option EventField := do
  match ← v.fields? ["name", "type", "description"] with
  | [name, typeName, description] =>
    return {
      name := ← required text? name
      typeName := ← withDefault none optionalText? typeName
      description := ← withDefault none optionalText? description }
  | _ => none

end EventField

namespace PropertyDetails

/-- The members of a member's object that are particular to a property. -/
def toMembers (p : PropertyDetails) : List (String × Json) :=
  [("types", ofTexts p.types)] ++ memberIf p.ofClass "is_class_property" (bool true) ++
    memberIf p.ofInstance "is_instance_property" (bool true) ++
    listMember "since" (p.since.map text)

def ofMembers? (ms : List (String × Json)) : Option PropertyDetails := do
  match ← memberFields? ["types", "is_class_property", "is_instance_property", "since"] ms with
  | [types, ofClass, ofInstance, since] =>
    return {
      types := ← withDefault [] texts? types
      ofClass := ← withDefault false flag? ofClass
      ofInstance := ← withDefault false flag? ofInstance
      since := ← withDefault [] texts? since }
  | _ => none

end PropertyDetails

namespace FunctionDetails

/-- The members of a member's object that are particular to a function. -/
def toMembers (f : FunctionDetails) : List (String × Json) :=
  [("return_types", ofTexts f.returnTypes), ("parameters", array (f.parameters.map (·.toJson)))] ++
    memberIf f.isConstructor "is_constructor" (bool true) ++
    memberIf f.isMethod "is_method" (bool true) ++
    memberIf f.ofClass "is_class_property" (bool true) ++
    memberIf f.ofInstance "is_instance_property" (bool true) ++
    listMember "since" (f.since.map text)

def ofMembers? (ms : List (String × Json)) : Option FunctionDetails := do
  match ← memberFields? ["return_types", "parameters", "is_constructor", "is_method",
      "is_class_property", "is_instance_property", "since"] ms with
  | [returnTypes, parameters, isConstructor, isMethod, ofClass, ofInstance, since] =>
    return {
      returnTypes := ← withDefault [] texts? returnTypes
      parameters := ← withDefault [] (list? Parameter.ofJson?) parameters
      isConstructor := ← withDefault false flag? isConstructor
      isMethod := ← withDefault false flag? isMethod
      ofClass := ← withDefault false flag? ofClass
      ofInstance := ← withDefault false flag? ofInstance
      since := ← withDefault [] texts? since }
  | _ => none

end FunctionDetails

namespace MemberDetails

/-- The kind and the members that are particular to it. -/
def toMembers : MemberDetails → List (String × Json)
  | property p => ("kind", text Category.property.tag) :: p.toMembers
  | function f => ("kind", text Category.function.tag) :: f.toMembers
  | event fields =>
    [("kind", text Category.event.tag), ("properties", array (fields.map (·.toJson)))]

/-- The category that a kind names: by its tag, or by its number. -/
def kind? : Json → Option Category
  | text "property" => some .property
  | text "function" => some .function
  | text "event" => some .event
  | number "0" => some .property
  | number "1" => some .function
  | number "2" => some .event
  | _ => none

/-- Reads the details from the members that follow the common ones. -/
def ofMembers? (ms : List (String × Json)) : Option MemberDetails := do
  match ← memberFields? ["kind"] ms with
  | [some kind] =>
    match ← kind? kind with
    | .property => return property (← PropertyDetails.ofMembers? ms)
    | .function => return function (← FunctionDetails.ofMembers? ms)
    | .event =>
      match ← memberFields? ["properties"] ms with
      | [fields] => return event (← withDefault [] (list? EventField.ofJson?) fields)
      | _ => none
    | _ => none
  | _ => none

end MemberDetails

namespace MemberSymbol

def commonNames : List String := ["name", "owning_type", "description", "documents"]

def toJson (m : MemberSymbol) : Json :=
  object ([("name", text m.name), ("owning_type", text m.owner)] ++
    optionalMember "description" m.description ++ [("documents", ofTexts m.documents)] ++
    m.details.toMembers)

/-- Reads a member; `level` arrays and objects stand around it. -/
def ofJson? (level : Nat) : Json → Option MemberSymbol
  | object ms => do
    let particular := ms.filter fun m => !commonNames.contains m.1
    if particular.all fun m => m.2.isReadable && m.2.depth + level + 1 ≤ maxDepth then
      match ← memberFields? commonNames ms with
      | [name, owner, description, documents] =>
        return {
          name := ← required text? name
          owner := ← required text? owner
          description := ← withDefault none optionalText? description
          documents := ← withDefault [] texts? documents
          details := ← MemberDetails.ofMembers? particular }
      | _ => none
    else none
  | _ => none

end MemberSymbol

namespace TypeSymbol

def toJson (t : TypeSymbol) : Json :=
  object ([("name", text t.name)] ++ listMember "parent_types" (t.parents.map text) ++
    optionalMember "description" t.description ++ [("documents", ofTexts t.documents)] ++
    listMember "properties" (t.properties.map (·.toJson)) ++
    listMember "events" (t.events.map (·.toJson)) ++
    memberIf t.assembled "serialize_properties" (bool true))

/-- Reads a type; `level` arrays and objects stand around it. -/
def ofJsonAt? (level : Nat) (v : Json) : Option TypeSymbol := do
  match ← v.fields? ["name", "parent_types", "description", "documents", "properties", "events",
      "serialize_properties"] with
  | [name, parents, description, documents, properties, events, assembled] =>
    return {
      name := ← required text? name
      parents := ← withDefault [] texts? parents
      description := ← withDefault none optionalText? description
      documents := ← withDefault [] texts? documents
      properties := ← withDefault [] (list? (MemberSymbol.ofJson? (level + 2))) properties
      events := ← withDefault [] (list? (MemberSymbol.ofJson? (level + 2))) events
      assembled := ← withDefault false flag? assembled }
  | _ => none

/-- Reads a type with nothing around it. -/
def ofJson? : Json → Option TypeSymbol := ofJsonAt? 0

end TypeSymbol

end SymbolIndex
