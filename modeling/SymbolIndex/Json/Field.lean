import SymbolIndex.Json.Reader

/-!
# Structures in JSON

A structure is written as an object with a member for each field, or as the array of its fields in
order. Members that name no field are passed over; two members for one field make the object
invalid. Each field is then read by the reader of its type.
-/

namespace SymbolIndex.Json

/-- The members of an object for the given fields, in the order of the fields. -/
def memberFields? (names : List String) (ms : List (String × Json)) :
    Option (List (Option Json)) :=
  if names.all fun name => (ms.filter (·.1 == name)).length ≤ 1 then
    some (names.map fun name => ms.lookup name)
  else none

/-- The fields of a structure. In an array the last ones may be missing. -/
def fields? (names : List String) : Json → Option (List (Option Json))
  | object ms => memberFields? names ms
  | array items =>
    if items.length ≤ names.length then
      some (items.map some ++ List.replicate (names.length - items.length) none)
    else none
  | _ => none

def required (read : Json → Option α) (field : Option Json) : Option α := field.bind read

def withDefault (default : α) (read : Json → Option α) : Option Json → Option α
  | none => some default
  | some v => read v

def text? : Json → Option String
  | text s => some s
  | _ => none

def flag? : Json → Option Bool
  | bool b => some b
  | _ => none

def optionalText? : Json → Option (Option String)
  | null => some none
  | text s => some (some s)
  | _ => none

def list? (read : Json → Option α) : Json → Option (List α)
  | array items => items.mapM read
  | _ => none

def texts? : Json → Option (List String) := list? text?

def ofTexts (ss : List String) : Json := array (ss.map text)

end SymbolIndex.Json
