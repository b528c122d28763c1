import SymbolIndex.Lookup
import SymbolIndex.Query.Symbols
import SymbolIndex.Record.Decode
import SymbolIndex.Text.Sorted

/-!
# Reading an index

A reader knows the delimiters of an index and looks up its symbols. Blank names are answered without
a call, records that say nothing are passed over, and failures of the index end a lookup.
-/

namespace SymbolIndex

open Text

/-- Reads the symbols of indexes. -/
structure Reader where
  delimiters : Delimiters := .standard
  /-- The number of types up to which a listing attaches members in the order of the types. -/
  parallelThreshold : Nat := 64
  deriving Repr, DecidableEq, Inhabited

namespace Reader

/-- The members of a category among the answers to a query. -/
def members (r : Reader) (category : Category) (q : Query) : Lookup (List MemberSymbol) := do
  return (← Lookup.records category q).filterMap (·.toMember? r.delimiters category)

/-- The members of a category that belong to one of the given types. -/
def membersOf (r : Reader) (category : Category) (owners : List String) :
    Lookup (List MemberSymbol) :=
  let owners := owners.filter (!isBlank ·)
  if owners.isEmpty then pure [] else r.members category (.membersOf r.delimiters owners)

/-- The members of a category that belong to a type and have the given name. -/
def membersNamed (r : Reader) (category : Category) (owner name : String) :
    Lookup (List MemberSymbol) :=
  if isBlank owner || isBlank name then pure []
  else r.members category (.memberNamed r.delimiters owner name)

/-- The properties of a type and then its functions. -/
def propertiesOf (r : Reader) (owners : List String) : Lookup (List MemberSymbol) := do
  let properties ← r.membersOf .property owners
  let functions ← r.membersOf .function owners
  return properties ++ functions

/-- The modules that a document requires, sorted. -/
def requiredModules (r : Reader) (document : String) : Lookup (List String) :=
  if isBlank document then pure []
  else do
    let records ← Lookup.records .require .everything
    return sorted ((records.filter (·.hasDocument document)).flatMap (·.modulePaths r.delimiters))

/-- A type with its members attached after those that it has. A blank type gets none. -/
def attachMembers (r : Reader) (t : TypeSymbol) : Lookup TypeSymbol :=
  if isBlank t.name then pure t
  else do
    let properties ← r.propertiesOf [t.name]
    let events ← r.membersOf .event [t.name]
    return { t with properties := t.properties ++ properties, events := t.events ++ events }

/-- A type with its members attached, marked as complete. -/
def assemble (r : Reader) (t : TypeSymbol) : Lookup TypeSymbol := do
  return { ← r.attachMembers t with assembled := true }

def types (r : Reader) (records : List Record) : List TypeSymbol :=
  records.filterMap (·.toType? r.delimiters)

/-- The types of a name, one for each record: documents may each contribute a part of a type. -/
def typesNamed (r : Reader) (name : String) (withMembers : Bool) : Lookup (List TypeSymbol) :=
  if isBlank name then pure []
  else do
    let types := r.types (← Lookup.records .type (.typeNamed r.delimiters name))
    if withMembers then types.mapM r.assemble else pure types

/-- Assembles the types at the given places, one after another. -/
def assembleAt (r : Reader) : (places : List Nat) → List TypeSymbol → Lookup (List TypeSymbol)
  | [], types => pure types
  | i :: places, types =>
    match types[i]? with
    | none => r.assembleAt places types
    | some t => do
      let t ← r.assemble t
      r.assembleAt places (types.set i t)

/-- All types. Long listings may assemble the types in another order than they are listed in:
`schedule` gives the order for a number of types. -/
def allTypes (r : Reader) (schedule : Nat → List Nat) (withMembers : Bool) :
    Lookup (List TypeSymbol) := do
  let types := r.types (← Lookup.records .type .everything)
  if withMembers then
    let order := if types.length ≤ r.parallelThreshold then List.range else schedule
    r.assembleAt (order types.length) types
  else return types

/-- The names of all types that a delimiter follows, in the order of the records. -/
def typeNames (r : Reader) : Lookup (List String) := do
  return (← Lookup.records .type .everything).filterMap (·.typeName? r.delimiters)

/-- The names that have not been seen, each once. -/
def unseen (seen : List String) : List String → List String
  | [] => []
  | name :: names =>
    if seen.contains name then unseen seen names else name :: unseen (name :: seen) names

/-- The parents of a type by all of its records. -/
def parentsOf (r : Reader) (name : String) : Lookup (List String) := do
  return ((← r.typesNamed name false).flatMap (·.parents)).map bareTypeName

/-- Visits types level by level. `seen` holds the names so far in the order in which they were met,
and `pending` the last of them, whose parents are still to be looked up. There is no result if more
than `limit` types would have to be visited. -/
def visit (r : Reader) : (limit : Nat) → (pending seen : List String) → Lookup (Option (List String))
  | _, [], seen => pure (some seen)
  | 0, _ :: _, _ => pure none
  | limit + 1, name :: pending, seen => do
    let found := unseen seen (← r.parentsOf name)
    r.visit limit (pending ++ found) (seen ++ found)

/-- The supertypes of a type, the nearest first, each once. -/
def supertypes? (r : Reader) (limit : Nat) (name : String) : Lookup (Option (List String)) :=
  if isBlank name then pure (some [])
  else do
    let start := bareTypeName name
    return (← r.visit limit [start] [start]).map List.tail

/-- The properties and functions of a type and its supertypes. -/
def inheritedMembers? (r : Reader) (limit : Nat) (name : String) :
    Lookup (Option (List MemberSymbol)) :=
  if isBlank name then pure (some [])
  else do
    match ← r.supertypes? limit name with
    | none => return none
    | some supertypes => return some (← r.propertiesOf (name :: supertypes))

/-- A number of types that no visit exceeds in an index with the given records of types: the first
type and every parent that a record names. -/
def visitLimit (r : Reader) (typeRecords : List Record) : Nat :=
  ((r.types typeRecords).flatMap (·.parents)).length + 1

end Reader

end SymbolIndex
