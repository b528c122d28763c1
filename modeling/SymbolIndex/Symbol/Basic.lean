import SymbolIndex.Category

/-!
# Symbols

What an index says about a script: types, and the members that they own. Several symbols may share
a name when different documents contribute partial definitions. A function counts as a property
that can be called, so a type keeps both in one list.
-/

namespace SymbolIndex

structure Parameter where
  name : String
  types : List String := []
  /-- Whether and how often it is passed, in the words of the indexer. -/
  usage : Option String := none
  description : Option String := none
  deriving Repr, DecidableEq, Inhabited

/-- A field of what an event carries. -/
structure EventField where
  name : String
  typeName : Option String := none
  description : Option String := none
  deriving Repr, DecidableEq, Inhabited

structure PropertyDetails where
  types : List String := []
  ofClass : Bool := false
  ofInstance : Bool := false
  /-- The versions that have it. -/
  since : List String := []
  deriving Repr, DecidableEq, Inhabited

structure FunctionDetails where
  returnTypes : List String := []
  parameters : List Parameter := []
  isConstructor : Bool := false
  isMethod : Bool := false
  ofClass : Bool := false
  ofInstance : Bool := false
  since : List String := []
  deriving Repr, DecidableEq, Inhabited

/-- What is known of a member beyond its name, by its kind. -/
inductive MemberDetails where
  | property (details : PropertyDetails)
  | function (details : FunctionDetails)
  | event (fields : List EventField)
  deriving Repr, DecidableEq, Inhabited

structure MemberSymbol where
  name : String
  owner : String
  description : Option String := none
  /-- The documents that contribute it, in the order in which they were recorded. -/
  documents : List String := []
  details : MemberDetails
  deriving Repr, DecidableEq, Inhabited

namespace MemberSymbol

/-- The category of the records that describe such a member. -/
def category (m : MemberSymbol) : Category :=
  match m.details with
  | .property _ => .property
  | .function _ => .function
  | .event _ => .event

def isFunction (m : MemberSymbol) : Bool := m.category == .function

/-- The types of a property, the return types of a function, and nothing for an event. -/
def valueTypes (m : MemberSymbol) : List String :=
  match m.details with
  | .property p => p.types
  | .function f => f.returnTypes
  | .event _ => []

/-- A function's name with its parameters, without types. -/
def signature? (m : MemberSymbol) : Option String :=
  match m.details with
  | .function f => some (m.name ++ "(" ++ ", ".intercalate (f.parameters.map (·.name)) ++ ")")
  | _ => none

end MemberSymbol

/-- A type, with its members once they are attached. -/
structure TypeSymbol where
  name : String
  parents : List String := []
  description : Option String := none
  documents : List String := []
  /-- Its properties and functions. -/
  properties : List MemberSymbol := []
  events : List MemberSymbol := []
  /-- Whether the members were attached from an index. -/
  assembled : Bool := false
  deriving Repr, DecidableEq, Inhabited

namespace TypeSymbol

def functions (t : TypeSymbol) : List MemberSymbol := t.properties.filter (·.isFunction)

/-- The first attached property or function of a name. -/
def property? (t : TypeSymbol) (name : String) : Option MemberSymbol :=
  t.properties.find? (·.name == name)

def addProperty (t : TypeSymbol) (m : MemberSymbol) : TypeSymbol :=
  { t with properties := t.properties ++ [m] }

def addEvent (t : TypeSymbol) (m : MemberSymbol) : TypeSymbol :=
  { t with events := t.events ++ [m] }

end TypeSymbol

end SymbolIndex
