/-!
# Categories of records

Each record of an index belongs to one of five categories. The index names a category by a tag,
which is read without regard to the case of ASCII letters and written in lower case.
-/

namespace SymbolIndex

/-- What a record describes. -/
inductive Category where
  | type
  | property
  | function
  | event
  /-- The modules that a document requires. -/
  | require
  deriving Repr, DecidableEq, Inhabited, Hashable

namespace Category

def all : List Category := [type, property, function, event, require]

/-- The tag of a category. -/
def tag : Category → String
  | type => "type"
  | property => "property"
  | function => "function"
  | event => "event"
  | require => "require"

/-- The category with the given tag, in whatever case. -/
def ofTag? (s : String) : Option Category :=
  all.find? fun c => c.tag.toList == s.toList.map Char.toLower

theorem mem_all (c : Category) : c ∈ all := by
  cases c <;> decide

@[simp] theorem ofTag?_tag (c : Category) : ofTag? c.tag = some c := by
  cases c <;> decide

end Category

end SymbolIndex
