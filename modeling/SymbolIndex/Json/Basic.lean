/-!
# JSON values

A JSON value as it is read and written. Objects keep their members in the order written, repeated
names too. A number keeps its spelling. A value whose spelling is correct but which cannot be read,
a text with half of a surrogate pair or a number too large for a double, is `unreadable`: it may be
skipped, and nothing else.
-/

namespace SymbolIndex

inductive Json where
  | null
  | bool (value : Bool)
  /-- A number, as it is spelled. -/
  | number (literal : String)
  | text (value : String)
  | array (items : List Json)
  | object (members : List (String × Json))
  /-- A correctly spelled value that stands for nothing. -/
  | unreadable
  deriving Repr, Inhabited

namespace Json

mutual

/-- The number of arrays and objects around the most deeply nested value. -/
def depth : Json → Nat
  | array items => itemsDepth items + 1
  | object members => membersDepth members + 1
  | _ => 0

/-- The greatest depth among the items of an array. -/
def itemsDepth : List Json → Nat
  | [] => 0
  | v :: vs => max (depth v) (itemsDepth vs)

/-- The greatest depth among the members of an object. -/
def membersDepth : List (String × Json) → Nat
  | [] => 0
  | (_, v) :: ms => max (depth v) (membersDepth ms)

end

mutual

/-- Whether no part of a value is unreadable. -/
def isReadable : Json → Bool
  | array items => itemsReadable items
  | object members => membersReadable members
  | unreadable => false
  | _ => true

/-- Whether no item of an array has an unreadable part. -/
def itemsReadable : List Json → Bool
  | [] => true
  | v :: vs => isReadable v && itemsReadable vs

/-- Whether no member of an object has an unreadable part. -/
def membersReadable : List (String × Json) → Bool
  | [] => true
  | (_, v) :: ms => isReadable v && membersReadable ms

end

/-- The number of nested arrays and objects that a value may have in all. -/
def maxDepth : Nat := 127

end Json

end SymbolIndex
