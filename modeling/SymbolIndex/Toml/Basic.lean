/-!
# TOML values

A TOML document is a table. A table remembers how it was introduced, because that decides whether a
later part of the document may still add to it.
-/

namespace SymbolIndex

/-- How a table was introduced. -/
inductive TableKind where
  /-- By a header of its own, or as the document. -/
  | header
  /-- By the header of a table inside it. -/
  | passing
  /-- By a dotted key. -/
  | dotted
  /-- In braces, as a value. -/
  | closed
  deriving Repr, DecidableEq, Inhabited

namespace TableKind

/-- Whether the table was introduced by the way. -/
def isImplicit : TableKind → Bool
  | passing | dotted => true
  | header | closed => false

end TableKind

/-- A TOML value. Of numbers with a point or exponent and of dates and times only the spelling is
kept. -/
inductive Toml where
  | text (value : String)
  | integer (value : Int)
  | float (literal : String)
  | boolean (value : Bool)
  | moment (literal : String)
  | array (items : List Toml)
  | table (kind : TableKind) (entries : List (String × Toml))
  /-- The tables of an array that is written with headers. -/
  | tables (items : List Toml)
  deriving Repr, Inhabited

namespace Toml

/-- The entries of a table, in the order of their introduction. -/
abbrev Entries := List (String × Toml)

/-- Puts a value under a key, in the place of the one that is there. -/
def put (key : String) (v : Toml) : Entries → Entries
  | [] => [(key, v)]
  | e :: es => if e.1 = key then (key, v) :: es else e :: put key v es

/-- Changes the table at a path inside a table of the given kind. Tables that are not there are
introduced by the way: by a dotted key or by a header. A dotted key leads through no table that has
been introduced otherwise than by the way, and no path leads into a finished value; in an array of
tables it leads into the last one. -/
def alter (isDotted : Bool) (change : TableKind → Entries → Option Entries) :
    (path : List String) → TableKind → Entries → Option Entries
  | [], kind, es => change kind es
  | key :: path, _, es =>
    match es.lookup key with
    | none =>
      let kind := if isDotted then TableKind.dotted else .passing
      (alter isDotted change path kind []).map fun inner => put key (table kind inner) es
    | some (table kind inner) =>
      if kind = .closed ∨ (isDotted = true ∧ kind.isImplicit = false) then none
      else (alter isDotted change path kind inner).map fun inner => put key (table kind inner) es
    | some (tables items) =>
      match items.getLast? with
      | some (table kind inner) =>
        (alter isDotted change path kind inner).map fun inner =>
          put key (tables (items.dropLast ++ [table kind inner])) es
      | _ => none
    | some _ => none

/-- Gives a value to a dotted key. The key has to be new, and a key of more than one part has to end
in a table that dotted keys introduced. -/
def assign (kind : TableKind) (es : Entries) (path : List String) (v : Toml) : Option Entries :=
  match path.getLast? with
  | none => none
  | some key =>
    let parents := path.dropLast
    alter true (fun kind es =>
      if (kind == .dotted) == parents.isEmpty || (es.lookup key).isSome then none
      else some (es ++ [(key, v)])) parents kind es

end Toml

end SymbolIndex
