import SymbolIndex.CommandLine.Style
import SymbolIndex.Symbol.Basic

/-!
# Reports

Types and members as text, for people. A type takes several lines and a member takes one.
-/

namespace SymbolIndex.CommandLine

/-- The last column of a member's line: the types of a property, the signature of a function, or the
names of an event's fields. -/
def memberDetail (m : MemberSymbol) : String :=
  match m.details with
  | .property p => "|".intercalate p.types
  | .function f =>
    let signature := m.signature?.getD ""
    let returns := "|".intercalate f.returnTypes
    if returns = "" then signature else s!"{signature} -> {returns}"
  | .event fields => ", ".intercalate (fields.map (·.name))

def memberLine (colored : Bool) (indent : String) (m : MemberSymbol) : String :=
  let category := Style.cyan.apply colored (padded 8 m.category.tag)
  let name := Style.bold.apply colored m.name
  let detail := Style.dimmed.apply colored (memberDetail m)
  s!"{indent}{category} {m.owner}.{name} {detail}\n"

/-- The lines of a type: its name with its parents, its description, its documents and its
members. -/
def typeLines (colored : Bool) (t : TypeSymbol) : String :=
  let parents := if t.parents.isEmpty then "" else " : " ++ ", ".intercalate t.parents
  let head := Style.bold.apply colored t.name ++ Style.dimmed.apply colored parents ++ "\n"
  let description := match t.description with
    | some d => s!"  {d}\n"
    | none => ""
  let label := Style.dimmed.apply colored "documents:"
  let documents := ", ".intercalate t.documents
  let members := String.join ((t.properties ++ t.events).map (memberLine colored "  "))
  s!"{head}{description}  {label} {documents}\n{members}"

end SymbolIndex.CommandLine
