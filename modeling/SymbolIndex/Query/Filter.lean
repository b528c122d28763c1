import SymbolIndex.Failure
import SymbolIndex.Glob
import SymbolIndex.Query.Basic
import SymbolIndex.Regex.Matching
import SymbolIndex.Regex.Reader
import SymbolIndex.Text.Lowercase

/-!
# Filters of words

A query is made into a filter once and then applied to every word. Where the mode makes several
choices, a regular expression comes before a glob, and a glob before the start of the word. A
regular expression is taken as it is: only the other filters are told whether case counts.
-/

namespace SymbolIndex

open Text

inductive WordFilter where
  | all
  /-- The word equals a text, in lower case unless case counts. -/
  | exact (text : String) (caseSensitive : Bool)
  /-- The word starts with a text, in lower case unless case counts. -/
  | start (text : String) (caseSensitive : Bool)
  /-- The bytes of the word match. -/
  | glob (r : Regex)
  /-- The characters of the word match somewhere. -/
  | regex (r : Regex)
  deriving Repr, Inhabited

namespace WordFilter

/-- A text as it is compared. -/
def fold (caseSensitive : Bool) (s : String) : String := if caseSensitive then s else lowercase s

def ofQuery [Regex.Limit] (q : Query) : Except Failure WordFilter :=
  if q.mode.regex then
    match Regex.parse? q.pattern.toList with
    | some r => .ok (regex r)
    | none => .error (.invalidPattern .regex q.pattern)
  else if q.mode.glob then
    if q.pattern = Query.everythingPattern then .ok all
    else
      match Glob.toRegex? q.mode.caseSensitive q.pattern.toList with
      | some r => .ok (glob r)
      | none => .error (.invalidPattern .glob q.pattern)
  else
    let text := fold q.mode.caseSensitive q.pattern
    .ok (if q.mode.start then start text q.mode.caseSensitive
      else exact text q.mode.caseSensitive)

section Limit

variable [Regex.Limit] {q : Query}

theorem ofQuery_of_admits {r : Regex} (hmode : q.mode.regex)
    (hread : Regex.read? q.pattern.toList = some r)
    (hlimit : Regex.Limit.admits q.pattern.toList) : ofQuery q = .ok (regex r) := by
  rw [ofQuery, if_pos hmode, Regex.parse?_of_admits hlimit, hread]

theorem ofQuery_of_not_admits (hmode : q.mode.regex)
    (hlimit : ¬ Regex.Limit.admits q.pattern.toList) :
    ofQuery q = .error (.invalidPattern .regex q.pattern) := by
  rw [ofQuery, if_pos hmode, Regex.parse?_of_not_admits hlimit]

end Limit

/-- Whether a word passes. -/
def accepts : WordFilter → String → Bool
  | all, _ => true
  | exact text caseSensitive, word => fold caseSensitive word == text
  | start text caseSensitive, word => text.toList.isPrefixOf (fold caseSensitive word).toList
  | glob r, word => r.matchesIn ((Utf8.encode word.toList).map UInt8.toNat)
  | regex r, word => r.matchesIn (word.toList.map Char.toNat)

end WordFilter

end SymbolIndex
