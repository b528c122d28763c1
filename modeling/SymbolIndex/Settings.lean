import SymbolIndex.Delimiters
import SymbolIndex.Failure
import SymbolIndex.Json.Basic
import SymbolIndex.Toml.Reader

/-!
# Settings

The settings of a program that reads an index, and their form in TOML. Every setting has a default.
The delimiters have to tell fields, items and annotations apart.
-/

namespace SymbolIndex

structure Settings where
  delimiters : Delimiters := .standard
  /-- The number of types up to which a listing attaches members in order. -/
  parallelThreshold : Nat := 64
  /-- Which messages are logged. -/
  logFilter : String := "warn"
  deriving Repr, DecidableEq, Inhabited

namespace Settings

def defaultText : String := "\n".intercalate [
  "# scriptdex configuration",
  "",
  "[delimiters]",
  "# Separates the fields of an index record (must match the writer)",
  "primary = \"\\u0000\"",
  "# Separates the entries of a list-valued field",
  "sub = \",\"",
  "",
  "[query]",
  "# Type listings with members attach in parallel above this many types",
  "parallel_threshold = 64",
  "",
  "[log]",
  "# tracing filter used when SCRIPTDEX_LOG is unset",
  "filter = \"warn\"",
  ""]

open Toml in
/-- The fields of a structure: the entries of a table, or the items of an array in order. A date or
time has none of them. -/
def fields? (names : List String) : Toml → Option (List (Option Toml))
  | table _ es => some (names.map fun name => es.lookup name)
  | array items | tables items =>
    some ((List.range names.length).map (items[·]?))
  | moment _ => some (names.map fun _ => none)
  | _ => none

def withDefault (default : α) (read : Toml → Option α) : Option Toml → Option α
  | none => some default
  | some v => read v

/-- A text of one character. -/
def char? : Toml → Option Char
  | .text s =>
    match s.toList with
    | [c] => some c
    | _ => none
  | _ => none

/-- A number that is not negative. -/
def count? : Toml → Option Nat
  | .integer n => if 0 ≤ n then some n.toNat else none
  | _ => none

def text? : Toml → Option String
  | .text s => some s
  | _ => none

def delimiters? (v : Toml) : Option Delimiters := do
  match ← fields? ["primary", "sub"] v with
  | [primary, sub] =>
    return {
      primary := ← withDefault Delimiters.standard.primary char? primary
      sub := ← withDefault Delimiters.standard.sub char? sub }
  | _ => none

/-- Reads the only field of a structure. -/
def onlyField? (name : String) (default : α) (read : Toml → Option α) (v : Toml) : Option α := do
  match ← fields? [name] v with
  | [field] => withDefault default read field
  | _ => none

def ofToml? (es : Toml.Entries) : Option Settings := do
  let standard : Settings := {}
  return {
    delimiters := ← withDefault standard.delimiters delimiters? (es.lookup "delimiters")
    parallelThreshold := ← withDefault standard.parallelThreshold
      (onlyField? "parallel_threshold" standard.parallelThreshold count?) (es.lookup "query")
    logFilter := ← withDefault standard.logFilter
      (onlyField? "filter" standard.logFilter text?) (es.lookup "log") }

/-- Checks the delimiters of settings: that they differ, and that neither is taken for
annotations. -/
def validate (s : Settings) : Except Failure Settings :=
  let d := s.delimiters
  if d.primary = d.sub then .error (.equalDelimiters d.primary)
  else if Delimiters.isReserved d.primary then .error (.reservedDelimiter d.primary)
  else if Delimiters.isReserved d.sub then .error (.reservedDelimiter d.sub)
  else .ok s

def parse (text : String) : Except Failure Settings :=
  match (Toml.parse text).bind ofToml? with
  | some s => s.validate
  | none => .error .malformedSettings

def toJson (s : Settings) : Json :=
  .object [
    ("delimiters", .object [("primary", .text s.delimiters.primary.toString),
      ("sub", .text s.delimiters.sub.toString)]),
    ("query", .object [("parallel_threshold", .number (toString s.parallelThreshold))]),
    ("log", .object [("filter", .text s.logFilter)])]

/-- Settings that pass the check have delimiters that tell everything apart. -/
theorem valid_of_validate {s t : Settings} (h : s.validate = .ok t) :
    t = s ∧ s.delimiters.Valid := by
  simp only [validate] at h
  split at h
  · cases h
  · rename_i hne
    split at h
    · cases h
    · rename_i hp
      split at h
      · cases h
      · rename_i hs
        exact ⟨(Except.ok.inj h).symm, hne, Bool.eq_false_iff.2 hp, Bool.eq_false_iff.2 hs⟩

end Settings

end SymbolIndex
