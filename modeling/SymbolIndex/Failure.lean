import SymbolIndex.Text.Quoted
import SymbolIndex.Text.Utf8

/-!
# Failures

Everything that may go wrong, by its cause, and the wording of each. A message is a lead, which
tells the kind of failure, and a reason.
-/

namespace SymbolIndex

open Text

/-- The languages that patterns are written in. -/
inductive PatternLanguage where
  | regex
  | glob
  deriving Repr, DecidableEq

/-- Why an operation gives no result. -/
inductive Failure where
  /-- A pattern is malformed or too large. -/
  | invalidPattern (language : PatternLanguage) (pattern : String)
  | unknownCategory (tag : String)
  /-- A database is no index or lacks its tables. -/
  | database
  /-- A file cannot be read. -/
  | io
  /-- A text is not the JSON that is expected. -/
  | serialization
  | fileNotFound (path : String)
  /-- A text is no TOML, or not the TOML of settings. -/
  | malformedSettings
  | equalDelimiters (c : Char)
  | reservedDelimiter (c : Char)
  /-- An index has been written under another version of the schema. -/
  | schemaVersion (found : Int)
  /-- An index cannot answer. -/
  | backend (reason : String)
  deriving Repr, DecidableEq

def PatternLanguage.name : PatternLanguage → String
  | regex => "regex"
  | glob => "glob"

namespace Failure

/-- An entry holds bytes that are no text. -/
def notText (id : Nat) (fault : Utf8.Fault) : Failure :=
  backend s!"entry {id} holds a non-UTF-8 word: {fault.message}"

/-- The version of the schema that is expected. -/
def expectedVersion : Int := 1

/-- The first part of a message. -/
def lead : Failure → String
  | invalidPattern language pattern => s!"Invalid {language.name} pattern {quoted pattern}: "
  | unknownCategory _ => "Unknown index category: "
  | database => "Database error: "
  | io => "IO error: "
  | serialization => "Serialization error: "
  | fileNotFound _ => "File not found: "
  | malformedSettings | equalDelimiters _ | reservedDelimiter _ => "Config parse error: "
  | schemaVersion _ => "Schema version mismatch: "
  | backend _ => "Index backend error: "

/-- The second part of a message. -/
def reason : Failure → String
  | invalidPattern _ _ => "malformed or too large"
  | unknownCategory tag => tag
  | database => "not an index"
  | io => "not readable"
  | serialization => "not a record"
  | fileNotFound path => path
  | malformedSettings => "not a configuration"
  | equalDelimiters c => s!"primary and sub delimiters must differ (both {quotedChar c})"
  | reservedDelimiter c =>
    s!"{quotedChar c} is reserved for parameter types and cannot be a delimiter"
  | schemaVersion found =>
    s!"index is v{found}, expected v{expectedVersion}. Rebuild the index file."
  | backend reason => reason

def message (f : Failure) : String := f.lead ++ f.reason

/-- The code of a failure for programs that read it. -/
def code : Failure → String
  | invalidPattern _ _ => "invalid_pattern"
  | unknownCategory _ => "unknown_category"
  | database => "database"
  | io | fileNotFound _ => "io"
  | serialization => "serialization"
  | malformedSettings | equalDelimiters _ | reservedDelimiter _ => "config"
  | schemaVersion _ => "schema_version"
  | backend _ => "backend"

end Failure

end SymbolIndex
