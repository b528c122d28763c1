import SymbolIndex.Category
import SymbolIndex.CommandLine.Options

/-!
# Invocations

The commands of the program with their arguments. Three options hold for every command and may stand
before or after its name; where both are given, the one after the name counts.
-/

namespace SymbolIndex.CommandLine

inductive Command where
  /-- Add the records of a file to the index. -/
  | load (file : String)
  | types
  /-- Show the types of a name. -/
  | type (name : String) (members : Bool)
  /-- List the members of types, of all categories or of one, and perhaps of one name. -/
  | members (owners : List String) (category : Option Category) (name : Option String)
  /-- List the supertypes of a type. -/
  | ancestors (name : String)
  /-- List the modules that a document requires. -/
  | requires (document : String)
  deriving Repr, DecidableEq

/-- Where the files are that no option names. -/
structure Defaults where
  database : String := "scriptdex.db"
  settings : Option String := none
  deriving Repr, DecidableEq

/-- A command and the options that hold for all commands. -/
structure Invocation where
  database : String
  settings : Option String
  json : Bool
  command : Command
  deriving Repr, DecidableEq

namespace Invocation

/-- Paths are not empty. -/
def isPath (s : String) : Bool := s != ""

def sharedOptions : List OptionSpec :=
  [{ long := "db", allows := isPath }, { long := "config", allows := isPath },
    { long := "json", takesValue := false }]

/-- The category of members that a kind names. -/
def kind? : String → Option Category
  | "property" => some .property
  | "function" => some .function
  | "event" => some .event
  | _ => none

def topLevel : Level where
  options := sharedOptions
  commands := ["import", "types", "type", "members", "ancestors", "requires", "help"]

def level : (command : String) → Level
  | "import" => { options := sharedOptions, operands := some 1, allows := isPath }
  | "types" => { options := sharedOptions }
  | "type" =>
    { options := { long := "members", short := some 'm', takesValue := false } :: sharedOptions
      operands := some 1 }
  | "members" =>
    { options := { long := "kind", short := some 'k', allows := fun s => (kind? s).isSome } ::
        { long := "name", short := some 'n' } :: sharedOptions
      operands := none }
  | _ => { options := sharedOptions, operands := some 1 }

/-- The command of a name with its arguments. -/
def command? (name : String) (g : Given) : Option Command :=
  match name, g.operands with
  | "import", [file] => some (.load file)
  | "types", [] => some .types
  | "type", [name] => some (.type name (g.has "members"))
  | "members", owner :: owners =>
    some (.members (owner :: owners) ((g.value? "kind").bind kind?) (g.value? "name"))
  | "ancestors", [name] => some (.ancestors name)
  | "requires", [document] => some (.requires document)
  | _, _ => none

/-- The names of commands that help can be asked for: any one command. -/
def helpFor (names : List String) : Usage :=
  match names with
  | [] => .help
  | [name] => if topLevel.commands.contains name then .help else .invalid
  | _ => .invalid

def parse (defaults : Defaults) (arguments : List String) : Except Usage Invocation := do
  let (top, found) ← readLevel topLevel none false {} arguments
  match found with
  | none => throw .invalid
  | some ("help", names) => throw (helpFor names)
  | some (name, arguments) =>
    let (own, _) ← readLevel (level name) none false {} arguments
    match command? name own with
    | none => throw .invalid
    | some command =>
      return {
        database := (own.value? "db" <|> top.value? "db").getD defaults.database
        settings := own.value? "config" <|> top.value? "config" <|> defaults.settings
        json := own.has "json" || top.has "json"
        command }

def usage : String := "\n".intercalate [
  "Usage: scriptdex [--db FILE] [--config FILE] [--json] COMMAND",
  "",
  "Commands:",
  "  import FILE",
  "  types",
  "  type [-m] NAME",
  "  members [-k property|function|event] [-n NAME] TYPE...",
  "  ancestors NAME",
  "  requires DOCUMENT",
  ""]

end Invocation

end SymbolIndex.CommandLine
