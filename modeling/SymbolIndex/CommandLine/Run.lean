import SymbolIndex.CommandLine.Invocation
import SymbolIndex.CommandLine.Report
import SymbolIndex.Json.Printer
import SymbolIndex.Reader
import SymbolIndex.Regex.Size
import SymbolIndex.Settings
import SymbolIndex.Store.Database
import SymbolIndex.Symbol.Json

/-!
# Running a command

The program reads at most three files: its settings, the database and the file of an import. What is
found under a path is given from outside, and the new content of the database is given back, so that
running a command is a function. It is one for every limit of regular expressions; that of
`Regex.Size` is there for programs that name none.
-/

namespace SymbolIndex.CommandLine

open Text

/-- What is found under a path. -/
inductive FileContent where
  /-- Nothing, in a directory that is there. -/
  | missing
  /-- Nothing, and no directory to put it in. -/
  | unreachable
  | directory
  | text (content : String)
  /-- A file that is neither a text nor a database. -/
  | binary
  | database (content : Database)

namespace FileContent

/-- The text of a file that has to be there. -/
def text? (path : String) : FileContent → Except Failure String
  | missing | unreachable => .error (.fileNotFound path)
  | directory | binary | database _ => .error .io
  | text content => .ok content

/-- The database of a file. A missing or empty file is a new database. -/
def database? : FileContent → Except Failure Database
  | missing => .ok .empty
  | text content => if content = "" then .ok .empty else .error .database
  | database content => .ok content
  | unreachable | directory | binary => .error .database

end FileContent

/-- The path of a database that is not kept in a file. -/
def memoryPath : String := ":memory:"

/-- How a command ended: with an output or a failure. -/
structure Result where
  outcome : Except Failure String
  /-- The new content of the database, unless it could not be opened. -/
  database : Option Database := none

/-- The lines of the rest of a text; the current line so far is given in reverse. -/
def linesFrom (line : List Char) : List Char → List String
  | [] => if line.isEmpty then [] else [.ofList line.reverse]
  | '\r' :: '\n' :: cs => .ofList line.reverse :: linesFrom [] cs
  | '\n' :: cs => .ofList line.reverse :: linesFrom [] cs
  | c :: cs => linesFrom (c :: line) cs

/-- The lines of a text. A line ends at a line feed, with a carriage return before it or without. -/
def lines (content : String) : List String := linesFrom [] content.toList

/-- The records of an import file, one on each line that is not blank. -/
def parseImport (content : String) : Except Failure (List ImportLine) :=
  ((lines content).filter (!isBlank ·)).mapM fun line =>
    match (Json.parse line).bind ImportLine.ofJson? with
    | some l => .ok l
    | none => .error .serialization

/-- The entries that import lines stand for: one for each document of a line. -/
def importEntries (ls : List ImportLine) : List (Category × String × String) :=
  ls.flatMap fun l => l.record.documents.map (l.category, l.record.word, ·)

def printJson (v : Json) : String := v.pretty ++ "\n"

/-- Writes a list, as JSON or item by item. -/
def printList (json : Bool) (toJson : α → Json) (toLines : α → String) (items : List α) : String :=
  if json then printJson (.array (items.map toJson)) else String.join (items.map toLines)

def printNames (json : Bool) (names : List String) : String :=
  printList json .text (· ++ "\n") names

/-- The members that a command asks for, one category after another. A name restricts the search to
the first type. -/
def membersLookup (r : Reader) (owners : List String) (category : Option Category)
    (name : Option String) : Lookup (List MemberSymbol) := do
  let categories := match category with
    | some c => [c]
    | none => [.property, .function, .event]
  let found ← categories.mapM fun c =>
    match name, owners.head? with
    | some name, some owner => r.membersNamed c owner name
    | _, _ => r.membersOf c owners
  return found.flatten

def read (r : Reader) (db : Database) (json colored : Bool) : Command → Lookup String
  | .load _ => pure ""
  | .types => do return printNames json (← r.typeNames)
  | .type name members => do
    let types ← r.typesNamed name members
    if !json && types.isEmpty then
      return Style.yellow.apply colored "No type named" ++ s!" {name}\n"
    else return printList json TypeSymbol.toJson (typeLines colored) types
  | .members owners category name => do
    return printList json MemberSymbol.toJson (memberLine colored "")
      (← membersLookup r owners category name)
  | .ancestors name => do
    let limit := r.visitLimit (db.records [.type])
    return printNames json ((← r.supertypes? limit name).getD [])
  | .requires document => do return printNames json (← r.requiredModules document)

/-- Adds the records of a file to a database. -/
def load (db : Database) (json colored : Bool) (path : String) (file : FileContent) :
    Except Failure (String × Database) := do
  let ls ← parseImport (← file.text? path)
  let db ← db.addAll (importEntries ls)
  let size ← db.size
  let output :=
    if json then
      printJson (.object [("records", .number (toString ls.length)),
        ("entries", .number (toString size))])
    else
      let label := Style.green.apply colored "Imported"
      s!"{label}: {ls.length} records ({size} entries in index)\n"
  return (output, db)

/-- The settings of a command and the database that it opens. The settings are read first. -/
def prepare (look : String → FileContent) (i : Invocation) :
    Except Failure (Settings × Database) := do
  let settings ← match i.settings with
    | none => pure ({} : Settings)
    | some path => do Settings.parse (← (look path).text? path)
  let found := if i.database = memoryPath then FileContent.missing else look i.database
  return (settings, ← (← found.database?).prepare)

/-- The reader that settings call for. -/
def readerOf (settings : Settings) : Reader :=
  { delimiters := settings.delimiters, parallelThreshold := settings.parallelThreshold }

def run [Regex.Limit] (look : String → FileContent) (colored : Bool) (i : Invocation) : Result :=
  match prepare look i with
  | .error f => { outcome := .error f }
  | .ok (settings, db) =>
    match i.command with
    | .load path =>
      match load db i.json colored path (look path) with
      | .ok (output, db) => { outcome := .ok output, database := some db }
      | .error f => { outcome := .error f, database := some db }
    | command =>
      { outcome := ((read (readerOf settings) db i.json colored command).run db.engine 0).result
        database := some db }

end SymbolIndex.CommandLine
