import SymbolIndex.Store.Tables

/-!
# Databases

A database is the content of an index file: the version of its schema and the tables, if they have
been created. A new database has version zero and gets its tables when it is opened; one of the
expected version is taken to have them.
-/

namespace SymbolIndex

/-- The content of an index file. -/
structure Database where
  version : Int := 0
  tables : Option Tables := none
  deriving Repr, DecidableEq, Inhabited

namespace Database

/-- The database of a new file. -/
def empty : Database := {}

/-- Opens a database for use. -/
def prepare (db : Database) : Except Failure Database :=
  if db.version = 0 then
    .ok { version := Failure.expectedVersion, tables := some (db.tables.getD .empty) }
  else if db.version = Failure.expectedVersion then .ok db
  else .error (.schemaVersion db.version)

/-- The tables, which have to be there. -/
def tables? (db : Database) : Except Failure Tables :=
  match db.tables with
  | some t => .ok t
  | none => .error .database

/-- Changes the tables. -/
def modify (db : Database) (change : Tables → Tables) : Except Failure Database := do
  return { db with tables := some (change (← db.tables?)) }

/-- Adds many words at once, each with its category and a document. -/
def addAll (db : Database) (entries : List (Category × String × String)) :
    Except Failure Database :=
  db.modify fun t => entries.foldl (fun t e => t.add e.1 e.2.1 e.2.2) t

/-- Takes a document out of all entries; gives the number of entries that are dropped. -/
def remove (db : Database) (document : String) : Except Failure (Nat × Database) := do
  let (dropped, t) := (← db.tables?).remove document
  return (dropped, { db with tables := some t })

def size (db : Database) : Except Failure Nat := db.tables?.map (·.size)

def answer [Regex.Limit] (db : Database) (c : Call) : Except Failure (List Record) :=
  if c.categories.isEmpty then .ok []
  else do
    -- A pattern is read before the tables are.
    let _ ← WordFilter.ofQuery c.query
    (← db.tables?).answer c

/-- The records of the given categories whose words are texts. -/
def records (db : Database) (categories : List Category) : List Record :=
  (db.tables.getD .empty).records categories

def engine [Regex.Limit] (db : Database) : Engine := .constant db.answer

end Database

end SymbolIndex
