import SymbolIndex.Lookup
import SymbolIndex.Query.Filter
import SymbolIndex.Text.Utf8

/-!
# An index in tables

The index as two tables: one row for each entry, with a number, the tag of its category and the bytes
of its word, and one row for each document of an entry, with its position. Words are bytes, so rows
may hold words that are no text. Numbers of removed entries are used again.
-/

namespace SymbolIndex

open Text

structure EntryRow where
  id : Nat
  category : String
  word : List UInt8
  deriving Repr, DecidableEq

structure DocumentRow where
  entry : Nat
  document : String
  position : Nat
  deriving Repr, DecidableEq

/-- An index in tables. The rows of each table are in the order of insertion. -/
structure Tables where
  entries : List EntryRow := []
  documents : List DocumentRow := []
  deriving Repr, DecidableEq

namespace Tables

def empty : Tables := {}

instance : Inhabited Tables := ⟨empty⟩

def size (t : Tables) : Nat := t.entries.length

/-- The number for a new entry: one more than the greatest one. -/
def nextId (t : Tables) : Nat := (t.entries.map (·.id)).foldl max 0 + 1

/-- The number of the entry of a category and word. -/
def find? (t : Tables) (category : String) (word : List UInt8) : Option Nat :=
  (t.entries.find? fun e => e.category == category && e.word == word).map (·.id)

/-- Inserts an entry, unless it is there. -/
def insertEntry (t : Tables) (category : String) (word : List UInt8) : Tables :=
  match t.find? category word with
  | some _ => t
  | none => { t with entries := t.entries ++ [⟨t.nextId, category, word⟩] }

def documentRows (t : Tables) (entry : Nat) : List DocumentRow :=
  t.documents.filter (·.entry == entry)

/-- The position for a new document of an entry: after all others. -/
def nextPosition (t : Tables) (entry : Nat) : Nat :=
  ((t.documentRows entry).map (·.position + 1)).foldl max 0

/-- Inserts a document of an entry, unless it is there. -/
def insertDocument (t : Tables) (entry : Nat) (document : String) : Tables :=
  if (t.documentRows entry).any (·.document == document) then t
  else { t with documents := t.documents ++ [⟨entry, document, t.nextPosition entry⟩] }

/-- Notes that a document contributes a word. -/
def add (t : Tables) (category : Category) (word document : String) : Tables :=
  let bytes := Utf8.encode word.toList
  let t := t.insertEntry category.tag bytes
  match t.find? category.tag bytes with
  | some id => t.insertDocument id document
  | none => t

/-- Takes a document out of all entries and drops those that are left without documents; gives their
number too. -/
def remove (t : Tables) (document : String) : Nat × Tables :=
  let documents := t.documents.filter (·.document != document)
  let entries := t.entries.filter fun e => documents.any (·.entry == e.id)
  (t.entries.length - entries.length, { entries, documents })

/-- The documents of an entry in the order of their positions. -/
def documentsOf (t : Tables) (entry : Nat) : List String :=
  ((t.documentRows entry).mergeSort (fun a b => a.position ≤ b.position)).map (·.document)

/-- The rows of the given categories in the order of their numbers. -/
def rows (t : Tables) (categories : List Category) : List EntryRow :=
  (t.entries.filter fun e => categories.any (·.tag == e.category)).mergeSort fun a b => a.id ≤ b.id

/-- Whether a row comes into question for a filter, by its bytes alone. Where case counts, the start
of a word is compared byte by byte; an empty word has no bytes to compare. -/
def preselects (f : WordFilter) (e : EntryRow) : Bool :=
  match f with
  | .start text true => !e.word.isEmpty && (Utf8.encode text.toList).isPrefixOf e.word
  | _ => true

/-- The record of a row, if its word passes the filter. A word that is no text is a failure. -/
def record? (t : Tables) (f : WordFilter) (e : EntryRow) : Except Failure (Option Record) :=
  match Utf8.decode e.word with
  | .error fault => .error (.notText e.id fault)
  | .ok cs =>
    let word := String.ofList cs
    .ok (if f.accepts word then some ⟨word, t.documentsOf e.id⟩ else none)

/-- Answers a call. Without categories there is nothing to answer, whatever the pattern. -/
def answer [Regex.Limit] (t : Tables) (c : Call) : Except Failure (List Record) :=
  if c.categories.isEmpty then .ok []
  else do
    let f ← WordFilter.ofQuery c.query
    let found ← ((t.rows c.categories).filter (preselects f)).mapM (t.record? f)
    return found.filterMap id

/-- The records of the given categories whose words are texts. -/
def records (t : Tables) (categories : List Category) : List Record :=
  (t.rows categories).filterMap fun e =>
    match Utf8.decode e.word with
    | .ok cs => some ⟨String.ofList cs, t.documentsOf e.id⟩
    | .error _ => none

end Tables

end SymbolIndex
