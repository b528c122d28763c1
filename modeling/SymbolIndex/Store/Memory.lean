import Std.Data.HashMap
import SymbolIndex.Lookup
import SymbolIndex.Query.Filter

/-!
# An index in memory

The entries of the index stand in an array, in the order in which they were created, and a map
leads from a category and a word to the place of its entry. An entry is there as long as some
document contributes it.
-/

namespace SymbolIndex

namespace Record

def addDocument (r : Record) (document : String) : Record :=
  if r.hasDocument document then r else { r with documents := r.documents ++ [document] }

def dropDocument (r : Record) (document : String) : Record :=
  { r with documents := r.documents.filter (· != document) }

end Record

/-- An index in memory. -/
structure MemoryStore where
  entries : Array (Category × Record) := #[]
  /-- The place of the entry of a category and word. -/
  positions : Std.HashMap (Category × String) Nat := {}

namespace MemoryStore

def empty : MemoryStore := {}

instance : Inhabited MemoryStore := ⟨empty⟩

def size (s : MemoryStore) : Nat := s.entries.size

/-- Notes that a document contributes a word. -/
def add (s : MemoryStore) (category : Category) (word document : String) : MemoryStore :=
  match s.positions[(category, word)]? with
  | some i =>
    { s with entries := s.entries.modify i fun e => (e.1, e.2.addDocument document) }
  | none =>
    { entries := s.entries.push (category, ⟨word, [document]⟩)
      positions := s.positions.insert (category, word) s.entries.size }

def positionsOf (entries : Array (Category × Record)) : Std.HashMap (Category × String) Nat :=
  entries.toList.zipIdx.foldl (fun m e => m.insert (e.1.1, e.1.2.word) e.2) {}

/-- Takes a document out of all entries and drops those that are left without documents; gives their
number too. -/
def remove (s : MemoryStore) (document : String) : Nat × MemoryStore :=
  let entries := (s.entries.map fun e => (e.1, e.2.dropDocument document)).filter fun e =>
    !e.2.documents.isEmpty
  (s.entries.size - entries.size, { entries, positions := positionsOf entries })

def records (s : MemoryStore) (categories : List Category) : List Record :=
  (s.entries.toList.filter fun e => categories.contains e.1).map (·.2)

def answer [Regex.Limit] (s : MemoryStore) (c : Call) : Except Failure (List Record) :=
  (WordFilter.ofQuery c.query).map fun f =>
    (s.records c.categories).filter fun r => f.accepts r.word

def engine [Regex.Limit] (s : MemoryStore) : Engine := .constant s.answer

end MemoryStore

end SymbolIndex
