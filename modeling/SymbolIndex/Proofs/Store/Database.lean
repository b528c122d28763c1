import SymbolIndex.Proofs.Store.Answers
import SymbolIndex.Proofs.Store.Memory
import SymbolIndex.Store.Database

/-!
# Databases in use

A database that has been opened keeps its version and has tables, so that every further step
succeeds. Where only words are added and documents removed, the tables hold the entries that an
index in memory holds after the same changes, and the removals reply alike.
-/

namespace SymbolIndex

namespace Database

open Entries

/-- What is done to a database between calls. -/
inductive Step where
  /-- Adds words, each with its category and a document. -/
  | addAll (entries : List (Category × String × String))
  | remove (document : String)
  | reopen
  deriving Repr, DecidableEq

/-- The changes that a step makes to the entries. -/
def Step.changes : Step → List Change
  | addAll entries => entries.map fun e => .add e.1 e.2.1 e.2.2
  | remove document => [.remove document]
  | reopen => []

/-- Does steps one after another. The replies are those of the removals. -/
def run (db : Database) : List Step → Except Failure (List Nat × Database)
  | [] => .ok ([], db)
  | .addAll entries :: steps => do (← db.addAll entries).run steps
  | .remove document :: steps => do
    let (dropped, db) ← db.remove document
    let (replies, db) ← db.run steps
    return (dropped :: replies, db)
  | .reopen :: steps => do (← db.prepare).run steps

/-- The databases that come up in use, also where rows have been inserted that no word has. -/
inductive Reachable : Database → Prop where
  | opened {db} : empty.prepare = .ok db → Reachable db
  | reopened {db db'} : Reachable db → db.prepare = .ok db' → Reachable db'
  | added {db db' entries} : Reachable db → db.addAll entries = .ok db' → Reachable db'
  | removed {db db' document dropped} :
    Reachable db → db.remove document = .ok (dropped, db') → Reachable db'
  | inserted {db db' category word} :
    Reachable db → db.modify (·.insertEntry category word) = .ok db' → Reachable db'

variable {db : Database} {t : Tables} {es : Entries} {s : MemoryStore}

/-- The database has been opened, and these are its tables. -/
def HasTables (db : Database) (t : Tables) : Prop :=
  db = { version := Failure.expectedVersion, tables := some t }

namespace HasTables

theorem prepare_empty : ∃ db, empty.prepare = .ok db ∧ db.HasTables .empty := ⟨_, rfl, rfl⟩

theorem prepare (h : db.HasTables t) : db.prepare = .ok db := by
  subst h
  rfl

theorem addAll (h : db.HasTables t) (entries : List (Category × String × String)) :
    ∃ db', db.addAll entries = .ok db' ∧
      db'.HasTables (entries.foldl (fun t e => t.add e.1 e.2.1 e.2.2) t) := by
  subst h
  exact ⟨_, rfl, rfl⟩

theorem remove (h : db.HasTables t) (document : String) :
    ∃ db', db.remove document = .ok ((t.remove document).1, db') ∧
      db'.HasTables (t.remove document).2 := by
  subst h
  exact ⟨_, rfl, rfl⟩

theorem insertEntry (h : db.HasTables t) (category : String) (word : List UInt8) :
    ∃ db', db.modify (·.insertEntry category word) = .ok db' ∧
      db'.HasTables (t.insertEntry category word) := by
  subst h
  exact ⟨_, rfl, rfl⟩

theorem size_eq (h : db.HasTables t) : db.size = .ok t.size := by
  subst h
  rfl

/-- The tables answer for the database; without categories neither looks at the pattern. -/
theorem answer_eq [Regex.Limit] (h : db.HasTables t) (c : Call) : db.answer c = t.answer c := by
  subst h
  rw [answer, Tables.answer]
  split
  · rfl
  · rename_i hne
    cases hq : WordFilter.ofQuery c.query with
    | error failure => rfl
    | ok f =>
      change t.answer c = _
      rw [Tables.answer, if_neg hne, hq]

end HasTables

theorem consistent_foldl_add (c : t.Consistent) (entries : List (Category × String × String)) :
    (entries.foldl (fun t e => t.add e.1 e.2.1 e.2.2) t).Consistent := by
  induction entries generalizing t with
  | nil => exact c
  | cons e entries ih => exact ih (c.add e.1 e.2.1 e.2.2)

/-- Every database in use has tables, and their rows belong together. -/
theorem Reachable.exists_tables (hr : db.Reachable) : ∃ t, db.HasTables t ∧ t.Consistent := by
  induction hr with
  | opened hopen =>
    obtain ⟨db, hdb, ht⟩ := HasTables.prepare_empty
    rw [hdb, Except.ok.injEq] at hopen
    exact ⟨.empty, hopen ▸ ht, Tables.empty_consistent⟩
  | reopened _ hopen ih =>
    obtain ⟨t, ht, c⟩ := ih
    rw [ht.prepare, Except.ok.injEq] at hopen
    exact ⟨t, hopen ▸ ht, c⟩
  | @added _ _ entries _ hadd ih =>
    obtain ⟨t, ht, c⟩ := ih
    obtain ⟨db', hdb', ht'⟩ := ht.addAll entries
    rw [hdb', Except.ok.injEq] at hadd
    exact ⟨_, hadd ▸ ht', consistent_foldl_add c entries⟩
  | @removed _ _ document _ _ hremove ih =>
    obtain ⟨t, ht, c⟩ := ih
    obtain ⟨db', hdb', ht'⟩ := ht.remove document
    rw [hdb', Except.ok.injEq, Prod.mk.injEq] at hremove
    exact ⟨_, hremove.2 ▸ ht', c.remove document⟩
  | @inserted _ _ category word _ hinsert ih =>
    obtain ⟨t, ht, c⟩ := ih
    obtain ⟨db', hdb', ht'⟩ := ht.insertEntry category word
    rw [hdb', Except.ok.injEq] at hinsert
    exact ⟨_, hinsert ▸ ht', c.insertEntry category word⟩

/-- The tables of the database are consistent, and their rows hold the given entries. -/
structure Holds (db : Database) (es : Entries) : Prop where
  exists_tables : ∃ t : Tables, db.HasTables t ∧ t.Consistent ∧ t.Known ∧ t.contents = es

namespace Holds

theorem prepare_empty : ∃ db, empty.prepare = .ok db ∧ db.Holds [] := by
  obtain ⟨db, hdb, ht⟩ := HasTables.prepare_empty
  exact ⟨db, hdb, ⟨.empty, ht, Tables.empty_consistent, nofun, rfl⟩⟩

theorem prepare (hd : db.Holds es) : db.prepare = .ok db := by
  obtain ⟨t, ht, -⟩ := hd
  exact ht.prepare

theorem addAll (hd : db.Holds es) (entries : List (Category × String × String)) :
    ∃ db', db.addAll entries = .ok db' ∧
      db'.Holds ((Step.addAll entries).changes.foldl Entries.apply es) := by
  obtain ⟨t, ht, c, hk, rfl⟩ := hd
  obtain ⟨db', hdb', ht'⟩ := ht.addAll entries
  refine ⟨db', hdb', ⟨_, ht', ?_⟩⟩
  clear ht hdb' ht'
  induction entries generalizing t with
  | nil => exact ⟨c, hk, rfl⟩
  | cons e entries ih =>
    obtain ⟨c', hk', hcontents⟩ := ih _ (c.add e.1 e.2.1 e.2.2) (hk.add e.1 e.2.1 e.2.2)
    refine ⟨c', hk', hcontents.trans ?_⟩
    rw [c.contents_add hk]
    rfl

/-- A removal replies with the number of entries that it drops. -/
theorem remove (hd : db.Holds es) (document : String) :
    ∃ db', db.remove document = .ok (es.length - (es.remove document).length, db') ∧
      db'.Holds (es.remove document) := by
  obtain ⟨t, ht, c, hk, rfl⟩ := hd
  obtain ⟨db', hdb', ht'⟩ := ht.remove document
  have hreply : (t.remove document).1 =
      t.contents.length - (t.contents.remove document).length := by
    rw [← c.contents_remove, hk.length_contents, (hk.remove document).length_contents]
    rfl
  refine ⟨db', hreply ▸ hdb', ⟨_, ht', c.remove document, hk.remove document, ?_⟩⟩
  exact c.contents_remove document

theorem size_eq (hd : db.Holds es) : db.size = .ok es.length := by
  obtain ⟨t, ht, -, hk, rfl⟩ := hd
  rw [ht.size_eq, hk.length_contents]

/-- Calls for some category are answered from the entries, without the empty word where bytes are
compared. -/
theorem answer_eq [Regex.Limit] (hd : db.Holds es) {c : Call} (hne : c.categories ≠ []) :
    db.answer c = (es.answer c).map fun rs =>
      rs.filter fun r => !(c.query.mode.comparesBytes && r.word == "") := by
  obtain ⟨t, ht, consistent, hk, rfl⟩ := hd
  rw [ht.answer_eq, consistent.answer_eq hk.readable hne]

/-- Steps on a database and the changes that they make to an index in memory lead to the same
entries, by the same replies. -/
theorem run (hd : db.Holds es) (hs : s.Holds es) (steps : List Step) :
    ∃ db', db.run steps = .ok ((s.run (steps.flatMap Step.changes)).1, db') ∧
      db'.Holds ((steps.flatMap Step.changes).foldl Entries.apply es) := by
  induction steps generalizing db s es with
  | nil => exact ⟨db, rfl, hd⟩
  | cons step steps ih =>
    rw [List.flatMap_cons, List.foldl_append, MemoryStore.run_append]
    cases step with
    | addAll entries =>
      have hreplies : ∀ s : MemoryStore, (s.run (Step.addAll entries).changes).1 = [] := by
        induction entries with
        | nil => exact fun _ => rfl
        | cons e entries ih => exact fun _ => ih _
      obtain ⟨db₁, hdb₁, hd₁⟩ := hd.addAll entries
      obtain ⟨db', hrun, hd'⟩ := ih hd₁ (hs.run _)
      refine ⟨db', ?_, hd'⟩
      rw [hreplies, List.nil_append, ← hrun, Database.run, hdb₁]
      rfl
    | remove document =>
      obtain ⟨db₁, hdb₁, hd₁⟩ := hd.remove document
      obtain ⟨db', hrun, hd'⟩ := ih hd₁ (hs.remove document)
      refine ⟨db', ?_, hd'⟩
      rw [Database.run, hdb₁]
      change db₁.run steps >>= _ = _
      rw [hrun, ← hs.remove_reply]
      rfl
    | reopen =>
      obtain ⟨db', hrun, hd'⟩ := ih hd hs
      refine ⟨db', ?_, hd'⟩
      rw [Database.run, hd.prepare]
      exact hrun

/-- Steps on a new database succeed, and it holds the entries that their changes lead to. -/
theorem run_empty (steps : List Step) :
    ∃ db, Database.empty.run (.reopen :: steps) =
        .ok ((MemoryStore.empty.run (steps.flatMap Step.changes)).1, db) ∧
      db.Holds (ofHistory (steps.flatMap Step.changes)) := by
  obtain ⟨db₀, hopen, hd₀⟩ := prepare_empty
  obtain ⟨db, hrun, hd⟩ := hd₀.run MemoryStore.Holds.empty steps
  refine ⟨db, ?_, hd⟩
  rw [Database.run, hopen]
  exact hrun

end Holds

/-- Whatever it holds, a database answers from its own records. -/
theorem answer_subset [Regex.Limit] {c : Call} {rs : List Record} (h : db.answer c = .ok rs) :
    rs ⊆ db.records c.categories := by
  rw [answer] at h
  split at h
  · cases h
    exact List.nil_subset _
  · obtain ⟨f, -, h⟩ := exists_of_bind_ok h
    obtain ⟨t, ht, h⟩ := exists_of_bind_ok h
    rw [tables?] at ht
    split at ht
    · rename_i hdb
      cases ht
      rw [records, hdb]
      exact Tables.answer_subset h
    · cases ht

end Database

end SymbolIndex
