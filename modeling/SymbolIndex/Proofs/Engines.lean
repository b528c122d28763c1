import SymbolIndex.Proofs.Requests
import SymbolIndex.Proofs.Store.Database

/-!
# Engines and the entries behind them

An index in memory and a database that have seen the same changes answer alike, but for calls that
no reader makes. `Serving` gathers both under one notion: an engine that serves entries answers
every uniform call from them.
-/

namespace SymbolIndex

open Entries

variable [Regex.Limit] {db : Database} {s : MemoryStore} {es : Entries} {e : Engine}

/-- A database in use, or an index in memory, with the entries that it holds. The words of the
database are texts; its entries are in the order of the insertion of their rows. -/
inductive Serving : Engine → Entries → Prop where
  | memory (h : List Change) : Serving (MemoryStore.empty.run h).2.engine (ofHistory h)
  | database {db : Database} {t : Tables} :
    db.Reachable → db.HasTables t → t.Readable → Serving db.engine t.contents

/-- Uniform calls are answered from the entries, at any time. -/
theorem Serving.answer (hs : Serving e es) {c : Call} (hu : c.Uniform) (made : Nat) :
    e made c = es.answer c := by
  cases hs with
  | memory h => exact (MemoryStore.holds_ofHistory h).answer_eq c
  | @database db t hr ht hreadable =>
    obtain ⟨t', ht', consistent⟩ := hr.exists_tables
    obtain rfl : t' = t := by
      have htables := ht'.symm.trans ht
      simpa using htables
    exact (ht.answer_eq c).trans (consistent.answer_of_uniform hreadable hu)

/-- A lookup with uniform calls goes as it does over the entries themselves. -/
theorem Serving.run_eq_constant (hs : Serving e es) {α : Type} {m : Lookup α}
    (hm : m.Asks Call.Uniform) (made : Nat) : m.run e made = m.run (.constant es.answer) made :=
  Lookup.run_congr hm (fun made _ hc => hs.answer hc made) made

/-- It makes no difference when a lookup with uniform calls starts. -/
theorem Serving.run_eq (hs : Serving e es) {α : Type} {m : Lookup α} (hm : m.Asks Call.Uniform)
    (made made' : Nat) : m.run e made = m.run e made' := by
  rw [hs.run_eq_constant hm, hs.run_eq_constant hm, Lookup.run_constant]

section Records

variable {category : Category} {q : Query} {f : WordFilter} {failure : Failure} {made : Nat}

/-- A query in one category finds the records of the category that pass its filter. -/
theorem Serving.result_records (hs : Serving e es) (hu : Call.Uniform ⟨[category], q⟩)
    (hf : WordFilter.ofQuery q = .ok f) :
    ((Lookup.records category q).run e made).result =
      .ok ((es.records [category]).filter fun record => f.accepts record.word) := by
  have hanswer : es.answer ⟨[category], q⟩ =
      .ok ((es.records [category]).filter fun record => f.accepts record.word) := by
    rw [Entries.answer, hf]
    rfl
  rw [Lookup.records, Lookup.run_ask_ok ((hs.answer hu made).trans hanswer)]
  rfl

theorem Serving.result_records_of_error (hs : Serving e es) (hu : Call.Uniform ⟨[category], q⟩)
    (hf : WordFilter.ofQuery q = .error failure) :
    ((Lookup.records category q).run e made).result = .error failure := by
  have hanswer : es.answer ⟨[category], q⟩ = .error failure := by
    rw [Entries.answer, hf]
    rfl
  rw [Lookup.records, Lookup.run_ask_error ((hs.answer hu made).trans hanswer)]

end Records

namespace Database

/-- A database does what an index in memory does. -/
structure Refines (db : Database) (s : MemoryStore) : Prop where
  size : db.size = .ok s.size
  records : ∀ categories, db.records categories = s.records categories
  /-- A query fails only over its pattern. -/
  failures : ∀ q failure, WordFilter.ofQuery q = .error failure →
    ∃ kind, failure = .invalidPattern kind q.pattern
  /-- Without categories only the index in memory reads the pattern. -/
  no_categories : ∀ q, db.answer ⟨[], q⟩ = .ok [] ∧
    s.answer ⟨[], q⟩ = (WordFilter.ofQuery q).map fun _ => []
  malformed : ∀ c failure, c.categories ≠ [] → WordFilter.ofQuery c.query = .error failure →
    db.answer c = .error failure ∧ s.answer c = .error failure
  /-- The start of words, where case counts. -/
  start : ∀ c, c.categories ≠ [] → c.query.mode.comparesBytes →
    db.answer c = (s.answer c).map fun rs => rs.filter (·.word != "")
  otherwise : ∀ c, c.categories ≠ [] → ¬ c.query.mode.comparesBytes → db.answer c = s.answer c
  requests : ∀ (r : Reader) (q : Request) (made : Nat),
    (q.lookup r).run db.engine made = (q.lookup r).run s.engine made

/-- Holding the same entries is enough to do the same. -/
theorem Holds.refines (hd : db.Holds es) (hs : s.Holds es) : db.Refines s where
  size := by rw [hd.size_eq, hs.size_eq]
  records := by
    intro categories
    obtain ⟨t, ht, consistent, -, hcontents⟩ := hd
    subst ht
    refine (consistent.records_eq categories).trans ?_
    rw [hcontents, ← hs.entries_eq]
    rfl
  failures := fun _ _ hq => WordFilter.exists_of_ofQuery_error hq
  no_categories := by
    intro q
    refine ⟨rfl, ?_⟩
    rw [hs.answer_eq, Entries.answer]
    cases WordFilter.ofQuery q with
    | error failure => rfl
    | ok f => simp [Entries.records, Except.map]
  malformed := by
    intro c failure hne hq
    have hmemory : s.answer c = .error failure := by
      rw [hs.answer_eq, Entries.answer, hq]
      rfl
    refine ⟨?_, hmemory⟩
    rw [hd.answer_eq hne, ← hs.answer_eq, hmemory]
    rfl
  start := by
    intro c hne hbytes
    rw [hd.answer_eq hne, ← hs.answer_eq, hbytes]
    rfl
  otherwise := by
    intro c hne hbytes
    rw [hd.answer_eq hne, ← hs.answer_eq]
    cases s.answer c <;> simp [hbytes, Except.map]
  requests := by
    intro r q made
    refine Lookup.run_congr (r.asks_lookup q) ?_ made
    intro made c hu
    obtain ⟨t, ht, consistent, hk, rfl⟩ := hd
    calc
      db.engine made c = t.answer c := ht.answer_eq c
      _ = t.contents.answer c := consistent.answer_of_uniform hk.readable hu
      _ = s.engine made c := (hs.answer_eq c).symm

/-- Whatever words are added to a new database and whatever documents removed, and whenever it is
opened again, the removals reply as they do in memory, and the database does what the index in
memory does. -/
theorem run_refines_memory (steps : List Step) :
    ∃ db, Database.empty.run (.reopen :: steps) =
        .ok ((MemoryStore.empty.run (steps.flatMap Step.changes)).1, db) ∧
      db.Refines (MemoryStore.empty.run (steps.flatMap Step.changes)).2 := by
  obtain ⟨db₀, hopen, hd₀⟩ := Holds.prepare_empty
  obtain ⟨db, hrun, hd⟩ := hd₀.run MemoryStore.Holds.empty steps
  refine ⟨db, ?_, hd.refines (MemoryStore.holds_ofHistory _)⟩
  rw [Database.run, hopen]
  exact hrun

end Database

end SymbolIndex
