import SymbolIndex.Proofs.Store.Operations

/-!
# Additions that have been made before

Tables note for which words a document has a row. An addition notes its word and document, keeps
all that was noted, and does nothing where they were noted before: no row is inserted, so that
numbers and positions stay as they are. Additions made all at once lead to the same tables as one by
one.
-/

namespace SymbolIndex

namespace Tables

open Text

variable {t : Tables} {k : Category × String} {category : Category} {word document d : String}

/-- Whether the tables have a row for a word and a document of it. -/
def Notes (t : Tables) (k : Category × String) (document : String) : Prop :=
  ∃ e ∈ t.entries, e.key = rowKey k ∧ document ∈ t.documentsOf e.id

/-- Makes additions one after another. -/
def addAll (t : Tables) (entries : List (Category × String × String)) : Tables :=
  entries.foldl (fun t e => t.add e.1 e.2.1 e.2.2) t

theorem addAll_append (t : Tables) (entries entries' : List (Category × String × String)) :
    t.addAll (entries ++ entries') = (t.addAll entries).addAll entries' :=
  List.foldl_append

/-- Whether the tables have a row for a category and a word. -/
def HasKey (t : Tables) (key : String × List UInt8) : Prop := ∃ e ∈ t.entries, e.key = key

theorem hasKey_insertEntry {key : String × List UInt8} {tag : String} {bytes : List UInt8} :
    (t.insertEntry tag bytes).HasKey key ↔ key = (tag, bytes) ∨ t.HasKey key := by
  cases hfind : t.find? tag bytes with
  | some id =>
    simp only [insertEntry, hfind]
    refine (or_iff_right_of_imp ?_).symm
    rintro rfl
    obtain ⟨e, he, hkey, -⟩ := exists_of_find? hfind
    exact ⟨e, he, hkey⟩
  | none =>
    simp only [insertEntry, hfind, HasKey, List.mem_append, List.mem_singleton, or_and_right,
      exists_or, exists_eq_left]
    rw [or_comm, eq_comm]
    rfl

theorem hasKey_add {key : String × List UInt8} :
    (t.add category word document).HasKey key ↔
      key = rowKey (category, word) ∨ t.HasKey key := by
  refine Iff.trans ?_ hasKey_insertEntry
  simp only [add, HasKey]
  split
  · rw [entries_insertDocument]
  · rfl

/-- Additions give rows to the words that they add, and to no others. -/
theorem hasKey_addAll {entries : List (Category × String × String)} {key : String × List UInt8} :
    (t.addAll entries).HasKey key ↔
      (∃ e ∈ entries, key = rowKey (e.1, e.2.1)) ∨ t.HasKey key := by
  induction entries generalizing t with
  | nil => simp [addAll]
  | cons e entries ih =>
    refine (ih (t := t.add e.1 e.2.1 e.2.2)).trans ?_
    rw [hasKey_add, or_left_comm, ← or_assoc]
    simp only [List.mem_cons, or_and_right, exists_or, exists_eq_left]

@[simp] theorem documents_insertEntry (t : Tables) (category : String) (word : List UInt8) :
    (t.insertEntry category word).documents = t.documents := by
  rw [insertEntry]
  split <;> rfl

/-- A document of a row is not inserted again. -/
theorem insertDocument_of_mem {entry : Nat} (h : document ∈ t.documentsOf entry) :
    t.insertDocument entry document = t := by
  obtain ⟨row, hrow, hentry, hdocument⟩ := mem_documentsOf.1 h
  refine if_pos (List.any_eq_true.2 ⟨row, ?_, by simpa using hdocument⟩)
  exact List.mem_filter.2 ⟨hrow, by simpa using hentry⟩

namespace Consistent

/-- What has been noted is not added again. -/
theorem add_of_notes (c : t.Consistent) (h : t.Notes (category, word) document) :
    t.add category word document = t := by
  obtain ⟨e, he, hkey, hmem⟩ := h
  have hfind : t.find? category.tag (Utf8.encode word.toList) = some e.id :=
    c.find?_eq_some he hkey
  have hinsert : t.insertEntry category.tag (Utf8.encode word.toList) = t := by
    simp only [Tables.insertEntry, hfind]
  simp only [Tables.add, hinsert, hfind, insertDocument_of_mem hmem]

/-- After an addition that and all that was noted before are noted. -/
theorem notes_add (c : t.Consistent) (h : (k, d) = ((category, word), document) ∨ t.Notes k d) :
    (t.add category word document).Notes k d := by
  obtain ⟨e, he, hkey, hadd⟩ := c.add_eq category word document
  have hinserted := c.insertEntry category.tag (Utf8.encode word.toList)
  rw [hadd, Notes, entries_insertDocument]
  rcases h with hnew | ⟨e', he', hkey', hmem⟩
  · obtain ⟨rfl, rfl⟩ := Prod.mk.inj hnew
    exact ⟨e, he, hkey, (mem_documentsOf_insertDocument hinserted he).2 (.inl ⟨rfl, rfl⟩)⟩
  · refine ⟨e', (Extends.insertEntry t _ _).subset he', hkey', ?_⟩
    refine (mem_documentsOf_insertDocument hinserted he).2 (.inr ?_)
    rwa [documentsOf, documentRows, documents_insertEntry]

theorem addAll (c : t.Consistent) (entries : List (Category × String × String)) :
    (t.addAll entries).Consistent :=
  Database.consistent_foldl_add c entries

/-- Additions leave noted what was noted before and what they add. -/
theorem notes_addAll (c : t.Consistent) {entries : List (Category × String × String)}
    (h : (k.1, k.2, d) ∈ entries ∨ t.Notes k d) : (t.addAll entries).Notes k d := by
  induction entries generalizing t with
  | nil => exact h.resolve_left List.not_mem_nil
  | cons e entries ih =>
    refine ih (c.add e.1 e.2.1 e.2.2) ?_
    rw [List.mem_cons, or_assoc] at h
    rcases h with rfl | hmem | hnoted
    · exact .inr (c.notes_add (.inl rfl))
    · exact .inl hmem
    · exact .inr (c.notes_add (.inr hnoted))

/-- Additions that have all been noted change nothing. -/
theorem addAll_of_notes (c : t.Consistent) {entries : List (Category × String × String)}
    (h : ∀ e ∈ entries, t.Notes (e.1, e.2.1) e.2.2) : t.addAll entries = t := by
  induction entries with
  | nil => rfl
  | cons e entries ih =>
    obtain ⟨hfirst, hrest⟩ := List.forall_mem_cons.1 h
    rw [Tables.addAll, List.foldl_cons, c.add_of_notes hfirst]
    exact ih hrest

/-- Additions that are made a second time change nothing. -/
theorem addAll_addAll (c : t.Consistent) (entries : List (Category × String × String)) :
    (t.addAll entries).addAll entries = t.addAll entries :=
  (c.addAll entries).addAll_of_notes fun _ he => c.notes_addAll (.inl he)

end Consistent

end Tables

namespace Database

variable {db : Database} {t : Tables}

/-- Additions made one by one give the tables that they give all at once. -/
theorem HasTables.run_map_addAll (ht : db.HasTables t)
    (entries : List (Category × String × String)) :
    ∃ db', db.run (entries.map fun e => .addAll [e]) = .ok ([], db') ∧
      db'.HasTables (t.addAll entries) := by
  induction entries generalizing db t with
  | nil => exact ⟨db, rfl, ht⟩
  | cons e entries ih =>
    obtain ⟨db₁, hdb₁, ht₁⟩ := ht.addAll [e]
    obtain ⟨db', hrun, ht'⟩ := ih ht₁
    refine ⟨db', ?_, ht'⟩
    rw [List.map_cons, run, hdb₁]
    exact hrun

end Database

end SymbolIndex
