import SymbolIndex.Proofs.Store.Entries
import SymbolIndex.Proofs.Store.Tables
import SymbolIndex.Proofs.Text.Utf8

/-!
# The entries that tables hold

`Tables.contents` reads the entries of an index from the rows of its tables. Rows whose tag is that
of no category or whose word is no text hold no entry. Where the tables are consistent, additions to
the tables are additions to the entries, removals are removals, and a call is answered from the
entries. The one difference to an index in memory is the empty word where the start of a word is
compared with regard to case: tables compare bytes, and the empty word has none.
-/

namespace SymbolIndex

open Text

/-- What identifies the row of a category and a word. -/
def rowKey (k : Category × String) : String × List UInt8 := (k.1.tag, Utf8.encode k.2.toList)

theorem rowKey_injective {k k' : Category × String} (h : rowKey k = rowKey k') : k = k' := by
  obtain ⟨htag, hbytes⟩ := Prod.mk.inj h
  have hcategory : k.1 = k'.1 := by
    have hread := congrArg Category.ofTag? htag
    rwa [Category.ofTag?_tag, Category.ofTag?_tag, Option.some.injEq] at hread
  exact Prod.ext hcategory (String.ext_iff.2 (Utf8.encode_injective hbytes))

namespace EntryRow

variable {e : EntryRow} {k : Category × String}

/-- The category with exactly the tag of a row. -/
def category? (e : EntryRow) : Option Category := Category.all.find? (·.tag == e.category)

/-- The category and the word that a row is for. -/
def key? (e : EntryRow) : Option (Category × String) :=
  match e.category?, Utf8.decode e.word with
  | some category, .ok cs => some (category, String.ofList cs)
  | _, _ => none

theorem category?_of_tag {category : Category} (h : e.category = category.tag) :
    e.category? = some category := by
  rw [category?, h]
  cases category <;> decide

theorem tag_of_category? {category : Category} (h : e.category? = some category) :
    category.tag = e.category := by
  simpa using List.find?_some h

theorem key?_of_key (h : e.key = rowKey k) : e.key? = some k := by
  obtain ⟨htag, hbytes⟩ := Prod.mk.inj h
  rw [key?, category?_of_tag htag, hbytes, Utf8.decode_encode]
  simp

end EntryRow

namespace Tables

open Entries

variable {t : Tables} {k : Category × String} {e e' : EntryRow} {document : String}

/-- The entry that a row holds. -/
def entryOf? (t : Tables) (e : EntryRow) : Option (Category × Record) :=
  e.key?.map fun k => (k.1, ⟨k.2, t.documentsOf e.id⟩)

/-- The entries of an index in tables. -/
def contents (t : Tables) : Entries := t.entries.filterMap t.entryOf?

/-- Every row holds an entry. -/
def Known (t : Tables) : Prop := ∀ e ∈ t.entries, ∃ k, e.key = rowKey k

/-- The words of all rows are texts. -/
def Readable (t : Tables) : Prop := ∀ e ∈ t.entries, Utf8.IsText e.word

theorem Known.readable (hk : t.Known) : t.Readable := by
  intro e he
  obtain ⟨k, hkey⟩ := hk e he
  exact ⟨k.2.toList, congrArg Prod.snd hkey⟩

theorem Known.length_contents (hk : t.Known) : t.contents.length = t.size := by
  refine List.filterMap_length_eq_length.2 ?_
  intro e he
  obtain ⟨k, hkey⟩ := hk e he
  simp only [entryOf?, EntryRow.key?_of_key hkey]
  rfl

theorem Known.mem_keys_contents (hk : t.Known) :
    k ∈ keys t.contents ↔ ∃ e ∈ t.entries, e.key = rowKey k := by
  rw [mem_keys]
  constructor
  · rintro ⟨x, hx, rfl⟩
    obtain ⟨e, he, hentry⟩ := List.mem_filterMap.1 hx
    obtain ⟨k', hkey⟩ := hk e he
    rw [entryOf?, EntryRow.key?_of_key hkey] at hentry
    cases hentry
    exact ⟨e, he, hkey⟩
  · rintro ⟨e, he, hkey⟩
    refine ⟨(k.1, ⟨k.2, t.documentsOf e.id⟩), List.mem_filterMap.2 ⟨e, he, ?_⟩, rfl⟩
    rw [entryOf?, EntryRow.key?_of_key hkey]
    rfl

theorem Known.insertEntry (hk : t.Known) (k : Category × String) :
    (t.insertEntry (rowKey k).1 (rowKey k).2).Known := by
  rw [Tables.insertEntry]
  split
  · exact hk
  · intro e he
    rcases List.mem_append.1 he with hold | hlast
    · exact hk e hold
    · exact ⟨k, by rw [List.mem_singleton.1 hlast]; rfl⟩

@[simp] theorem entries_insertDocument (t : Tables) (entry : Nat) (document : String) :
    (t.insertDocument entry document).entries = t.entries := by
  rw [insertDocument]
  split <;> rfl

theorem Known.add (hk : t.Known) (category : Category) (word document : String) :
    (t.add category word document).Known := by
  have hinserted := hk.insertEntry (category, word)
  simp only [Tables.add]
  split
  · intro e he
    rw [entries_insertDocument] at he
    exact hinserted e he
  · exact hinserted

theorem Known.remove (hk : t.Known) (document : String) : (t.remove document).2.Known :=
  fun e he => hk e (List.mem_of_mem_filter he)

namespace Consistent

/-- A document is added at the end of its entry's documents, unless it is there. -/
theorem documentsOf_insertDocument (c : t.Consistent) (he : e ∈ t.entries) (entry : Nat) :
    (t.insertDocument e.id document).documentsOf entry =
      if entry = e.id ∧ document ∉ t.documentsOf entry then t.documentsOf entry ++ [document]
      else t.documentsOf entry := by
  rw [(c.insertDocument he document).documentsOf_eq, c.documentsOf_eq]
  have hmem : ((t.documentRows e.id).any (·.document == document) = true) ↔
      document ∈ (t.documentRows e.id).map (·.document) := by
    simp only [List.any_eq_true, beq_iff_eq, List.mem_map]
  rw [Tables.insertDocument]
  by_cases hnew : document ∈ (t.documentRows e.id).map (·.document)
  · rw [if_pos (hmem.2 hnew), if_neg]
    rintro ⟨rfl, hnot⟩
    exact hnot hnew
  · rw [if_neg (mt hmem.1 hnew)]
    by_cases hentry : entry = e.id
    · subst hentry
      rw [if_pos ⟨rfl, hnew⟩]
      simp [documentRows]
    · rw [if_neg fun hboth => hentry hboth.1]
      simp [documentRows, Ne.symm hentry]

/-- Among the entries that rows hold, a document extends that of its row. -/
theorem contents_insertDocument (c : t.Consistent) (hk : t.Known) (he : e ∈ t.entries)
    (hkey : e.key = rowKey k) (document : String) :
    (t.insertDocument e.id document).contents =
      t.contents.map fun x => if key x = k then extend document x else x := by
  rw [contents, contents, List.map_filterMap, entries_insertDocument]
  refine List.filterMap_congr ?_
  intro e' he'
  obtain ⟨k', hkey'⟩ := hk e' he'
  have hsame : e'.id = e.id ↔ k' = k := by
    constructor
    · intro hid
      rw [c.eq_of_id he' he hid] at hkey'
      exact rowKey_injective (hkey'.symm.trans hkey)
    · rintro rfl
      rw [c.eq_of_key he' he (hkey'.trans hkey.symm)]
  have hx : key (k'.1, ⟨k'.2, t.documentsOf e'.id⟩) = k' := rfl
  simp only [entryOf?, EntryRow.key?_of_key hkey', Option.map_some, hx, extend_eq,
    c.documentsOf_insertDocument he, hsame]
  by_cases hk' : k' = k
  · by_cases hmem : document ∈ t.documentsOf e'.id
    · simp [hmem]
    · simp [hk', hmem]
  · simp [hk']

/-- A row for a new word holds an entry behind all others. -/
theorem contents_insertEntry (c : t.Consistent) (hk : t.Known) :
    (t.insertEntry (rowKey k).1 (rowKey k).2).contents =
      if k ∈ keys t.contents then t.contents else t.contents ++ [(k.1, ⟨k.2, []⟩)] := by
  rw [Tables.insertEntry]
  split
  · rename_i hfind
    obtain ⟨e, he, hkey, -⟩ := exists_of_find? hfind
    rw [if_pos (hk.mem_keys_contents.2 ⟨e, he, hkey⟩)]
  · rename_i hfind
    rw [find?_eq_none_iff] at hfind
    have hnew : k ∉ keys t.contents := by
      rw [hk.mem_keys_contents]
      rintro ⟨e, he, hkey⟩
      exact hfind e he hkey
    have hnone : t.documentRows t.nextId = [] :=
      c.documentRows_eq_nil fun e he => Nat.ne_of_lt (lt_nextId he)
    have hrow : t.entryOf? ⟨t.nextId, (rowKey k).1, (rowKey k).2⟩ = some (k.1, ⟨k.2, []⟩) := by
      rw [entryOf?, EntryRow.key?_of_key rfl, c.documentsOf_eq, hnone]
      rfl
    rw [if_neg hnew, contents, List.filterMap_append, contents]
    exact congrArg (t.entries.filterMap t.entryOf? ++ ·)
      ((List.filterMap_cons_some hrow).trans rfl)

/-- An addition to the tables adds to the entries that they hold. -/
theorem contents_add (c : t.Consistent) (hk : t.Known) (category : Category)
    (word document : String) :
    (t.add category word document).contents = t.contents.add (category, word) document := by
  obtain ⟨e, he, hkey, hadd⟩ := c.add_eq category word document
  have hinserted := c.contents_insertEntry (k := (category, word)) hk
  have hdocument := (c.insertEntry _ _).contents_insertDocument (k := (category, word))
    (hk.insertEntry (category, word)) he hkey document
  rw [hadd]
  refine hdocument.trans ?_
  rw [hinserted]
  split
  · rename_i hmem
    rw [add_of_mem hmem]
  · rename_i hmem
    rw [add_of_notMem hmem, List.map_append]
    congr 1
    · refine (List.map_congr_left ?_).trans (List.map_id _)
      intro x hx
      have hkey' : key x ≠ (category, word) := fun heq => hmem (heq ▸ key_mem_keys hx)
      exact if_neg hkey'
    · simp [key, extend, Record.addDocument, Record.hasDocument]

theorem documentsOf_remove (c : t.Consistent) (entry : Nat) :
    (t.remove document).2.documentsOf entry =
      (t.documentsOf entry).filter (· != document) := by
  rw [(c.remove document).documentsOf_eq, c.documentsOf_eq, List.filter_map]
  congr 1
  simp only [documentRows, Tables.remove, List.filter_filter]
  refine List.filter_congr ?_
  intro d _
  exact Bool.and_comm _ _

/-- A removal keeps the rows of entries that still have documents. -/
theorem entries_remove (c : t.Consistent) (document : String) :
    (t.remove document).2.entries = t.entries.filter fun e =>
      !((t.remove document).2.documentsOf e.id).isEmpty := by
  refine List.filter_congr ?_
  intro e _
  rw [(c.remove document).documentsOf_eq, List.isEmpty_map]
  have hrows (ds : List DocumentRow) :
      ds.any (·.entry == e.id) = !(ds.filter (·.entry == e.id)).isEmpty := by
    induction ds with
    | nil => rfl
    | cons d ds ih => cases h : d.entry == e.id <;> simp [h, ih]
  exact hrows _

/-- A removal from the tables removes from the entries that they hold. -/
theorem contents_remove (c : t.Consistent) (document : String) :
    (t.remove document).2.contents = t.contents.remove document := by
  rw [contents, c.entries_remove, List.filterMap_filter, Entries.remove, contents, List.map_filterMap,
    List.filter_filterMap]
  refine List.filterMap_congr ?_
  intro e _
  simp only [entryOf?, c.documentsOf_remove]
  cases e.key? with
  | none => simp
  | some k => simp [Option.filter, shrink, Record.dropDocument]

end Consistent

end Tables

end SymbolIndex
