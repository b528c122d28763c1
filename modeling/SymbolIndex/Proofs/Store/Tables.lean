import Mathlib.Data.List.Nodup
import SymbolIndex.Store.Tables

/-!
# Tables that belong together

`Tables.Consistent` says what holds of the two tables at all times. Numbers of entries ascend, so
that the order of the numbers is that of insertion. No category and word has two rows. Each row of
a document belongs to an entry that is there, so that an entry which gets the number of a removed
one gets no documents with it. Among the rows of one entry no document comes twice, and positions
ascend. Every change keeps these properties, also when it inserts rows that no word has.
-/

namespace SymbolIndex

/-- What identifies the row of an entry beside its number. -/
def EntryRow.key (e : EntryRow) : String × List UInt8 := (e.category, e.word)

namespace Tables

variable {t : Tables} {category document : String} {word : List UInt8} {entry id : Nat}
variable {e e' : EntryRow}

/-- The rows of the two tables belong together. -/
structure Consistent (t : Tables) : Prop where
  ids : t.entries.Pairwise fun e e' => e.id < e'.id
  keys_nodup : (t.entries.map EntryRow.key).Nodup
  owned : ∀ d ∈ t.documents, ∃ e ∈ t.entries, e.id = d.entry
  recorded : t.documents.Pairwise fun d d' =>
    d.entry = d'.entry → d.document ≠ d'.document ∧ d.position < d'.position

private theorem le_foldl_max (ns : List Nat) (a : Nat) :
    a ≤ ns.foldl max a ∧ ∀ n ∈ ns, n ≤ ns.foldl max a := by
  induction ns generalizing a with
  | nil => simp
  | cons n ns ih =>
    obtain ⟨hstart, hrest⟩ := ih (max a n)
    refine ⟨Nat.le_trans (Nat.le_max_left a n) hstart, ?_⟩
    rintro m hm
    rcases List.mem_cons.1 hm with rfl | hm
    · exact Nat.le_trans (Nat.le_max_right a m) hstart
    · exact hrest m hm

/-- The number for a new entry is greater than all others. -/
theorem lt_nextId (he : e ∈ t.entries) : e.id < t.nextId :=
  Nat.lt_succ_of_le ((le_foldl_max _ 0).2 e.id (List.mem_map_of_mem he))

/-- The position for a new document of an entry is greater than those of the others. -/
theorem lt_nextPosition {d : DocumentRow} (hd : d ∈ t.documents) (hentry : d.entry = entry) :
    d.position < t.nextPosition entry := by
  have hrow : d ∈ t.documentRows entry := List.mem_filter.2 ⟨hd, by simpa using hentry⟩
  exact (le_foldl_max _ 0).2 (d.position + 1) (List.mem_map_of_mem (f := (·.position + 1)) hrow)

/-- A row is found by its category and word only if it has them. -/
theorem exists_of_find? (h : t.find? category word = some id) :
    ∃ e ∈ t.entries, e.key = (category, word) ∧ e.id = id := by
  obtain ⟨e, he, hid⟩ := Option.map_eq_some_iff.1 h
  have hkey := List.find?_some he
  simp only [Bool.and_eq_true, beq_iff_eq] at hkey
  exact ⟨e, List.mem_of_find?_eq_some he, Prod.ext hkey.1 hkey.2, hid⟩

theorem find?_eq_none_iff :
    t.find? category word = none ↔ ∀ e ∈ t.entries, e.key ≠ (category, word) := by
  simp only [find?, Option.map_eq_none_iff, List.find?_eq_none, Bool.and_eq_true, beq_iff_eq,
    EntryRow.key, ne_eq, Prod.mk.injEq]

/-- The row that an addition gives a document to. -/
theorem exists_mem_insertEntry (t : Tables) (category : String) (word : List UInt8) :
    ∃ e ∈ (t.insertEntry category word).entries, e.key = (category, word) := by
  cases hfind : t.find? category word with
  | some id =>
    obtain ⟨e, he, hkey, -⟩ := exists_of_find? hfind
    simp only [Tables.insertEntry, hfind]
    exact ⟨e, he, hkey⟩
  | none =>
    simp only [Tables.insertEntry, hfind]
    exact ⟨_, List.mem_append_right _ (List.mem_singleton_self _), rfl⟩

theorem empty_consistent : empty.Consistent where
  ids := List.Pairwise.nil
  keys_nodup := List.nodup_nil
  owned := by simp [empty]
  recorded := List.Pairwise.nil

namespace Consistent

/-- Two rows of entries with one number are one row. -/
theorem eq_of_id (c : t.Consistent) (he : e ∈ t.entries) (he' : e' ∈ t.entries)
    (h : e.id = e'.id) : e = e' := by
  have hnodup : (t.entries.map (·.id)).Nodup :=
    List.pairwise_map.2 (c.ids.imp fun hlt => Nat.ne_of_lt hlt)
  exact List.inj_on_of_nodup_map hnodup he he' h

/-- Two rows of entries with one category and word are one row. -/
theorem eq_of_key (c : t.Consistent) (he : e ∈ t.entries) (he' : e' ∈ t.entries)
    (h : e.key = e'.key) : e = e' :=
  List.inj_on_of_nodup_map c.keys_nodup he he' h

/-- The row of an entry is found by its category and word. -/
theorem find?_eq_some (c : t.Consistent) (he : e ∈ t.entries) (hkey : e.key = (category, word)) :
    t.find? category word = some e.id := by
  cases hfind : t.find? category word with
  | none => exact absurd hkey (find?_eq_none_iff.1 hfind e he)
  | some id =>
    obtain ⟨e', he', hkey', rfl⟩ := exists_of_find? hfind
    rw [c.eq_of_key he he' (hkey.trans hkey'.symm)]

/-- A number that no entry has, the next one among them, has no documents. -/
theorem documentRows_eq_nil (c : t.Consistent) (h : ∀ e ∈ t.entries, e.id ≠ entry) :
    t.documentRows entry = [] := by
  refine List.filter_eq_nil_iff.2 ?_
  intro d hd hentry
  obtain ⟨e, he, hid⟩ := c.owned d hd
  exact h e he (hid.trans (by simpa using hentry))

theorem insertEntry (c : t.Consistent) (category : String) (word : List UInt8) :
    (t.insertEntry category word).Consistent := by
  cases hfind : t.find? category word with
  | some id =>
    simp only [Tables.insertEntry, hfind]
    exact c
  | none =>
    simp only [Tables.insertEntry, hfind]
    constructor
    case ids =>
      refine List.pairwise_append.2 ⟨c.ids, List.pairwise_singleton _ _, ?_⟩
      intro e he e' hlast
      rw [List.mem_singleton.1 hlast]
      exact lt_nextId he
    case keys_nodup =>
      rw [List.map_append]
      refine List.nodup_append.2 ⟨c.keys_nodup, List.pairwise_singleton _ _, ?_⟩
      intro k hk k' hlast heq
      obtain ⟨e, he, rfl⟩ := List.mem_map.1 hk
      rw [List.map_singleton, List.mem_singleton] at hlast
      exact find?_eq_none_iff.1 hfind e he (heq.trans hlast)
    case owned =>
      intro d hd
      obtain ⟨e, he, hid⟩ := c.owned d hd
      exact ⟨e, List.mem_append_left _ he, hid⟩
    case recorded => exact c.recorded

theorem insertDocument (c : t.Consistent) (he : e ∈ t.entries) (document : String) :
    (t.insertDocument e.id document).Consistent := by
  rw [Tables.insertDocument]
  split
  · exact c
  · rename_i hnew
    simp only [List.any_eq_true, beq_iff_eq, not_exists, not_and] at hnew
    refine ⟨c.ids, c.keys_nodup, ?_, ?_⟩
    · intro d hd
      rcases List.mem_append.1 hd with hold | hlast
      · exact c.owned d hold
      · rw [List.mem_singleton.1 hlast]
        exact ⟨e, he, rfl⟩
    · refine List.pairwise_append.2 ⟨c.recorded, List.pairwise_singleton _ _, ?_⟩
      intro d hd d' hlast hentry
      rw [List.mem_singleton.1 hlast] at hentry ⊢
      have hrow : d ∈ t.documentRows e.id := List.mem_filter.2 ⟨hd, by simpa using hentry⟩
      exact ⟨hnew d hrow, lt_nextPosition hd hentry⟩

/-- An addition inserts a row for its word, unless it is there, and then a document of that row. -/
theorem add_eq (c : t.Consistent) (category : Category) (word document : String) :
    ∃ e ∈ (t.insertEntry category.tag (Text.Utf8.encode word.toList)).entries,
      e.key = (category.tag, Text.Utf8.encode word.toList) ∧
      t.add category word document =
        (t.insertEntry category.tag (Text.Utf8.encode word.toList)).insertDocument e.id
          document := by
  obtain ⟨e, he, hkey⟩ := t.exists_mem_insertEntry category.tag (Text.Utf8.encode word.toList)
  refine ⟨e, he, hkey, ?_⟩
  simp only [Tables.add, (c.insertEntry _ _).find?_eq_some he hkey]

theorem add (c : t.Consistent) (category : Category) (word document : String) :
    (t.add category word document).Consistent := by
  obtain ⟨e, he, -, hadd⟩ := c.add_eq category word document
  rw [hadd]
  exact (c.insertEntry _ _).insertDocument he document

theorem remove (c : t.Consistent) (document : String) : (t.remove document).2.Consistent where
  ids := c.ids.sublist List.filter_sublist
  keys_nodup := (List.filter_sublist.map _).nodup c.keys_nodup
  owned := by
    intro d hd
    obtain ⟨e, he, hid⟩ := c.owned d (List.mem_of_mem_filter hd)
    refine ⟨e, List.mem_filter.2 ⟨he, ?_⟩, hid⟩
    exact List.any_eq_true.2 ⟨d, hd, by simpa using hid.symm⟩
  recorded := c.recorded.sublist List.filter_sublist

/-- The order of the numbers is that of the rows. -/
theorem rows_eq (c : t.Consistent) (categories : List Category) :
    t.rows categories = t.entries.filter fun e => categories.any (·.tag == e.category) := by
  refine List.mergeSort_of_pairwise ((c.ids.imp ?_).sublist List.filter_sublist)
  intro e e' hlt
  exact decide_eq_true (Nat.le_of_lt hlt)

/-- The rows of one entry are in the order of their positions. -/
theorem pairwise_position (c : t.Consistent) (entry : Nat) :
    (t.documentRows entry).Pairwise fun d d' => d.position < d'.position := by
  refine (c.recorded.sublist List.filter_sublist).imp_of_mem ?_
  intro d d' hd hd' hordered
  have hentry := List.of_mem_filter hd
  have hentry' := List.of_mem_filter hd'
  simp only [beq_iff_eq] at hentry hentry'
  exact (hordered (hentry.trans hentry'.symm)).2

/-- The documents of an entry are in the order of its rows. -/
theorem documentsOf_eq (c : t.Consistent) (entry : Nat) :
    t.documentsOf entry = (t.documentRows entry).map (·.document) := by
  rw [documentsOf, List.mergeSort_of_pairwise]
  apply (c.pairwise_position entry).imp
  intro d d' hlt
  exact decide_eq_true (Nat.le_of_lt hlt)

end Consistent

end Tables

end SymbolIndex
