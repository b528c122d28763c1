import SymbolIndex.Store.Memory

/-!
# The entries of an index

What an index holds, whatever keeps it: its entries in the order in which they were created, each a
category with a record. Adding a word, removing a document and answering a call are described here
on the entries alone. No entry has the category and word of another one, which every change keeps.
-/

namespace SymbolIndex

/-- The entries of an index in the order of their creation. -/
abbrev Entries := List (Category × Record)

namespace Entries

variable {es : Entries} {e : Category × Record} {k : Category × String}
variable {document d : String}

/-- The category and the word of an entry. -/
def key (e : Category × Record) : Category × String := (e.1, e.2.word)

/-- The categories and words of all entries. -/
def keys (es : Entries) : List (Category × String) := es.map key

/-- An entry that a further document contributes. -/
def extend (document : String) (e : Category × Record) : Category × Record :=
  (e.1, e.2.addDocument document)

/-- An entry without a document. -/
def shrink (document : String) (e : Category × Record) : Category × Record :=
  (e.1, e.2.dropDocument document)

/-- Notes that a document contributes a word: in the entry of the word, or in a new one. -/
def add (es : Entries) (k : Category × String) (document : String) : Entries :=
  if k ∈ keys es then es.map fun e => if key e = k then extend document e else e
  else es ++ [(k.1, ⟨k.2, [document]⟩)]

/-- Takes a document out of all entries and drops those that are left without documents. -/
def remove (es : Entries) (document : String) : Entries :=
  (es.map (shrink document)).filter fun e => !e.2.documents.isEmpty

/-- The records that are kept under some categories. -/
def records (es : Entries) (categories : List Category) : List Record :=
  (es.filter fun e => categories.contains e.1).map (·.2)

/-- Answers a call. -/
def answer [Regex.Limit] (es : Entries) (c : Call) : Except Failure (List Record) :=
  (WordFilter.ofQuery c.query).map fun f =>
    (es.records c.categories).filter fun r => f.accepts r.word

theorem mem_keys : k ∈ keys es ↔ ∃ e ∈ es, key e = k := by
  simp only [keys, List.mem_map]

theorem key_mem_keys (h : e ∈ es) : key e ∈ keys es := mem_keys.2 ⟨e, h, rfl⟩

@[simp] theorem key_shrink (e : Category × Record) : key (shrink document e) = key e := rfl

@[simp] theorem documents_shrink (e : Category × Record) :
    (shrink document e).2.documents = e.2.documents.filter (· != document) := rfl

theorem extend_eq (e : Category × Record) :
    extend document e = (e.1, ⟨e.2.word,
      if document ∈ e.2.documents then e.2.documents else e.2.documents ++ [document]⟩) := by
  simp only [extend, Record.addDocument, Record.hasDocument, List.contains_iff_mem]
  split <;> rfl

theorem documents_extend (e : Category × Record) :
    (extend document e).2.documents =
      if document ∈ e.2.documents then e.2.documents else e.2.documents ++ [document] := by
  rw [extend_eq]

@[simp] theorem key_extend (e : Category × Record) : key (extend document e) = key e := by
  rw [extend_eq]
  rfl

/-- Extending one entry among others changes no key. -/
theorem key_ite_extend (e : Category × Record) :
    key (if key e = k then extend document e else e) = key e := by
  split
  · exact key_extend e
  · rfl

/-- An entry with a further document names that document and those that it named before. -/
theorem mem_documents_extend :
    d ∈ (extend document e).2.documents ↔ d = document ∨ d ∈ e.2.documents := by
  rw [documents_extend]
  split
  · rename_i h
    constructor
    · exact Or.inr
    · rintro (rfl | hd)
      · exact h
      · exact hd
  · rw [List.mem_append, List.mem_singleton, or_comm]

theorem add_of_mem (h : k ∈ keys es) :
    add es k document = es.map fun e => if key e = k then extend document e else e :=
  if_pos h

theorem add_of_notMem (h : k ∉ keys es) :
    add es k document = es ++ [(k.1, ⟨k.2, [document]⟩)] :=
  if_neg h

/-- A known word leaves the keys as they are, and a new one comes last. -/
theorem keys_add :
    keys (add es k document) = if k ∈ keys es then keys es else keys es ++ [k] := by
  split
  · rename_i h
    rw [add_of_mem h, keys, List.map_map, keys]
    exact List.map_congr_left fun e _ => key_ite_extend e
  · rename_i h
    rw [add_of_notMem h, keys, List.map_append]
    rfl

/-- An addition gives no entry the key of another one. -/
theorem nodup_keys_add (h : (keys es).Nodup) : (keys (add es k document)).Nodup := by
  rw [keys_add]
  split
  · exact h
  · rename_i hk
    refine List.nodup_append.2 ⟨h, List.pairwise_singleton _ _, ?_⟩
    rintro k' hk' _ hlast rfl
    exact hk (List.mem_singleton.1 hlast ▸ hk')

theorem mem_remove :
    e ∈ remove es document ↔ ∃ e' ∈ es, shrink document e' = e ∧ e.2.documents ≠ [] := by
  simp only [remove, List.mem_filter, List.mem_map, Bool.not_eq_eq_eq_not, Bool.not_true,
    List.isEmpty_eq_false_iff]
  constructor
  · rintro ⟨⟨e', he', rfl⟩, hne⟩
    exact ⟨e', he', rfl, hne⟩
  · rintro ⟨e', he', rfl, hne⟩
    exact ⟨⟨e', he', rfl⟩, hne⟩

/-- A removal creates no entry and keeps the order of those that stay. -/
theorem keys_remove_sublist : (keys (remove es document)).Sublist (keys es) := by
  have h : (remove es document).Sublist (es.map (shrink document)) := List.filter_sublist
  have hk := h.map key
  rwa [List.map_map] at hk

theorem nodup_keys_remove (h : (keys es).Nodup) : (keys (remove es document)).Nodup :=
  keys_remove_sublist.nodup h

end Entries

end SymbolIndex
