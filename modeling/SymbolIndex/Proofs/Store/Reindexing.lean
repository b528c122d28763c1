import SymbolIndex.Proofs.Store.Database

/-!
# Indexing a document again

A document is indexed again by taking it out of the index and adding it to all words that it
contributed, in the order of their entries. Nothing is lost by that: every entry of another document
stays where it was and gets the document back behind the others, and the entries of this document
alone, which were dropped, are made anew behind all others in their old order.
-/

namespace SymbolIndex

namespace Entries

variable {es : Entries} {e : Category × Record} {d : String} {h : List Change}

/-- The categories and words of the entries that a document contributes, in the order of the
entries. -/
def keysOf (es : Entries) (d : String) : List (Category × String) :=
  keys (es.filter (·.2.hasDocument d))

/-- The changes that index a document again. -/
def reindexing (es : Entries) (d : String) : List Change :=
  .remove d :: (es.keysOf d).map fun k => .add k.1 k.2 d

/-- An entry with a document at the end of its documents, if it is one of them. -/
def putLast (d : String) (e : Category × Record) : Category × Record :=
  (e.1, ⟨e.2.word, e.2.documents.filter (· != d) ++ if d ∈ e.2.documents then [d] else []⟩)

/-- Entries after a document has been indexed again. -/
structure Reindexed (d : String) (es es' : Entries) : Prop where
  keys_perm : (keys es').Perm (keys es)
  documents_perm : ∀ e ∈ es, ∀ e' ∈ es', key e' = key e → e'.2.documents.Perm e.2.documents
  /-- The document comes last in each of its entries, and the others keep their order. -/
  documents_eq : ∀ e ∈ es, ∀ e' ∈ es', key e' = key e → e'.2.documents =
    e.2.documents.filter (· != d) ++ if d ∈ e.2.documents then [d] else []
  /-- The entries of the document alone come behind all others, both parts in their old order. -/
  keys_eq : keys es' = keys (es.filter fun e => e.2.documents ≠ [d]) ++
    keys (es.filter fun e => e.2.documents = [d])

/-- Where no two entries share a key, a selection of entries has the keys of these entries only. -/
theorem key_mem_keys_filter (hnodup : (keys es).Nodup) (he : e ∈ es)
    (p : Category × Record → Bool) : key e ∈ keys (es.filter p) ↔ p e := by
  constructor
  · intro hk
    obtain ⟨e', he', hkey⟩ := mem_keys.1 hk
    obtain ⟨hmem, hp⟩ := List.mem_filter.1 he'
    rwa [← List.inj_on_of_nodup_map hnodup hmem he hkey]
  · exact fun hp => key_mem_keys (List.mem_filter.2 ⟨he, hp⟩)

theorem filter_keys (es : Entries) (p : Category × String → Bool) :
    (keys es).filter p = keys (es.filter fun e => p (key e)) :=
  List.filter_map

/-- Adding a document to distinct words extends the entries of these words, and makes entries for
those that have none. -/
theorem foldl_add {ks : List (Category × String)} (hks : ks.Nodup) (es : Entries) :
    ks.foldl (fun es k => es.add k d) es =
      (es.map fun e => if key e ∈ ks then extend d e else e) ++
        (ks.filter (· ∉ keys es)).map fun k => (k.1, ⟨k.2, [d]⟩) := by
  induction ks generalizing es with
  | nil => simp
  | cons k ks ih =>
    obtain ⟨hfresh, hks⟩ := List.nodup_cons.1 hks
    rw [List.foldl_cons, ih hks, keys_add]
    by_cases hk : k ∈ keys es
    · rw [add_of_mem hk, if_pos hk, List.filter_cons_of_neg (by simpa using hk), List.map_map]
      congr 1
      refine List.map_congr_left ?_
      intro e _
      by_cases hkey : key e = k
      · subst hkey
        simp [hfresh]
      · simp [hkey]
    · rw [add_of_notMem hk, if_neg hk, List.filter_cons_of_pos (by simpa using hk), List.map_cons,
        List.map_append, List.append_assoc]
      congr 1
      · refine List.map_congr_left ?_
        intro e he
        have hkey : key e ≠ k := fun heq => hk (heq ▸ key_mem_keys he)
        simp [hkey]
      · have hsame : ks.filter (· ∉ keys es ++ [k]) = ks.filter (· ∉ keys es) := by
          refine List.filter_congr ?_
          intro k' hk'
          have hne : k' ≠ k := fun heq => hfresh (heq ▸ hk')
          simp [hne]
        rw [hsame]
        simp [key, hfresh]

theorem keys_map_putLast (es : Entries) : keys (es.map (putLast d)) = keys es := by
  rw [keys, List.map_map]
  rfl

theorem documents_putLast_perm (hnodup : e.2.documents.Nodup) :
    (putLast d e).2.documents.Perm e.2.documents := by
  have hputLast : (putLast d e).2.documents = e.2.documents.erase d ++
      if d ∈ e.2.documents then [d] else [] := by
    rw [hnodup.erase_eq_filter]
    rfl
  rw [hputLast]
  split
  · rename_i hd
    exact (List.perm_append_singleton d _).trans (List.perm_cons_erase hd).symm
  · rename_i hd
    rw [List.append_nil, List.erase_of_not_mem hd]

theorem extend_shrink (h : d ∈ e.2.documents) : extend d (shrink d e) = putLast d e := by
  rw [extend_eq, putLast, if_pos h]
  simp [shrink, Record.dropDocument]

theorem shrink_of_notMem (h : d ∉ e.2.documents) : shrink d e = putLast d e := by
  rw [putLast, if_neg h, List.append_nil]
  rfl

namespace Reflects

theorem key_mem_keysOf (r : es.Reflects h) (he : e ∈ es) :
    key e ∈ es.keysOf d ↔ d ∈ e.2.documents := by
  rw [keysOf, key_mem_keys_filter r.keys_nodup he, Record.hasDocument, List.contains_iff_mem]

/-- A removal drops the entries of the document alone and takes it out of the others. -/
theorem remove_eq (r : es.Reflects h) (d : String) :
    es.remove d = (es.filter fun e => e.2.documents ≠ [d]).map (shrink d) := by
  rw [Entries.remove, List.filter_map]
  congr 1
  refine List.filter_congr ?_
  intro e he
  rw [Bool.eq_iff_iff]
  simpa using not_congr (r.shrink_isEmpty_iff he d)

theorem key_mem_keys_remove (r : es.Reflects h) (he : e ∈ es) :
    key e ∈ keys (es.remove d) ↔ e.2.documents ≠ [d] := by
  have hkeys : keys (es.remove d) = keys (es.filter fun e => e.2.documents ≠ [d]) := by
    rw [r.remove_eq, keys, List.map_map]
    rfl
  rw [hkeys, key_mem_keys_filter r.keys_nodup he, decide_eq_true_eq]

/-- The words that have no entry after the removal are those of the document alone. -/
theorem filter_keysOf (r : es.Reflects h) (d : String) :
    (es.keysOf d).filter (· ∉ keys (es.remove d)) =
      keys (es.filter fun e => e.2.documents = [d]) := by
  rw [keysOf, filter_keys, List.filter_filter]
  refine congrArg keys (List.filter_congr ?_)
  intro e he
  have hstays : key e ∈ keys (es.remove d) ↔ e.2.documents ≠ [d] := r.key_mem_keys_remove he
  by_cases hd : e.2.documents = [d]
  · simp [hstays, hd, Record.hasDocument]
  · simp [hstays, hd]

/-- After a document has been indexed again it comes last in its entries, and those that it alone
contributes come last. -/
theorem foldl_reindexing (r : es.Reflects h) (d : String) :
    (es.reindexing d).foldl Entries.apply es =
      (es.filter (fun e => e.2.documents ≠ [d]) ++
        es.filter fun e => e.2.documents = [d]).map (putLast d) := by
  have hnodup : (es.keysOf d).Nodup := (List.filter_sublist.map key).nodup r.keys_nodup
  have hfoldl : (es.reindexing d).foldl Entries.apply es =
      (es.keysOf d).foldl (fun es k => es.add k d) (es.remove d) := by
    rw [reindexing, List.foldl_cons, List.foldl_map]
    rfl
  rw [hfoldl, foldl_add hnodup, r.filter_keysOf, r.remove_eq, List.map_map, List.map_append, keys,
    List.map_map]
  congr 1
  · refine List.map_congr_left ?_
    intro e he
    have hmem := r.key_mem_keysOf (d := d) (List.mem_of_mem_filter he)
    by_cases hd : d ∈ e.2.documents
    · rw [Function.comp_apply, key_shrink, if_pos (hmem.2 hd), extend_shrink hd]
    · rw [Function.comp_apply, key_shrink, if_neg (mt hmem.1 hd), shrink_of_notMem hd]
  · refine List.map_congr_left ?_
    intro e he
    have hd : e.2.documents = [d] := by simpa using (List.mem_filter.1 he).2
    simp [putLast, key, hd]

example :
    let es : Entries := [(.type, ⟨"Widget", ["w.js", "b.js"]⟩), (.type, ⟨"Window", ["w.js"]⟩),
      (.type, ⟨"Button", ["b.js"]⟩)]
    (es.reindexing "w.js").foldl Entries.apply es =
      [(.type, ⟨"Widget", ["b.js", "w.js"]⟩), (.type, ⟨"Button", ["b.js"]⟩),
        (.type, ⟨"Window", ["w.js"]⟩)] := by decide

/-- Indexing a document again loses nothing. -/
theorem reindexed (r : es.Reflects h) (d : String) :
    Reindexed d es ((es.reindexing d).foldl Entries.apply es) := by
  have hperm : (es.filter (fun e => e.2.documents ≠ [d]) ++
      es.filter fun e => e.2.documents = [d]).Perm es := by
    have hsplit := List.filter_append_perm (fun e => decide (e.2.documents ≠ [d])) es
    simpa using hsplit
  have hdocuments : ∀ e ∈ es, ∀ e' ∈ (es.reindexing d).foldl Entries.apply es, key e' = key e →
      e' = putLast d e := by
    intro e he e' he' hkey
    rw [r.foldl_reindexing] at he'
    obtain ⟨e₁, he₁, rfl⟩ := List.mem_map.1 he'
    rw [List.inj_on_of_nodup_map r.keys_nodup (hperm.mem_iff.1 he₁) he hkey]
  constructor
  case keys_perm =>
    rw [r.foldl_reindexing, keys_map_putLast]
    exact hperm.map key
  case documents_perm =>
    intro e he e' he' hkey
    rw [hdocuments e he e' he' hkey]
    exact documents_putLast_perm (r.documents_nodup he)
  case documents_eq =>
    intro e he e' he' hkey
    rw [hdocuments e he e' he' hkey]
    rfl
  case keys_eq =>
    rw [r.foldl_reindexing, keys_map_putLast]
    exact List.map_append

end Reflects

end Entries

namespace Database

open Entries

/-- After any changes to an index in memory, and after steps on a database that make these changes,
a document may be indexed again: both then hold one and the same entries, which are those from
before but for their order and that of their documents. -/
theorem reindexing_keeps_entries (h : List Change) (d : String) :
    let s := (MemoryStore.empty.run h).2
    let s' := (s.run (reindexing s.entries.toList d)).2
    Reindexed d s.entries.toList s'.entries.toList ∧ s'.Holds s'.entries.toList ∧
      ∀ steps : List Step, steps.flatMap Step.changes = h →
        ∃ replies db, Database.empty.run (.reopen :: steps) = .ok (replies, db) ∧
          db.Holds s.entries.toList ∧
          ∀ later : List Step, later.flatMap Step.changes = reindexing s.entries.toList d →
            ∃ replies' db', db.run later = .ok (replies', db') ∧
              db'.Holds s'.entries.toList := by
  intro s s'
  have hentries : s.entries.toList = ofHistory h := (MemoryStore.holds_ofHistory h).entries_eq
  have hs : s.Holds s.entries.toList := by
    rw [hentries]
    exact MemoryStore.holds_ofHistory h
  have hr : Reflects h s.entries.toList := by
    rw [hentries]
    exact reflects_ofHistory h
  have hs' : s'.Holds ((reindexing s.entries.toList d).foldl Entries.apply s.entries.toList) :=
    hs.run _
  rw [hs'.entries_eq]
  refine ⟨hr.reindexed d, hs', ?_⟩
  rintro steps rfl
  obtain ⟨db, hrun, hd⟩ := Holds.run_empty steps
  rw [← hentries] at hd
  refine ⟨_, db, hrun, hd, ?_⟩
  intro later hlater
  obtain ⟨db', hrun', hd'⟩ := hd.run hs later
  rw [hlater] at hrun' hd'
  exact ⟨_, db', hrun', hd'⟩

end Database

end SymbolIndex
