import SymbolIndex.Proofs.Store.History

/-!
# The index in memory and its history

The array of an index in memory holds the entries that its history asks for, and the map of places
leads to them. The map is only ever right together with the array: an addition trusts it to find the
entry of a word, and a removal makes it anew from the entries that are left.
-/

namespace SymbolIndex

namespace MemoryStore

open Entries

variable {s : MemoryStore} {es : Entries} {k : Category × String} {document : String} {i : Nat}

/-- The index holds the given entries, each under a key of its own, and the map of places leads from
a category and a word to the place of their entry. -/
structure Holds (s : MemoryStore) (es : Entries) : Prop where
  entries_eq : s.entries.toList = es
  keys_nodup : (keys es).Nodup
  places : ∀ k i, s.positions[k]? = some i ↔ s.entries[i]?.map key = some k

/-- The map that takes over the places of entries from a place on. -/
private theorem getElem?_foldl_insert (es : Entries) (hnodup : (keys es).Nodup) (n : Nat)
    (m : Std.HashMap (Category × String) Nat) :
    ((es.zipIdx n).foldl (fun m e => m.insert (e.1.1, e.1.2.word) e.2) m)[k]? =
      if k ∈ keys es then some (n + (keys es).idxOf k) else m[k]? := by
  induction es generalizing n m with
  | nil => simp [keys]
  | cons e es ih =>
    obtain ⟨hfresh, hnodup⟩ : key e ∉ keys es ∧ (keys es).Nodup := List.nodup_cons.1 hnodup
    have hkeys : keys (e :: es) = key e :: keys es := rfl
    rw [List.zipIdx_cons, List.foldl_cons, ih hnodup, Std.HashMap.getElem?_insert, hkeys]
    change (if _ then _ else if (key e == k) = true then _ else _) = _
    by_cases hk : k ∈ keys es
    · have hne : key e ≠ k := fun heq => hfresh (heq ▸ hk)
      rw [if_pos hk, if_pos (List.mem_cons_of_mem _ hk), List.idxOf_cons_ne _ hne]
      congr 1
      omega
    · rw [if_neg hk]
      by_cases heq : key e = k
      · subst heq
        simp
      · have hnot : k ∉ key e :: keys es := by
          rw [List.mem_cons, not_or]
          exact ⟨Ne.symm heq, hk⟩
        rw [if_neg hnot, if_neg (by simpa using heq)]

/-- Among distinct keys the place of one is the only place that holds it. -/
private theorem keys_getElem?_eq_some_iff (hnodup : (keys es).Nodup) :
    (keys es)[i]? = some k ↔ k ∈ keys es ∧ (keys es).idxOf k = i := by
  constructor
  · intro h
    obtain ⟨hi, rfl⟩ := List.getElem?_eq_some_iff.1 h
    exact ⟨List.getElem_mem hi, hnodup.idxOf_getElem i hi⟩
  · rintro ⟨hk, rfl⟩
    exact List.getElem?_idxOf hk

/-- The map made anew from entries with distinct keys leads to their places. -/
theorem positionsOf_eq_some_iff (entries : Array (Category × Record))
    (hnodup : (keys entries.toList).Nodup) :
    (positionsOf entries)[k]? = some i ↔ entries[i]?.map key = some k := by
  have hkeys : entries[i]?.map key = (keys entries.toList)[i]? := by
    rw [keys, List.getElem?_map, Array.getElem?_toList]
  rw [positionsOf, getElem?_foldl_insert _ hnodup, hkeys, keys_getElem?_eq_some_iff hnodup]
  by_cases hk : k ∈ keys entries.toList
  · simp [hk]
  · simp [hk]

namespace Holds

theorem empty : Holds empty [] where
  entries_eq := rfl
  keys_nodup := List.nodup_nil
  places := by simp [MemoryStore.empty]

/-- The map knows the words that have an entry. -/
theorem positions_eq_none (hs : s.Holds es) (hk : k ∉ keys es) : s.positions[k]? = none := by
  refine Option.eq_none_iff_forall_ne_some.2 ?_
  intro i hi
  obtain ⟨e, he, hkey⟩ := Option.map_eq_some_iff.1 ((hs.places k i).1 hi)
  have hmem : e ∈ es := by
    rw [← hs.entries_eq]
    exact Array.mem_toList_iff.2 (Array.mem_of_getElem? he)
  exact hk (hkey ▸ key_mem_keys hmem)

theorem exists_position (hs : s.Holds es) (hk : k ∈ keys es) : ∃ i, s.positions[k]? = some i := by
  obtain ⟨e, he, rfl⟩ := mem_keys.1 hk
  rw [← hs.entries_eq, Array.mem_toList_iff] at he
  obtain ⟨i, hi⟩ := Array.getElem?_of_mem he
  exact ⟨i, (hs.places _ i).2 (by rw [hi]; rfl)⟩

/-- Changing the entry at the place of a key changes the entry with the key. -/
theorem toList_modify (hs : s.Holds es) (hi : s.positions[k]? = some i) (document : String) :
    (s.entries.modify i (extend document)).toList =
      es.map fun e => if key e = k then extend document e else e := by
  refine List.ext_getElem? ?_
  intro j
  have hj : es[j]? = s.entries[j]? := by rw [← hs.entries_eq, Array.getElem?_toList]
  rw [Array.getElem?_toList, Array.getElem?_modify, List.getElem?_map, hj]
  cases he : s.entries[j]? with
  | none => simp
  | some e =>
    have hkey : key e = k ↔ i = j := by
      have hplace := (hs.places (key e) j).2 (by rw [he]; rfl)
      constructor
      · rintro rfl
        exact Option.some.inj (hi.symm.trans hplace)
      · rintro rfl
        have hk := (hs.places k i).1 hi
        rw [he] at hk
        exact Option.some.inj hk
    by_cases hij : i = j
    · simp [hij, hkey]
    · simp [hij, hkey]

/-- A word that has an entry is added to it, and the keys stay where they are. -/
private theorem add_known (hs : s.Holds es) (hk : k ∈ keys es) (document : String) :
    (s.add k.1 k.2 document).Holds (es.add k document) := by
  obtain ⟨i, hi⟩ := hs.exists_position hk
  have hadd : s.add k.1 k.2 document =
      { s with entries := s.entries.modify i (extend document) } := by
    simp only [MemoryStore.add, hi]
    rfl
  rw [hadd]
  refine ⟨(hs.toList_modify hi document).trans (add_of_mem hk).symm,
    nodup_keys_add hs.keys_nodup, ?_⟩
  intro k' j
  rw [hs.places, Array.getElem?_modify]
  split
  · rw [Option.map_map]
    exact iff_of_eq (congrArg (· = some k') (Option.map_congr fun e _ => (key_extend e).symm))
  · rfl

/-- A new entry comes last, and the map leads to the end for its word alone. -/
private theorem add_new (hs : s.Holds es) (hk : k ∉ keys es) (document : String) :
    (s.add k.1 k.2 document).Holds (es.add k document) := by
  have hnone := hs.positions_eq_none hk
  have hadd : s.add k.1 k.2 document =
      { entries := s.entries.push (k.1, ⟨k.2, [document]⟩)
        positions := s.positions.insert k s.entries.size } := by
    simp only [MemoryStore.add, hnone]
  rw [hadd]
  refine ⟨?_, nodup_keys_add hs.keys_nodup, ?_⟩
  · rw [Array.toList_push, hs.entries_eq, add_of_notMem hk]
  · intro k' j
    have hbefore : s.entries[j]?.map key ≠ some k := by
      rw [ne_eq, ← hs.places, hnone]
      exact nofun
    have hbeyond : s.positions[k']? ≠ some s.entries.size := by
      rw [ne_eq, hs.places, Array.getElem?_eq_none (Nat.le_refl _)]
      exact nofun
    rw [Std.HashMap.getElem?_insert, Array.getElem?_push]
    by_cases hkey : k = k'
    · subst hkey
      by_cases hj : j = s.entries.size
      · simp [hj, key]
      · simp [hj, hbefore, Ne.symm hj]
    · by_cases hj : j = s.entries.size
      · simpa [hj, hkey, key] using hbeyond
      · simp [hj, hkey, hs.places]

/-- An addition to the index adds to its entries. -/
theorem add (hs : s.Holds es) (category : Category) (word document : String) :
    (s.add category word document).Holds (es.add (category, word) document) := by
  by_cases hk : (category, word) ∈ keys es
  · exact hs.add_known hk document
  · exact hs.add_new hk document

/-- A removal from the index removes from its entries. -/
theorem remove (hs : s.Holds es) (document : String) :
    (s.remove document).2.Holds (es.remove document) := by
  have hlist : (s.remove document).2.entries.toList = es.remove document := by
    rw [MemoryStore.remove, Array.toList_filter, Array.toList_map, hs.entries_eq]
    rfl
  have hnodup : (keys (es.remove document)).Nodup := nodup_keys_remove hs.keys_nodup
  refine ⟨hlist, hnodup, ?_⟩
  intro k i
  exact positionsOf_eq_some_iff _ (hlist ▸ hnodup)

/-- A removal replies with the number of entries that it drops. -/
theorem remove_reply (hs : s.Holds es) (document : String) :
    (s.remove document).1 = es.length - (es.remove document).length := by
  have hlist := (hs.remove document).entries_eq
  rw [← hlist, ← hs.entries_eq]
  rfl

/-- Calls are answered from the entries. -/
theorem answer_eq [Regex.Limit] (hs : s.Holds es) (c : Call) : s.answer c = es.answer c := by
  rw [← hs.entries_eq]
  rfl

theorem size_eq (hs : s.Holds es) : s.size = es.length := by
  rw [← hs.entries_eq]
  exact Array.length_toList.symm

end Holds

/-- Whatever it holds, an index in memory answers from its own records. -/
theorem answer_subset [Regex.Limit] {c : Call} {rs : List Record} (h : s.answer c = .ok rs) :
    rs ⊆ s.records c.categories := by
  rw [answer] at h
  cases hf : WordFilter.ofQuery c.query with
  | error failure =>
    rw [hf] at h
    cases h
  | ok f =>
    rw [hf] at h
    cases h
    exact List.filter_sublist.subset

/-- Makes the changes of a history. The replies are those of the removals, each the number of
entries that the removal drops. -/
def run (s : MemoryStore) : List Change → List Nat × MemoryStore
  | [] => ([], s)
  | .add category word document :: h => (s.add category word document).run h
  | .remove document :: h =>
    let (dropped, s) := s.remove document
    let (replies, s) := s.run h
    (dropped :: replies, s)

theorem run_remove (s : MemoryStore) (document : String) (h : List Change) :
    s.run (.remove document :: h) =
      ((s.remove document).1 :: ((s.remove document).2.run h).1,
        ((s.remove document).2.run h).2) :=
  rfl

/-- A run makes the same changes to the entries. -/
theorem Holds.run (hs : s.Holds es) (h : List Change) :
    (s.run h).2.Holds (h.foldl Entries.apply es) := by
  induction h generalizing s es with
  | nil => exact hs
  | cons x h ih =>
    cases x with
    | add category word document => exact ih (hs.add category word document)
    | remove document => exact ih (hs.remove document)

/-- The index that a history leaves. -/
theorem holds_ofHistory (h : List Change) : (empty.run h).2.Holds (ofHistory h) :=
  Holds.empty.run h

/-- A history in two parts is run part by part. -/
theorem run_append (s : MemoryStore) (h h' : List Change) :
    s.run (h ++ h') = ((s.run h).1 ++ ((s.run h).2.run h').1, ((s.run h).2.run h').2) := by
  induction h generalizing s with
  | nil => rfl
  | cons x h ih =>
    cases x with
    | add category word document => exact ih _
    | remove document =>
      rw [List.cons_append, run_remove, ih]
      rfl

/-- A history determines the index that it leaves: which words have entries, which documents each
entry names, both orders, the map of places, and the reply of a removal that comes next. -/
theorem run_reflects (h : List Change) :
    Reflects h (empty.run h).2.entries.toList ∧
      (∀ es, Reflects h es → es = (empty.run h).2.entries.toList) ∧
      (∀ e ∈ (empty.run h).2.entries, e.2.documents.Nodup) ∧
      (∀ k i, (empty.run h).2.positions[k]? = some i ↔
        (empty.run h).2.entries[i]?.map key = some k) ∧
      ∀ document, (empty.run (h ++ [.remove document])).1 = (empty.run h).1 ++
        [(empty.run h).2.entries.toList.countP fun e => e.2.documents = [document]] := by
  have hs := holds_ofHistory h
  have hr : Reflects h (empty.run h).2.entries.toList := hs.entries_eq ▸ reflects_ofHistory h
  refine ⟨hr, ?_, ?_, hs.places, ?_⟩
  · intro es hes
    exact hes.unique hr
  · intro e he
    exact hr.documents_nodup (Array.mem_toList_iff.2 he)
  · intro document
    rw [run_append, ← hr.length_sub_length_remove, hs.entries_eq, ← hs.remove_reply]
    rfl

end MemoryStore

end SymbolIndex
