import Mathlib.Data.List.Induction
import Mathlib.Data.List.Nodup
import SymbolIndex.Proofs.Store.Entries

/-!
# What a history leaves behind

A history is the row of changes that were made to an empty index. The notions here speak of the
history alone, for a category and a word: a document contributes the word when the last change that
concerns the two is an addition, it joined with the first addition after its last removal, and the
word's entry was created by the last change before which no document contributed the word and after
which one did.

`Entries.Reflects` says that entries are what these notions make of a history, and
`Entries.reflects_ofHistory` that making the changes one after another leads to such entries.
-/

namespace SymbolIndex

/-- A change of what an index holds. -/
inductive Change where
  /-- A document contributes a word. -/
  | add (category : Category) (word document : String)
  /-- A document is taken out of all entries. -/
  | remove (document : String)
  deriving Repr, DecidableEq

namespace Change

variable {h : List Change} {x : Change} {k k' : Category × String} {document d : String}

/-- Whether the last change among the additions of a word by a document and the removals of the
document is an addition. -/
def Contributes (h : List Change) (k : Category × String) (document : String) : Prop :=
  (h.filter fun x => x = add k.1 k.2 document ∨ x = remove document).getLast? =
    some (add k.1 k.2 document)

/-- Whether some document contributes a word. -/
def Held (h : List Change) (k : Category × String) : Prop := ∃ document, Contributes h k document

/-- The changes after the last removal of a document. -/
def sinceRemoval (h : List Change) (document : String) : List Change :=
  (h.reverse.takeWhile (· ≠ remove document)).reverse

/-- The place in the history of the first addition of a word by a document after the last removal
of the document. -/
def joinedAt (h : List Change) (k : Category × String) (document : String) : Nat :=
  h.length - (sinceRemoval h document).length +
    (sinceRemoval h document).idxOf (add k.1 k.2 document)

/-- Whether a word is held after the change at a place and was not before it. -/
def Creates (h : List Change) (k : Category × String) (i : Nat) : Prop :=
  i < h.length ∧ ¬ Held (h.take i) k ∧ Held (h.take (i + 1)) k

/-- Whether the change at a place is the last one that creates the entry of a word. -/
def LastCreates (h : List Change) (k : Category × String) (i : Nat) : Prop :=
  Creates h k i ∧ ∀ j, Creates h k j → j ≤ i

@[simp] theorem not_contributes_nil : ¬ Contributes [] k document := by
  simp [Contributes]

theorem contributes_append :
    Contributes (h ++ [x]) k document ↔
      x = add k.1 k.2 document ∨ Contributes h k document ∧ x ≠ remove document := by
  simp only [Contributes, List.filter_append, List.filter_cons, List.filter_nil, decide_eq_true_eq]
  by_cases ha : x = add k.1 k.2 document
  · simp [ha]
  by_cases hr : x = remove document
  · simp [hr]
  · simp [ha, hr]

/-- An addition makes its document contribute its word and changes nothing else. -/
theorem contributes_append_add :
    Contributes (h ++ [add k.1 k.2 document]) k' d ↔
      (k' = k ∧ d = document) ∨ Contributes h k' d := by
  have hne : add k.1 k.2 document ≠ remove d := nofun
  rw [contributes_append, and_iff_left hne, add.injEq]
  apply or_congr_left
  constructor
  · rintro ⟨hc, hw, rfl⟩
    exact ⟨Prod.ext hc.symm hw.symm, rfl⟩
  · rintro ⟨rfl, rfl⟩
    exact ⟨rfl, rfl, rfl⟩

/-- A removal takes its document from every word. -/
theorem contributes_append_remove :
    Contributes (h ++ [remove document]) k d ↔ Contributes h k d ∧ d ≠ document := by
  have hne : remove document ≠ add k.1 k.2 d := nofun
  rw [contributes_append, or_iff_right hne, ne_eq, remove.injEq, eq_comm]

/-- A document that contributes a word after further changes did so before, or has been added by
one of them. -/
theorem Contributes.of_append {xs : List Change} (hc : Contributes (h ++ xs) k document) :
    Contributes h k document ∨ add k.1 k.2 document ∈ xs := by
  induction xs using List.reverseRec with
  | nil => exact Or.inl (by simpa using hc)
  | append_singleton xs x ih =>
    rw [← List.append_assoc, contributes_append] at hc
    rcases hc with rfl | ⟨hc, -⟩
    · exact Or.inr (by simp)
    · exact (ih hc).imp_right (List.mem_append_left [x])

/-- An addition makes its word held and takes no other word away. -/
theorem held_append_add :
    Held (h ++ [add k.1 k.2 document]) k' ↔ k' = k ∨ Held h k' := by
  simp only [Held, contributes_append_add, exists_or, exists_and_left, exists_eq, and_true]

theorem sinceRemoval_append :
    sinceRemoval (h ++ [x]) document =
      if x = remove document then [] else sinceRemoval h document ++ [x] := by
  simp only [sinceRemoval, List.reverse_append, List.reverse_cons, List.reverse_nil,
    List.nil_append, List.singleton_append, List.takeWhile_cons, decide_not]
  by_cases hr : x = remove document
  · simp [hr]
  · simp [hr]

theorem length_sinceRemoval_le (h : List Change) (document : String) :
    (sinceRemoval h document).length ≤ h.length := by
  have hle := (List.takeWhile_sublist (l := h.reverse) (· ≠ remove document)).length_le
  rw [List.length_reverse] at hle
  rwa [sinceRemoval, List.length_reverse]

/-- A document contributes a word exactly when it has added the word since its last removal. -/
theorem contributes_iff_mem :
    Contributes h k document ↔ add k.1 k.2 document ∈ sinceRemoval h document := by
  induction h using List.reverseRec with
  | nil => simp [sinceRemoval]
  | append_singleton h x ih =>
    rw [contributes_append, sinceRemoval_append, ih]
    by_cases hr : x = remove document
    · simp [hr]
    · rw [if_neg hr, List.mem_append, List.mem_singleton, eq_comm, or_comm, and_iff_left hr]

/-- A document that joins by the last change joins behind all changes before it. -/
theorem joinedAt_append_self (hc : ¬ Contributes h k document) :
    joinedAt (h ++ [add k.1 k.2 document]) k document = h.length := by
  rw [contributes_iff_mem] at hc
  have hle := length_sinceRemoval_le h document
  rw [joinedAt, sinceRemoval_append, if_neg (by simp), List.idxOf_append_of_notMem hc]
  simp only [List.length_append, List.length_cons, List.length_nil, List.idxOf_cons_self]
  omega

/-- A document that contributes a word keeps its place until it is removed. -/
theorem joinedAt_append (hc : Contributes h k document) (hx : x ≠ remove document) :
    joinedAt (h ++ [x]) k document = joinedAt h k document := by
  rw [contributes_iff_mem] at hc
  rw [joinedAt, joinedAt, sinceRemoval_append, if_neg hx, List.idxOf_append_of_mem hc]
  simp only [List.length_append, List.length_cons, List.length_nil]
  omega

theorem joinedAt_lt (hc : Contributes h k document) : joinedAt h k document < h.length := by
  rw [contributes_iff_mem] at hc
  have hle := length_sinceRemoval_le h document
  have hlt := List.idxOf_lt_length_iff.2 hc
  rw [joinedAt]
  omega

/-- Documents that stay keep the order in which they joined. -/
theorem pairwise_joinedAt_append {ds : List String} (hc : ∀ d ∈ ds, Contributes h k d)
    (hx : ∀ d ∈ ds, x ≠ remove d) (hp : ds.Pairwise fun d d' => joinedAt h k d < joinedAt h k d') :
    ds.Pairwise fun d d' => joinedAt (h ++ [x]) k d < joinedAt (h ++ [x]) k d' := by
  refine hp.imp_of_mem ?_
  intro d d' hd hd' hlt
  rwa [joinedAt_append (hc d hd) (hx d hd), joinedAt_append (hc d' hd') (hx d' hd')]

/-- A document that joins comes after those that are there. -/
theorem pairwise_joinedAt_concat {ds : List String} (hc : ∀ d ∈ ds, Contributes h k d)
    (hnew : ¬ Contributes h k document)
    (hp : ds.Pairwise fun d d' => joinedAt h k d < joinedAt h k d') :
    (ds ++ [document]).Pairwise fun d d' =>
      joinedAt (h ++ [add k.1 k.2 document]) k d < joinedAt (h ++ [add k.1 k.2 document]) k d' := by
  refine List.pairwise_append.2
    ⟨pairwise_joinedAt_append hc (fun _ _ => nofun) hp, List.pairwise_singleton _ _, ?_⟩
  intro d hd d' hlast
  rw [List.mem_singleton.1 hlast, joinedAt_append_self hnew, joinedAt_append (hc d hd) (by simp)]
  exact joinedAt_lt (hc d hd)

/-- Which changes create an entry depends on no change after them. -/
theorem creates_append_iff {i : Nat} (hi : i < h.length) :
    Creates (h ++ [x]) k i ↔ Creates h k i := by
  have hle : i ≤ h.length := Nat.le_of_lt hi
  rw [Creates, Creates, List.take_append_of_le_length hle, List.take_append_of_le_length hi,
    List.length_append]
  constructor
  · exact fun hc => ⟨hi, hc.2⟩
  · exact fun hc => ⟨Nat.lt_add_right _ hi, hc.2⟩

theorem LastCreates.lt {i : Nat} (hc : LastCreates h k i) : i < h.length := hc.1.1

theorem LastCreates.unique {i j : Nat} (hi : LastCreates h k i) (hj : LastCreates h k j) :
    i = j :=
  Nat.le_antisymm (hj.2 i hi.1) (hi.2 j hj.1)

/-- An entry that was there before the last change has been created before. -/
theorem LastCreates.append {i : Nat} (hc : LastCreates h k i) (hk : Held h k) :
    LastCreates (h ++ [x]) k i := by
  refine ⟨(creates_append_iff hc.lt).2 hc.1, ?_⟩
  intro j hj
  have hjlt : j < h.length + 1 := by simpa using hj.1
  rcases Nat.lt_succ_iff_lt_or_eq.1 hjlt with hlt | rfl
  · exact hc.2 j ((creates_append_iff hlt).1 hj)
  · exact absurd hk (by simpa using hj.2.1)

/-- An entry that was not there before the last change has been created by it. -/
theorem lastCreates_append_self (hbefore : ¬ Held h k) (hafter : Held (h ++ [x]) k) :
    LastCreates (h ++ [x]) k h.length := by
  refine ⟨⟨by simp, by simpa using hbefore, ?_⟩, ?_⟩
  · rwa [List.take_of_length_le (by simp)]
  · intro j hj
    have hjlt : j < h.length + 1 := by simpa using hj.1
    exact Nat.le_of_lt_succ hjlt

/-- A word that is held has an entry that some change created last. -/
theorem exists_lastCreates (hk : Held h k) : ∃ i, LastCreates h k i := by
  induction h using List.reverseRec with
  | nil =>
    obtain ⟨d, hd⟩ := hk
    exact absurd hd not_contributes_nil
  | append_singleton h x ih =>
    by_cases hbefore : Held h k
    · obtain ⟨i, hi⟩ := ih hbefore
      exact ⟨i, hi.append hbefore⟩
    · exact ⟨h.length, lastCreates_append_self hbefore hk⟩

end Change

namespace Entries

open Change

variable {h : List Change} {es : Entries} {k : Category × String} {document : String}
variable {e : Category × Record}

/-- Makes a change. -/
def apply (es : Entries) : Change → Entries
  | .add category word document => es.add (category, word) document
  | .remove document => es.remove document

/-- The entries that a history leaves in an empty index. -/
def ofHistory (h : List Change) : Entries := h.foldl apply []

theorem ofHistory_append (x : Change) : ofHistory (h ++ [x]) = (ofHistory h).apply x := by
  rw [ofHistory, List.foldl_append]
  rfl

/-- The entries are those that a history asks for. The places in the history put the documents of
an entry and the entries themselves in order, so that no other list has these properties, which is
`Reflects.unique`. -/
structure Reflects (h : List Change) (es : Entries) : Prop where
  keys_nodup : (keys es).Nodup
  mem_keys_iff : ∀ k, k ∈ keys es ↔ Held h k
  mem_documents_iff : ∀ e ∈ es, ∀ d, d ∈ e.2.documents ↔ Contributes h (key e) d
  joined : ∀ e ∈ es, e.2.documents.Pairwise fun d d' =>
    joinedAt h (key e) d < joinedAt h (key e) d'
  created : es.Pairwise fun e e' =>
    ∃ i j, LastCreates h (key e) i ∧ LastCreates h (key e') j ∧ i < j

namespace Reflects

theorem nil : Reflects [] [] where
  keys_nodup := List.nodup_nil
  mem_keys_iff := by simp [keys, Held]
  mem_documents_iff := by simp
  joined := by simp
  created := List.Pairwise.nil

theorem held (r : Reflects h es) (he : e ∈ es) : Held h (key e) :=
  (r.mem_keys_iff (key e)).1 (key_mem_keys he)

/-- A document that contributes a word is named by the entry of the word. -/
theorem exists_entry (r : Reflects h es) (hc : Contributes h k document) :
    ∃ e ∈ es, key e = k ∧ document ∈ e.2.documents := by
  obtain ⟨e, he, rfl⟩ := mem_keys.1 ((r.mem_keys_iff k).2 ⟨document, hc⟩)
  exact ⟨e, he, rfl, (r.mem_documents_iff e he document).2 hc⟩

theorem documents_nodup (r : Reflects h es) (he : e ∈ es) : e.2.documents.Nodup := by
  refine (r.joined e he).imp ?_
  rintro d _ hlt rfl
  exact Nat.lt_irrefl _ hlt

theorem documents_ne_nil (r : Reflects h es) (he : e ∈ es) : e.2.documents ≠ [] := by
  obtain ⟨d, hd⟩ := r.held he
  exact List.ne_nil_of_mem ((r.mem_documents_iff e he d).2 hd)

/-- The documents of an entry are determined, with their order. -/
theorem documents_unique {es' : Entries} {e' : Category × Record} (r : Reflects h es)
    (r' : Reflects h es') (he : e ∈ es) (he' : e' ∈ es') (hkey : key e = key e') :
    e.2.documents = e'.2.documents := by
  have hperm : e.2.documents.Perm e'.2.documents := by
    rw [List.perm_ext_iff_of_nodup (r.documents_nodup he) (r'.documents_nodup he')]
    intro d
    rw [r.mem_documents_iff e he, r'.mem_documents_iff e' he', hkey]
  refine hperm.eq_of_pairwise ?_ (r.joined e he) (hkey ▸ r'.joined e' he')
  intro d d' _ _ hlt hgt
  exact absurd hlt (Nat.lt_asymm hgt)

private theorem subset {es' : Entries} (r : Reflects h es) (r' : Reflects h es') : es ⊆ es' := by
  intro e he
  obtain ⟨e', he', hkey⟩ := mem_keys.1 ((r'.mem_keys_iff _).2 (r.held he))
  have hword : e'.2.word = e.2.word := congrArg Prod.snd hkey
  have hdocuments := r'.documents_unique r he' he hkey
  have heq : e' = e := by
    obtain ⟨c', ⟨w', ds'⟩⟩ := e'
    obtain ⟨c, ⟨w, ds⟩⟩ := e
    cases congrArg Prod.fst hkey
    cases hword
    cases hdocuments
    rfl
  exact heq ▸ he'

/-- A history determines the entries that reflect it, with all orders. -/
theorem unique {es' : Entries} (r : Reflects h es) (r' : Reflects h es') : es = es' := by
  have hperm : es.Perm es' := by
    rw [List.perm_ext_iff_of_nodup (List.Nodup.of_map key r.keys_nodup)
      (List.Nodup.of_map key r'.keys_nodup)]
    exact fun e => ⟨fun he => r.subset r' he, fun he => r'.subset r he⟩
  refine hperm.eq_of_pairwise ?_ r.created r'.created
  rintro e e' _ _ ⟨i, j, hi, hj, hlt⟩ ⟨j', i', hj', hi', hgt⟩
  rw [hi.unique hi', hj.unique hj'] at hlt
  exact absurd hlt (Nat.lt_asymm hgt)

/-- An entry is left without documents when the removed one is its only document. -/
theorem shrink_isEmpty_iff (r : Reflects h es) (he : e ∈ es) (document : String) :
    (shrink document e).2.documents.isEmpty ↔ e.2.documents = [document] := by
  have hnodup := r.documents_nodup he
  have hne := r.documents_ne_nil he
  rw [documents_shrink, List.isEmpty_iff, List.filter_eq_nil_iff]
  constructor
  · intro hall
    match hds : e.2.documents with
    | [] => exact absurd hds hne
    | [d] =>
      rw [hds] at hall
      simpa using hall d
    | d :: d' :: ds =>
      rw [hds] at hall hnodup
      have hd : d = document := by simpa using hall d
      have hd' : d' = document := by simpa using hall d'
      rw [hd, hd'] at hnodup
      simp at hnodup
  · intro hds
    simp [hds]

/-- A removal drops the entries whose only document it takes out. -/
theorem length_sub_length_remove (r : Reflects h es) (document : String) :
    es.length - (es.remove document).length =
      es.countP fun e => e.2.documents = [document] := by
  have hstay : (es.remove document).length =
      es.countP fun e => ¬ e.2.documents = [document] := by
    rw [Entries.remove, ← List.countP_eq_length_filter, List.countP_map]
    refine List.countP_congr ?_
    intro e he
    have hiff := r.shrink_isEmpty_iff he document
    simpa using not_congr hiff
  have hall := List.length_eq_countP_add_countP (l := es) fun e => e.2.documents = [document]
  simp only [decide_eq_true_eq] at hall
  omega

/-- Entries that were there before a change were created before it, in the same order. -/
theorem created_append (r : Reflects h es) (x : Change) :
    es.Pairwise fun e e' =>
      ∃ i j, LastCreates (h ++ [x]) (key e) i ∧ LastCreates (h ++ [x]) (key e') j ∧ i < j := by
  refine r.created.imp_of_mem ?_
  rintro e e' he he' ⟨i, j, hi, hj, hlt⟩
  exact ⟨i, j, hi.append (r.held he), hj.append (r.held he'), hlt⟩

/-- The documents that stay are in the order in which they joined. -/
theorem joined_append (r : Reflects h es) (he : e ∈ es) {x : Change} {ds : List String}
    (hs : ds.Sublist e.2.documents) (hx : ∀ d ∈ ds, x ≠ .remove d) :
    ds.Pairwise fun d d' => joinedAt (h ++ [x]) (key e) d < joinedAt (h ++ [x]) (key e) d' :=
  pairwise_joinedAt_append (fun d hd => (r.mem_documents_iff e he d).1 (hs.subset hd)) hx
    ((r.joined e he).sublist hs)

/-- A document that is added to an entry comes last, unless the entry names it. -/
private theorem joined_extend (r : Reflects h es) (he : e ∈ es) :
    (extend document e).2.documents.Pairwise fun d d' =>
      joinedAt (h ++ [.add (key e).1 (key e).2 document]) (key e) d <
        joinedAt (h ++ [.add (key e).1 (key e).2 document]) (key e) d' := by
  rw [documents_extend]
  split
  · exact r.joined_append he (List.Sublist.refl _) (fun _ _ => nofun)
  · rename_i hd
    have hnew : ¬ Contributes h (key e) document := fun hc =>
      hd ((r.mem_documents_iff e he document).2 hc)
    exact pairwise_joinedAt_concat (fun d => (r.mem_documents_iff e he d).1) hnew (r.joined e he)

/-- A word that has an entry is added to that entry. -/
private theorem add_known (r : Reflects h es) (hk : k ∈ keys es) :
    Reflects (h ++ [.add k.1 k.2 document]) (es.add k document) where
  keys_nodup := nodup_keys_add r.keys_nodup
  mem_keys_iff := by
    intro k'
    rw [keys_add, if_pos hk, held_append_add, r.mem_keys_iff, iff_or_self]
    rintro rfl
    exact (r.mem_keys_iff _).1 hk
  mem_documents_iff := by
    rw [add_of_mem hk]
    intro e' he' d
    obtain ⟨e, he, rfl⟩ := List.mem_map.1 he'
    rw [contributes_append_add]
    split
    · rename_i hkey
      rw [key_extend, mem_documents_extend, r.mem_documents_iff e he, and_iff_right hkey]
    · rename_i hkey
      rw [r.mem_documents_iff e he, or_iff_right (fun hc => hkey hc.1)]
  joined := by
    rw [add_of_mem hk]
    intro e' he'
    obtain ⟨e, he, rfl⟩ := List.mem_map.1 he'
    split
    · rename_i hkey
      subst hkey
      rw [key_extend]
      exact r.joined_extend he
    · exact r.joined_append he (List.Sublist.refl _) nofun
  created := by
    rw [add_of_mem hk, List.pairwise_map]
    refine (r.created_append (.add k.1 k.2 document)).imp ?_
    intro e e' hcreated
    simpa only [key_ite_extend] using hcreated

/-- A word without an entry gets one behind all others. -/
private theorem add_new (r : Reflects h es) (hk : k ∉ keys es) :
    Reflects (h ++ [.add k.1 k.2 document]) (es.add k document) where
  keys_nodup := nodup_keys_add r.keys_nodup
  mem_keys_iff := by
    intro k'
    rw [keys_add, if_neg hk, held_append_add, List.mem_append, List.mem_singleton, or_comm,
      r.mem_keys_iff]
  mem_documents_iff := by
    rw [add_of_notMem hk]
    intro e he d
    rw [contributes_append_add]
    rcases List.mem_append.1 he with hold | hnew
    · have hkey : key e ≠ k := fun heq => hk (heq ▸ key_mem_keys hold)
      rw [r.mem_documents_iff e hold, or_iff_right (fun hc => hkey hc.1)]
    · have hnone : ¬ Contributes h k d := fun hc => hk ((r.mem_keys_iff k).2 ⟨d, hc⟩)
      rw [List.mem_singleton.1 hnew]
      simp [key, hnone]
  joined := by
    rw [add_of_notMem hk]
    intro e he
    rcases List.mem_append.1 he with hold | hnew
    · exact r.joined_append hold (List.Sublist.refl _) (by simp)
    · rw [List.mem_singleton.1 hnew]
      exact List.pairwise_singleton _ _
  created := by
    have hnone : ¬ Held h k := fun hheld => hk ((r.mem_keys_iff k).2 hheld)
    have hheld : Held (h ++ [.add k.1 k.2 document]) k := held_append_add.2 (Or.inl rfl)
    have hlast := lastCreates_append_self hnone hheld
    rw [add_of_notMem hk]
    refine List.pairwise_append.2 ⟨r.created_append _, List.pairwise_singleton _ _, ?_⟩
    intro e he e' hnew
    obtain ⟨i, hi⟩ := exists_lastCreates (r.held he)
    rw [List.mem_singleton.1 hnew]
    exact ⟨i, h.length, hi.append (r.held he), hlast, hi.lt⟩

/-- A removal takes its document from every entry and drops the entries that named no other. -/
private theorem remove_document (r : Reflects h es) :
    Reflects (h ++ [.remove document]) (es.remove document) where
  keys_nodup := nodup_keys_remove r.keys_nodup
  mem_keys_iff := by
    intro k
    constructor
    · intro hk
      obtain ⟨_, he', rfl⟩ := mem_keys.1 hk
      obtain ⟨e, he, rfl, hne⟩ := mem_remove.1 he'
      obtain ⟨d, hd⟩ := List.exists_mem_of_ne_nil _ hne
      rw [documents_shrink, List.mem_filter, bne_iff_ne] at hd
      exact ⟨d, contributes_append_remove.2 ⟨(r.mem_documents_iff e he d).1 hd.1, hd.2⟩⟩
    · rintro ⟨d, hd⟩
      obtain ⟨hc, hne⟩ := contributes_append_remove.1 hd
      obtain ⟨e, he, rfl, hmem⟩ := r.exists_entry hc
      refine mem_keys.2 ⟨shrink document e, mem_remove.2 ⟨e, he, rfl, ?_⟩, rfl⟩
      rw [documents_shrink]
      exact List.ne_nil_of_mem (List.mem_filter.2 ⟨hmem, bne_iff_ne.2 hne⟩)
  mem_documents_iff := by
    intro e' he' d
    obtain ⟨e, he, rfl, -⟩ := mem_remove.1 he'
    rw [documents_shrink, List.mem_filter, bne_iff_ne, r.mem_documents_iff e he, key_shrink,
      contributes_append_remove]
  joined := by
    intro e' he'
    obtain ⟨e, he, rfl, -⟩ := mem_remove.1 he'
    refine r.joined_append he List.filter_sublist ?_
    intro d hd heq
    rw [documents_shrink, List.mem_filter, bne_iff_ne] at hd
    exact hd.2 (Change.remove.inj heq).symm
  created := by
    have hs : (es.remove document).Sublist (es.map (shrink document)) := List.filter_sublist
    refine List.Pairwise.sublist hs (List.pairwise_map.2 ?_)
    exact r.created_append (.remove document)

/-- Every change leads from the entries of a history to those of the longer one. -/
theorem apply (r : Reflects h es) (x : Change) : Reflects (h ++ [x]) (es.apply x) := by
  cases x with
  | add category word document =>
    by_cases hk : (category, word) ∈ keys es
    · exact r.add_known hk
    · exact r.add_new hk
  | remove document => exact r.remove_document

end Reflects

/-- Making the changes of a history one after another leads to the entries that the history asks
for. -/
theorem reflects_ofHistory (h : List Change) : Reflects h (ofHistory h) := by
  induction h using List.reverseRec with
  | nil => exact .nil
  | append_singleton h x ih =>
    rw [ofHistory_append]
    exact ih.apply x

end Entries

end SymbolIndex
