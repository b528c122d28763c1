import SymbolIndex.Proofs.Store.Database

/-!
# The rows of the tables over a history

Beside the steps that a program takes, something else may insert rows for entries, without documents
and not always for a category and a text. Whatever the order of such operations is, no two entries
share a number or a category and word, a document has a row exactly for the words that it
contributes, and positions follow the order in which documents joined. An entry that gets the number
of a removed one starts with the documents that come with it, and with no others.
-/

namespace SymbolIndex

open Change

namespace Tables

variable {t t' t'' : Tables} {h : List Change} {k : Category × String} {e e' : EntryRow}
variable {category document : String} {word : List UInt8}

theorem mem_documentsOf {entry : Nat} : document ∈ t.documentsOf entry ↔
    ∃ d ∈ t.documents, d.entry = entry ∧ d.document = document := by
  simp [documentsOf, documentRows, and_assoc]

theorem mem_documentsOf_insertDocument {d : String} {entry : Nat} (c : t.Consistent)
    (he : e ∈ t.entries) : d ∈ (t.insertDocument e.id document).documentsOf entry ↔
      (entry = e.id ∧ d = document) ∨ d ∈ t.documentsOf entry := by
  rw [c.documentsOf_insertDocument he]
  split
  · rename_i hnew
    rw [List.mem_append, List.mem_singleton, or_comm, and_iff_right hnew.1]
  · rename_i hold
    rw [or_iff_right_of_imp]
    rintro ⟨rfl, rfl⟩
    exact not_not.1 fun hnot => hold ⟨rfl, hnot⟩

/-- Whether these are the rows of entries in other tables, and then further ones with the next
numbers. -/
def Extends (t t' : Tables) : Prop :=
  ∃ new, t'.entries = t.entries ++ new ∧ new.map (·.id) = List.range' t.nextId new.length

private theorem foldl_max_range' (n length : Nat) :
    (List.range' (n + 1) length).foldl max n = n + length := by
  induction length generalizing n with
  | zero => rfl
  | succ length ih =>
    rw [List.range'_succ, List.foldl_cons, Nat.max_eq_right (Nat.le_succ n), ih]
    omega

namespace Extends

theorem refl (t : Tables) : t.Extends t := ⟨[], (List.append_nil _).symm, rfl⟩

theorem nextId_eq {new : List EntryRow} (hentries : t'.entries = t.entries ++ new)
    (hids : new.map (·.id) = List.range' t.nextId new.length) :
    t'.nextId = t.nextId + new.length := by
  rw [nextId, hentries, List.map_append, List.foldl_append, hids, nextId, foldl_max_range']
  omega

theorem trans (hx : t.Extends t') (hx' : t'.Extends t'') : t.Extends t'' := by
  obtain ⟨new, hentries, hids⟩ := hx
  obtain ⟨new', hentries', hids'⟩ := hx'
  refine ⟨new ++ new', ?_, ?_⟩
  · rw [hentries', hentries, List.append_assoc]
  · rw [List.map_append, hids, hids', nextId_eq hentries hids, List.length_append,
      List.range'_append_1]

/-- The numbers of further rows are greater than all others. -/
theorem lt_of_notMem (hx : t.Extends t') (he' : e' ∈ t'.entries) (hnew : e' ∉ t.entries)
    (he : e ∈ t.entries) : e.id < e'.id := by
  obtain ⟨new, hentries, hids⟩ := hx
  rw [hentries] at he'
  have hmem : e' ∈ new := (List.mem_append.1 he').resolve_left hnew
  have hid : e'.id ∈ List.range' t.nextId new.length := hids ▸ List.mem_map_of_mem hmem
  exact Nat.lt_of_lt_of_le (lt_nextId he) (List.mem_range'_1.1 hid).1

theorem subset (hx : t.Extends t') : t.entries ⊆ t'.entries := by
  obtain ⟨new, hentries, -⟩ := hx
  rw [hentries]
  exact List.subset_append_left _ _

theorem insertEntry (t : Tables) (category : String) (word : List UInt8) :
    t.Extends (t.insertEntry category word) := by
  rw [Tables.insertEntry]
  split
  · exact refl t
  · exact ⟨[⟨t.nextId, category, word⟩], rfl, rfl⟩

theorem add (t : Tables) (category : Category) (word document : String) :
    t.Extends (t.add category word document) := by
  have hinserted := insertEntry t category.tag (Text.Utf8.encode word.toList)
  simp only [Tables.add]
  split
  · rwa [Extends, entries_insertDocument]
  · exact hinserted

end Extends

/-- The rows of the tables are those that a history asks for, and perhaps rows without documents. -/
structure Reflects (h : List Change) (t : Tables) : Prop where
  consistent : t.Consistent
  mem_documentsOf_iff : ∀ e ∈ t.entries, ∀ document, document ∈ t.documentsOf e.id ↔
    ∃ k, e.key = rowKey k ∧ Contributes h k document
  joined : ∀ e ∈ t.entries, ∀ k, e.key = rowKey k →
    (t.documentsOf e.id).Pairwise fun d d' => joinedAt h k d < joinedAt h k d'
  exists_entry : ∀ k, Held h k → ∃ e ∈ t.entries, e.key = rowKey k

namespace Reflects

theorem empty : Reflects [] .empty where
  consistent := empty_consistent
  mem_documentsOf_iff := nofun
  joined := nofun
  exists_entry := by
    rintro k ⟨document, hc⟩
    exact absurd hc not_contributes_nil

/-- The documents of a row with a category and a word are those that contribute the word. -/
theorem contributes_iff (r : Reflects h t) (he : e ∈ t.entries) (hkey : e.key = rowKey k) :
    document ∈ t.documentsOf e.id ↔ Contributes h k document := by
  rw [r.mem_documentsOf_iff e he]
  constructor
  · rintro ⟨k', hkey', hc⟩
    rwa [rowKey_injective (hkey.symm.trans hkey')]
  · intro hc
    exact ⟨k, hkey, hc⟩

/-- A row that is inserted has no documents, even if its number had some before. -/
theorem insertEntry (r : Reflects h t) (category : String) (word : List UInt8) :
    Reflects h (t.insertEntry category word) := by
  have hconsistent := r.consistent.insertEntry category word
  cases hfind : t.find? category word with
  | some id =>
    simp only [Tables.insertEntry, hfind]
    exact r
  | none =>
    simp only [Tables.insertEntry, hfind] at hconsistent ⊢
    have hnone : t.documentsOf t.nextId = [] := by
      rw [r.consistent.documentsOf_eq,
        r.consistent.documentRows_eq_nil fun e he => Nat.ne_of_lt (lt_nextId he)]
      rfl
    constructor
    case consistent => exact hconsistent
    case mem_documentsOf_iff =>
      intro e he document
      rcases List.mem_append.1 he with hold | hlast
      · exact r.mem_documentsOf_iff e hold document
      · rw [List.mem_singleton.1 hlast]
        change document ∈ t.documentsOf t.nextId ↔ _
        rw [hnone]
        constructor
        · exact fun hmem => absurd hmem List.not_mem_nil
        · rintro ⟨k, hkey, hc⟩
          obtain ⟨e, he, hkey'⟩ := r.exists_entry k ⟨document, hc⟩
          exact absurd (hkey'.trans hkey.symm) (find?_eq_none_iff.1 hfind e he)
    case joined =>
      intro e he k hkey
      rcases List.mem_append.1 he with hold | hlast
      · exact r.joined e hold k hkey
      · rw [List.mem_singleton.1 hlast]
        change (t.documentsOf t.nextId).Pairwise _
        rw [hnone]
        exact List.Pairwise.nil
    case exists_entry =>
      intro k hheld
      obtain ⟨e, he, hkey⟩ := r.exists_entry k hheld
      exact ⟨e, List.mem_append_left _ he, hkey⟩

/-- A document is recorded after the others of its row. -/
theorem insertDocument (r : Reflects h t) (he : e ∈ t.entries) (hkey : e.key = rowKey k)
    (document : String) :
    Reflects (h ++ [.add k.1 k.2 document]) (t.insertDocument e.id document) where
  consistent := r.consistent.insertDocument he document
  mem_documentsOf_iff := by
    intro e' he' d
    rw [entries_insertDocument] at he'
    rw [mem_documentsOf_insertDocument r.consistent he, r.mem_documentsOf_iff e' he']
    simp only [contributes_append_add, and_or_left, exists_or]
    apply or_congr_left
    constructor
    · rintro ⟨hid, rfl⟩
      rw [r.consistent.eq_of_id he' he hid]
      exact ⟨k, hkey, rfl, rfl⟩
    · rintro ⟨_, hkey', rfl, rfl⟩
      rw [r.consistent.eq_of_key he' he (hkey'.trans hkey.symm)]
      exact ⟨rfl, rfl⟩
  joined := by
    intro e' he' k' hkey'
    rw [entries_insertDocument] at he'
    rw [r.consistent.documentsOf_insertDocument he]
    split
    · rename_i hnew
      obtain ⟨hid, hnew⟩ := hnew
      have heq := r.consistent.eq_of_id he' he hid
      subst heq
      have heq := rowKey_injective (hkey'.symm.trans hkey)
      subst heq
      apply pairwise_joinedAt_concat
      · intro d hd
        exact (r.contributes_iff he hkey).1 hd
      · exact mt (r.contributes_iff he hkey).2 hnew
      · exact r.joined e' he k' hkey
    · apply pairwise_joinedAt_append
      · intro d hd
        exact (r.contributes_iff he' hkey').1 hd
      · exact fun _ _ => nofun
      · exact r.joined e' he' k' hkey'
  exists_entry := by
    intro k' hheld
    rw [entries_insertDocument]
    rcases held_append_add.1 hheld with rfl | hold
    · exact ⟨e, he, hkey⟩
    · exact r.exists_entry k' hold

theorem add (r : Reflects h t) (category : Category) (word document : String) :
    Reflects (h ++ [.add category word document]) (t.add category word document) := by
  obtain ⟨e, he, hkey, hadd⟩ := r.consistent.add_eq category word document
  have hkey' : e.key = rowKey (category, word) := hkey
  rw [hadd]
  exact (r.insertEntry _ _).insertDocument he hkey' document

/-- A removal takes rows of its document only, and rows of entries without documents. -/
theorem remove (r : Reflects h t) (document : String) :
    Reflects (h ++ [.remove document]) (t.remove document).2 where
  consistent := r.consistent.remove document
  mem_documentsOf_iff := by
    intro e he d
    have hold := List.mem_of_mem_filter he
    rw [r.consistent.documentsOf_remove, List.mem_filter, r.mem_documentsOf_iff e hold, bne_iff_ne]
    simp only [contributes_append_remove, ← and_assoc, exists_and_right]
  joined := by
    intro e he k hkey
    have hold := List.mem_of_mem_filter he
    rw [r.consistent.documentsOf_remove]
    apply pairwise_joinedAt_append
    · intro d hd
      exact (r.contributes_iff hold hkey).1 (List.mem_of_mem_filter hd)
    · intro d hd heq
      rw [List.mem_filter, bne_iff_ne] at hd
      exact hd.2 (Change.remove.inj heq).symm
    · exact (r.joined e hold k hkey).sublist List.filter_sublist
  exists_entry := by
    rintro k ⟨d, hd⟩
    obtain ⟨hc, hne⟩ := contributes_append_remove.1 hd
    obtain ⟨e, he, hkey⟩ := r.exists_entry k ⟨d, hc⟩
    have hmem : d ∈ (t.remove document).2.documentsOf e.id := by
      rw [r.consistent.documentsOf_remove, List.mem_filter, bne_iff_ne]
      exact ⟨(r.contributes_iff he hkey).2 hc, hne⟩
    refine ⟨e, ?_, hkey⟩
    rw [r.consistent.entries_remove, List.mem_filter]
    exact ⟨he, by simpa using List.ne_nil_of_mem hmem⟩

end Reflects

/-- What holds of the rows after a history. Numbers identify entries, and so do a category and a
word. The rows of documents are those that the history asks for, each with an entry that is there.
In one entry documents and positions are distinct, and positions are in the order of joining. -/
structure WellKept (h : List Change) (t : Tables) : Prop where
  ids_nodup : (t.entries.map (·.id)).Nodup
  keys_nodup : (t.entries.map EntryRow.key).Nodup
  owned : ∀ d ∈ t.documents, ∃ e ∈ t.entries, e.id = d.entry ∧
    ∃ k, e.key = rowKey k ∧ Contributes h k d.document
  complete : ∀ k document, Contributes h k document → ∃ e ∈ t.entries, e.key = rowKey k ∧
    ∃ d ∈ t.documents, d.entry = e.id ∧ d.document = document
  distinct : t.documents.Pairwise fun d d' =>
    d.entry = d'.entry → d.document ≠ d'.document ∧ d.position ≠ d'.position
  ordered : ∀ e ∈ t.entries, ∀ k, e.key = rowKey k →
    ∀ d ∈ t.documentRows e.id, ∀ d' ∈ t.documentRows e.id,
      d.position < d'.position ↔ joinedAt h k d.document < joinedAt h k d'.document

/-- Among the rows of one entry the order of positions is that of joining. -/
theorem Reflects.position_lt_iff (r : Reflects h t) (he : e ∈ t.entries) (hkey : e.key = rowKey k)
    {d d' : DocumentRow} (hd : d ∈ t.documentRows e.id) (hd' : d' ∈ t.documentRows e.id) :
    d.position < d'.position ↔ joinedAt h k d.document < joinedAt h k d'.document := by
  have hjoined := r.joined e he k hkey
  rw [r.consistent.documentsOf_eq, List.pairwise_map] at hjoined
  have hpairs : (t.documentRows e.id).Pairwise fun d d' => d.position < d'.position ∧
      joinedAt h k d.document < joinedAt h k d'.document :=
    (r.consistent.pairwise_position e.id).and hjoined
  have hforward := hpairs.imp fun hlt => iff_of_true hlt.1 hlt.2
  have hbackward := hpairs.imp fun hlt => iff_of_false (Nat.lt_asymm hlt.1) (Nat.lt_asymm hlt.2)
  exact hforward.forall_of_forall_of_flip (fun _ _ => by simp) hbackward hd hd'

theorem Reflects.wellKept (r : Reflects h t) : t.WellKept h where
  ids_nodup := List.pairwise_map.2 (r.consistent.ids.imp fun hlt => Nat.ne_of_lt hlt)
  keys_nodup := r.consistent.keys_nodup
  owned := by
    intro d hd
    obtain ⟨e, he, hid⟩ := r.consistent.owned d hd
    have hmem : d.document ∈ t.documentsOf e.id := mem_documentsOf.2 ⟨d, hd, hid.symm, rfl⟩
    exact ⟨e, he, hid, (r.mem_documentsOf_iff e he d.document).1 hmem⟩
  complete := by
    intro k document hc
    obtain ⟨e, he, hkey⟩ := r.exists_entry k ⟨document, hc⟩
    exact ⟨e, he, hkey, mem_documentsOf.1 ((r.contributes_iff he hkey).2 hc)⟩
  distinct := by
    apply r.consistent.recorded.imp
    intro d d' hrecorded hentry
    exact ⟨(hrecorded hentry).1, Nat.ne_of_lt (hrecorded hentry).2⟩
  ordered := by
    intro e he k hkey d hd d' hd'
    exact r.position_lt_iff he hkey hd hd'

end Tables

namespace Database

variable {db : Database} {t t' : Tables} {h : List Change} {e e' : EntryRow}

/-- What is done to a database, by a program or beside it. -/
inductive Operation where
  | step (s : Step)
  /-- Inserts a row for an entry, unless it is there. -/
  | insert (category : String) (word : List UInt8)
  deriving Repr, DecidableEq

/-- Does an operation. -/
def operate (db : Database) : Operation → Except Failure Database
  | .step s => do return (← db.run [s]).2
  | .insert category word => db.modify (·.insertEntry category word)

/-- Does operations one after another. -/
def operateAll (db : Database) : List Operation → Except Failure Database
  | [] => .ok db
  | op :: ops => do (← db.operate op).operateAll ops

namespace Operation

/-- The changes that an operation makes for the words of the index. -/
def changes : Operation → List Change
  | step s => s.changes
  | insert _ _ => []

/-- What an operation makes of tables. -/
def apply (t : Tables) : Operation → Tables
  | step (.addAll entries) => entries.foldl (fun t e => t.add e.1 e.2.1 e.2.2) t
  | step (.remove document) => (t.remove document).2
  | step .reopen => t
  | insert category word => t.insertEntry category word

/-- An operation only takes rows of entries away, or only adds some with the next numbers. -/
theorem sublist_or_extends (op : Operation) (t : Tables) :
    (op.apply t).entries.Sublist t.entries ∨ t.Extends (op.apply t) := by
  cases op with
  | step s =>
    cases s with
    | addAll entries =>
      apply Or.inr
      rw [apply]
      induction entries generalizing t with
      | nil => exact .refl t
      | cons e entries ih => exact (Tables.Extends.add t e.1 e.2.1 e.2.2).trans (ih _)
    | remove document => exact Or.inl List.filter_sublist
    | reopen => exact Or.inr (.refl t)
  | insert category word => exact Or.inr (.insertEntry t category word)

/-- The rows follow the changes that an operation makes. -/
theorem reflects (op : Operation) (r : t.Reflects h) : (op.apply t).Reflects (h ++ op.changes) := by
  cases op with
  | step s =>
    cases s with
    | addAll entries =>
      rw [apply, changes, Step.changes]
      induction entries generalizing t h with
      | nil => simpa using r
      | cons e entries ih =>
        rw [List.map_cons, List.append_cons]
        exact ih (r.add e.1 e.2.1 e.2.2)
    | remove document => exact r.remove document
    | reopen => simpa [apply, changes, Step.changes] using r
  | insert category word => simpa [apply, changes] using r.insertEntry category word

end Operation

/-- What an operation makes of the rows of entries. It takes some away or adds some with the next
numbers; those it adds have greater numbers than all others and no documents that it does not add
itself; and a removal leaves no entry without documents. -/
structure Transition (op : Operation) (t t' : Tables) : Prop where
  numbered : t'.entries.Sublist t.entries ∨ t.Extends t'
  later : ∀ e' ∈ t'.entries, e' ∉ t.entries → ∀ e ∈ t.entries, e.id < e'.id
  own : ∀ e' ∈ t'.entries, e' ∉ t.entries → ∀ d ∈ t'.documents, d.entry = e'.id →
    ∃ k, e'.key = rowKey k ∧ .add k.1 k.2 d.document ∈ op.changes
  used : ∀ document, op = .step (.remove document) →
    ∀ e ∈ t'.entries, ∃ d ∈ t'.documents, d.entry = e.id

namespace Operation

/-- Where a row is new, rows have been added and none taken away. -/
theorem extends_of_new (op : Operation) (he' : e' ∈ (op.apply t).entries) (hnew : e' ∉ t.entries) :
    t.Extends (op.apply t) := by
  apply (op.sublist_or_extends t).resolve_left
  intro hsub
  exact hnew (hsub.subset he')

theorem transition (op : Operation) (r : t.Reflects h) : Transition op t (op.apply t) where
  numbered := op.sublist_or_extends t
  later := by
    intro e' he' hnew e he
    exact (op.extends_of_new he' hnew).lt_of_notMem he' hnew he
  own := by
    intro e' he' hnew d hd hentry
    have r' := op.reflects r
    have hmem : d.document ∈ (op.apply t).documentsOf e'.id :=
      Tables.mem_documentsOf.2 ⟨d, hd, hentry, rfl⟩
    obtain ⟨k, hkey, hc⟩ := (r'.mem_documentsOf_iff e' he' d.document).1 hmem
    refine ⟨k, hkey, hc.of_append.resolve_left ?_⟩
    -- A document from before would have an entry from before for the same word.
    intro hbefore
    obtain ⟨e, he, hkey'⟩ := r.exists_entry k ⟨d.document, hbefore⟩
    have hstays := (op.extends_of_new he' hnew).subset he
    exact hnew (r'.consistent.eq_of_key hstays he' (hkey'.trans hkey.symm) ▸ he)
  used := by
    rintro document rfl e he
    have hany : (t.remove document).2.documents.any (·.entry == e.id) :=
      (List.mem_filter.1 he).2
    obtain ⟨d, hd, hentry⟩ := List.any_eq_true.1 hany
    exact ⟨d, hd, by simpa using hentry⟩

end Operation

theorem HasTables.operate (ht : db.HasTables t) (op : Operation) :
    ∃ db', db.operate op = .ok db' ∧ db'.HasTables (op.apply t) := by
  subst ht
  cases op with
  | step s => cases s <;> exact ⟨_, rfl, rfl⟩
  | insert category word => exact ⟨_, rfl, rfl⟩

/-- Operations succeed one after another, and the rows follow their changes. -/
theorem HasTables.operateAll (ht : db.HasTables t) (r : t.Reflects h) (ops : List Operation) :
    ∃ db' t', db.operateAll ops = .ok db' ∧ db'.HasTables t' ∧
      t'.Reflects (h ++ ops.flatMap Operation.changes) := by
  induction ops generalizing db t h with
  | nil => exact ⟨db, t, rfl, ht, by simpa using r⟩
  | cons op ops ih =>
    obtain ⟨db₁, hdb₁, ht₁⟩ := ht.operate op
    obtain ⟨db', t', hrun, ht', r'⟩ := ih ht₁ (op.reflects r)
    refine ⟨db', t', ?_, ht', ?_⟩
    · rw [Database.operateAll, hdb₁]
      exact hrun
    · rwa [List.flatMap_cons, ← List.append_assoc]

/-- After any operations on a new database its rows are well kept, and every further operation
succeeds, with new rows that share neither number nor documents with others. -/
theorem operateAll_wellKept (ops : List Operation) :
    ∃ db t, (empty.prepare >>= (·.operateAll ops)) = .ok db ∧ db.HasTables t ∧
      t.WellKept (ops.flatMap Operation.changes) ∧
      ∀ op, ∃ db' t', db.operate op = .ok db' ∧ db'.HasTables t' ∧ Transition op t t' := by
  obtain ⟨opened, hopened, hempty⟩ := HasTables.prepare_empty
  obtain ⟨db, t, hrun, ht, r⟩ := hempty.operateAll .empty ops
  refine ⟨db, t, ?_, ht, r.wellKept, ?_⟩
  · rw [hopened]
    exact hrun
  · intro op
    obtain ⟨db', hdb', ht'⟩ := ht.operate op
    exact ⟨db', op.apply t, hdb', ht', op.transition r⟩

end Database

end SymbolIndex
