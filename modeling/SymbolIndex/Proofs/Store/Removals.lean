import Mathlib.Data.List.Perm.Basic
import SymbolIndex.Proofs.Store.Database
import SymbolIndex.Symbol.Basic

/-!
# What a removal takes out of answers

After a document has been removed, an index answers as before without that document: it is taken out
of every record, and records that are left without documents are dropped. `Documented.without` does
this to any list of things that documents contribute. It holds of an index in memory and of tables,
also where rows have no documents or words that are no text, as long as the call is answered before
the removal. Several documents may be removed in any order.
-/

namespace SymbolIndex

open Text

/-- Things that documents contribute. -/
class Documented (α : Type) where
  documents : α → List String
  withDocuments : List String → α → α
  documents_withDocuments : ∀ ds a, documents (withDocuments ds a) = ds

namespace Documented

instance : Documented Record where
  documents := Record.documents
  withDocuments ds r := { r with documents := ds }
  documents_withDocuments _ _ := rfl

instance : Documented MemberSymbol where
  documents := MemberSymbol.documents
  withDocuments ds m := { m with documents := ds }
  documents_withDocuments _ _ := rfl

instance : Documented TypeSymbol where
  documents := TypeSymbol.documents
  withDocuments ds t := { t with documents := ds }
  documents_withDocuments _ _ := rfl

variable {α β : Type} [Documented α] [Documented β] {d : String}

/-- What is left of a thing without a document. -/
def delete (d : String) (a : α) : α := withDocuments ((documents a).filter (· != d)) a

/-- What is left of a list without a document: nothing of what only that document contributes. -/
def without (d : String) (as : List α) : List α :=
  (as.map (delete d)).filter fun a => !(documents a).isEmpty

@[simp] theorem documents_delete (a : α) :
    documents (delete d a) = (documents a).filter (· != d) :=
  documents_withDocuments _ _

/-- What only the removed document contributes goes. -/
theorem without_cons_of_eq {a : α} (h : (documents a).filter (· != d) = []) (as : List α) :
    without d (a :: as) = without d as := by
  simp only [without, List.map_cons, List.filter_cons, documents_delete, h]
  rfl

/-- What a further document contributes stays. -/
theorem without_cons_of_ne {a : α} (h : (documents a).filter (· != d) ≠ []) (as : List α) :
    without d (a :: as) = delete d a :: without d as := by
  simp only [without, List.map_cons, List.filter_cons, documents_delete,
    List.isEmpty_eq_false_iff.2 h]
  rfl

/-- A selection that looks at no documents is the same before and after a removal. -/
theorem filter_without {p : α → Bool} (hp : ∀ a, p (delete d a) = p a) (as : List α) :
    (without d as).filter p = without d (as.filter p) := by
  simp only [without, List.filter_filter, List.filter_map]
  refine congrArg _ (List.filter_congr ?_)
  intro a _
  simp only [Function.comp_apply, hp, Bool.and_comm]

/-- A reading that hands the documents on, whatever they are. -/
structure HandsOn (f : α → Option β) : Prop where
  documents_eq : ∀ {a b}, f a = some b → documents b = documents a
  withDocuments_eq : ∀ ds a, f (withDocuments ds a) = (f a).map (withDocuments ds)

/-- What is read after a removal is what was read before it, without the document. -/
theorem HandsOn.filterMap_without {f : α → Option β} (hf : HandsOn f) (as : List α) :
    (without d as).filterMap f = without d (as.filterMap f) := by
  induction as with
  | nil => rfl
  | cons a as ih =>
    have hdelete : f (delete d a) = (f a).map (withDocuments ((documents a).filter (· != d))) :=
      hf.withDocuments_eq _ a
    by_cases hleft : (documents a).filter (· != d) = []
    · rw [without_cons_of_eq hleft, ih]
      cases hfa : f a with
      | none => rw [List.filterMap_cons_none hfa]
      | some b =>
        rw [← hf.documents_eq hfa] at hleft
        rw [List.filterMap_cons_some hfa, without_cons_of_eq hleft]
    · rw [without_cons_of_ne hleft]
      cases hfa : f a with
      | none =>
        rw [hfa, Option.map_none] at hdelete
        rw [List.filterMap_cons_none hdelete, List.filterMap_cons_none hfa, ih]
      | some b =>
        rw [hfa, Option.map_some, ← hf.documents_eq hfa] at hdelete
        rw [← hf.documents_eq hfa] at hleft
        rw [List.filterMap_cons_some hdelete, List.filterMap_cons_some hfa,
          without_cons_of_ne hleft, ih]
        rfl

end Documented

open Documented

variable {call : Call} {rs : List Record} {d d' : String}

namespace Entries

variable {es : Entries}

/-- The records of some categories after a removal are those before it, without the document. -/
theorem records_remove (es : Entries) (d : String) (categories : List Category) :
    (es.remove d).records categories = without d (es.records categories) := by
  simp only [remove, records, without, List.filter_filter, List.filter_map, List.map_map]
  refine congrArg₂ _ rfl (List.filter_congr ?_)
  intro e _
  exact Bool.and_comm _ _

/-- A call that was answered before a removal is answered after it, without the document. -/
theorem answer_remove [Regex.Limit] (h : es.answer call = .ok rs) :
    (es.remove d).answer call = .ok (without d rs) := by
  rw [answer] at h ⊢
  cases hq : WordFilter.ofQuery call.query with
  | error failure =>
    rw [hq] at h
    cases h
  | ok f =>
    rw [hq] at h
    cases h
    rw [records_remove]
    exact congrArg Except.ok (filter_without (fun _ => rfl) _)

/-- Two documents may be removed in either order. -/
theorem remove_comm (es : Entries) (d d' : String) :
    (es.remove d).remove d' = (es.remove d').remove d := by
  have hboth : ∀ d d', (es.remove d).remove d' =
      (es.map fun e => shrink d' (shrink d e)).filter fun e => !e.2.documents.isEmpty := by
    intro d d'
    simp only [remove, List.filter_map, List.map_map, List.filter_filter]
    refine congrArg _ (List.filter_congr ?_)
    intro e _
    cases hds : e.2.documents.filter (· != d) with
    | nil => simp [hds]
    | cons x xs => simp [hds]
  rw [hboth, hboth]
  refine congrArg _ (List.map_congr_left ?_)
  intro e _
  simp only [shrink, Record.dropDocument, List.filter_filter, Bool.and_comm]

end Entries

namespace Tables

variable {t : Tables} {f : WordFilter} {e : EntryRow}

namespace Consistent

/-- The rows of some categories after a removal are those before it that still have documents. -/
theorem rows_remove (c : t.Consistent) (d : String) (categories : List Category) :
    (t.remove d).2.rows categories =
      (t.rows categories).filter fun e => !((t.documentsOf e.id).filter (· != d)).isEmpty := by
  rw [(c.remove d).rows_eq, c.rows_eq, c.entries_remove, List.filter_filter, List.filter_filter]
  refine List.filter_congr ?_
  intro e _
  rw [c.documentsOf_remove, Bool.and_comm]

/-- A row has the record that it had, without the document. -/
theorem record?_remove (c : t.Consistent) (d : String) (f : WordFilter) (e : EntryRow) :
    (t.remove d).2.record? f e = (t.record? f e).map (Option.map (delete d)) := by
  rw [record?, record?, c.documentsOf_remove]
  cases Utf8.decode e.word with
  | error fault => rfl
  | ok cs =>
    by_cases h : f.accepts (String.ofList cs)
    · simp only [h, if_true]
      rfl
    · simp only [h]
      rfl

/-- The record of a row names the documents of the row. -/
theorem documents_eq_of_record? {r : Record} (h : t.record? f e = .ok (some r)) :
    r.documents = t.documentsOf e.id := by
  obtain ⟨cs, -, rfl⟩ := record_of_record? h
  rfl

/-- Where rows have been read before a removal, those that stay are read after it. -/
theorem mapM_record?_remove (c : t.Consistent) {rows : List EntryRow}
    {found : List (Option Record)} (h : rows.mapM (t.record? f) = .ok found) :
    ∃ left, (rows.filter fun e => !((t.documentsOf e.id).filter (· != d)).isEmpty).mapM
        ((t.remove d).2.record? f) = .ok left ∧
      left.filterMap id = without d (found.filterMap id) := by
  induction rows generalizing found with
  | nil =>
    cases h
    exact ⟨[], rfl, rfl⟩
  | cons e rows ih =>
    rw [List.mapM_cons] at h
    obtain ⟨record, hrecord, h⟩ := exists_of_bind_ok h
    obtain ⟨found, hfound, h⟩ := exists_of_bind_ok h
    cases h
    obtain ⟨left, hleft, heq⟩ := ih hfound
    have hremoved : (t.remove d).2.record? f e = .ok (record.map (delete d)) := by
      rw [c.record?_remove, hrecord]
      rfl
    by_cases hdocuments : (t.documentsOf e.id).filter (· != d) = []
    · rw [List.filter_cons_of_neg (by simp [hdocuments])]
      refine ⟨left, hleft, heq.trans ?_⟩
      cases record with
      | none => rfl
      | some r =>
        rw [← documents_eq_of_record? hrecord] at hdocuments
        exact (without_cons_of_eq hdocuments _).symm
    · rw [List.filter_cons_of_pos (by simpa using hdocuments), List.mapM_cons, hremoved, hleft]
      refine ⟨record.map (delete d) :: left, rfl, ?_⟩
      cases record with
      | none => exact heq
      | some r =>
        rw [← documents_eq_of_record? hrecord] at hdocuments
        exact (congrArg _ heq).trans (without_cons_of_ne hdocuments _).symm

/-- A call that was answered before a removal is answered after it, without the document. -/
theorem answer_remove [Regex.Limit] (c : t.Consistent) (h : t.answer call = .ok rs) :
    (t.remove d).2.answer call = .ok (without d rs) := by
  rw [answer] at h ⊢
  split at h
  · rename_i hempty
    cases h
    rw [if_pos hempty]
    rfl
  · rename_i hne
    obtain ⟨f, hf, h⟩ := exists_of_bind_ok h
    obtain ⟨found, hfound, h⟩ := exists_of_bind_ok h
    cases h
    obtain ⟨left, hleft, heq⟩ := c.mapM_record?_remove (d := d) hfound
    have hrows : ((t.remove d).2.rows call.categories).filter (preselects f) =
        ((t.rows call.categories).filter (preselects f)).filter fun e =>
          !((t.documentsOf e.id).filter (· != d)).isEmpty := by
      rw [c.rows_remove, List.filter_comm]
    rw [if_neg hne, hf]
    change List.mapM ((t.remove d).2.record? f) _ >>= _ = _
    rw [hrows, hleft]
    exact congrArg Except.ok heq

end Consistent

/-- Two documents may be removed in either order. -/
theorem remove_comm (t : Tables) (d d' : String) :
    ((t.remove d).2.remove d').2 = ((t.remove d').2.remove d).2 := by
  have hboth : ∀ d d', ((t.remove d).2.remove d').2 =
      { entries := t.entries.filter fun e =>
          ((t.documents.filter (·.document != d)).filter (·.document != d')).any (·.entry == e.id)
        documents := (t.documents.filter (·.document != d)).filter (·.document != d') } := by
    intro d d'
    simp only [remove, List.filter_filter (l := t.entries), mk.injEq, and_true]
    refine List.filter_congr ?_
    intro e _
    rw [Bool.and_eq_left_iff_imp]
    intro hany
    obtain ⟨row, hrow, hentry⟩ := List.any_eq_true.1 hany
    exact List.any_eq_true.2 ⟨row, List.mem_of_mem_filter hrow, hentry⟩
  rw [hboth, hboth, List.filter_comm]

end Tables

namespace MemoryStore

variable {s : MemoryStore}

/-- A removal from the index removes from its entries, whatever the map of places says. -/
theorem toList_remove (s : MemoryStore) (d : String) :
    (s.remove d).2.entries.toList = Entries.remove s.entries.toList d := by
  rw [remove, Array.toList_filter, Array.toList_map]
  rfl

/-- A call that was answered before a removal is answered after it, without the document. -/
theorem answer_remove [Regex.Limit] (s : MemoryStore) (h : s.answer call = .ok rs) :
    (s.remove d).2.answer call = .ok (without d rs) := by
  have hafter : (s.remove d).2.answer call = (Entries.remove s.entries.toList d).answer call := by
    rw [← toList_remove]
    rfl
  exact hafter.trans (Entries.answer_remove h)

/-- Two documents may be removed in either order, and the map of places is the same then too. -/
theorem remove_comm (s : MemoryStore) (d d' : String) :
    ((s.remove d).2.remove d').2 = ((s.remove d').2.remove d).2 := by
  have hentries : ((s.remove d).2.remove d').2.entries = ((s.remove d').2.remove d).2.entries := by
    refine Array.toList_inj.1 ?_
    simp only [toList_remove, Entries.remove_comm _ d d']
  have hpositions : ∀ (s : MemoryStore) d,
      (s.remove d).2 = ⟨(s.remove d).2.entries, positionsOf (s.remove d).2.entries⟩ :=
    fun _ _ => rfl
  rw [hpositions, hpositions (s.remove d').2, hentries]

theorem run_map_remove (s : MemoryStore) (ds : List String) :
    (s.run (ds.map .remove)).2 = ds.foldl (fun s d => (s.remove d).2) s := by
  induction ds generalizing s with
  | nil => rfl
  | cons d ds ih => exact ih _

/-- Several documents may be removed in any order. -/
theorem run_map_remove_perm (s : MemoryStore) {ds ds' : List String} (h : ds.Perm ds') :
    (s.run (ds.map .remove)).2 = (s.run (ds'.map .remove)).2 := by
  rw [run_map_remove, run_map_remove]
  exact h.foldl_eq' (fun d _ d' _ s => s.remove_comm d d') s

end MemoryStore

namespace Database

variable {db : Database} {t : Tables}

/-- A removal from a database in use is done, and then calls that were answered before are answered
without the document. -/
theorem Reachable.answer_remove [Regex.Limit] (hr : db.Reachable) (d : String) :
    ∃ dropped db', db.remove d = .ok (dropped, db') ∧
      ∀ {call rs}, db.answer call = .ok rs → db'.answer call = .ok (without d rs) := by
  obtain ⟨t, ht, c⟩ := hr.exists_tables
  obtain ⟨db', hdb', ht'⟩ := ht.remove d
  refine ⟨_, db', hdb', ?_⟩
  intro call rs h
  rw [ht.answer_eq] at h
  rw [ht'.answer_eq]
  exact c.answer_remove h

theorem HasTables.run_map_remove (ht : db.HasTables t) (ds : List String) :
    ∃ replies db', db.run (ds.map .remove) = .ok (replies, db') ∧
      db'.HasTables (ds.foldl (fun t d => (t.remove d).2) t) := by
  induction ds generalizing db t with
  | nil => exact ⟨[], db, rfl, ht⟩
  | cons d ds ih =>
    obtain ⟨db₁, hdb₁, ht₁⟩ := ht.remove d
    obtain ⟨replies, db', hrun, ht'⟩ := ih ht₁
    refine ⟨(t.remove d).1 :: replies, db', ?_, ht'⟩
    rw [List.map_cons, run, hdb₁]
    change db₁.run (ds.map .remove) >>= _ = _
    rw [hrun]
    rfl

/-- Several documents may be removed in any order. -/
theorem Reachable.run_map_remove_perm (hr : db.Reachable) {ds ds' : List String}
    (h : ds.Perm ds') :
    ∃ db', (∃ replies, db.run (ds.map .remove) = .ok (replies, db')) ∧
      ∃ replies, db.run (ds'.map .remove) = .ok (replies, db') := by
  obtain ⟨t, ht, -⟩ := hr.exists_tables
  obtain ⟨replies, db₁, hrun, ht₁⟩ := ht.run_map_remove ds
  obtain ⟨replies', db₂, hrun', ht₂⟩ := ht.run_map_remove ds'
  have htables : ds.foldl (fun t d => (t.remove d).2) t =
      ds'.foldl (fun t d => (t.remove d).2) t :=
    h.foldl_eq' (fun d _ d' _ t => t.remove_comm d d') t
  have hsame : db₁ = db₂ := ht₁.trans (htables ▸ ht₂).symm
  exact ⟨db₁, ⟨replies, hrun⟩, replies', hsame ▸ hrun'⟩

end Database

end SymbolIndex
