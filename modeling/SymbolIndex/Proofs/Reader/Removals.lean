import SymbolIndex.Proofs.Requests
import SymbolIndex.Proofs.Store.Removals

/-!
# Removals and what a reader finds

Members and types hand on the documents of the records that they are read from, and no reading
looks at documents otherwise. So after a removal a reader finds what it found before, without the
document: `Engine.Drops` carries over from the answers of an engine to the members and types that
are listed without further calls.
-/

namespace SymbolIndex

open Documented

namespace Record

theorem handsOn_toMember? (d : Delimiters) (category : Category) :
    HandsOn (toMember? d category) where
  documents_eq := by
    intro record m h
    simp only [toMember?] at h
    split at h
    · cases h
    · obtain ⟨_, -, rfl⟩ := Option.map_eq_some_iff.1 h
      rfl
  withDocuments_eq := by
    intro ds record
    change toMember? d category { record with documents := ds } = _
    simp only [toMember?]
    split
    · rfl
    · rw [Option.map_map]
      rfl

theorem handsOn_toType? (d : Delimiters) : HandsOn (toType? d) where
  documents_eq := by
    intro record t h
    obtain ⟨_, -, rfl⟩ := Option.map_eq_some_iff.1 h
    rfl
  withDocuments_eq := by
    intro ds record
    change toType? d { record with documents := ds } = _
    rw [toType?, toType?, Option.map_map]
    rfl

end Record

variable {d : String} {e e' : Engine}

/-- Whether an engine answers what another one answered, without a document. -/
def Engine.Drops (d : String) (e e' : Engine) : Prop :=
  ∀ made made' call rs, e made call = .ok rs → e' made' call = .ok (without d rs)

namespace Lookup

variable {α : Type} [Documented α]

/-- Whether a lookup finds with one engine what it found with another one, without a document. -/
def Drops (m : Lookup (List α)) (d : String) (e e' : Engine) : Prop :=
  ∀ made made' found, (m.run e made).result = .ok found →
    (m.run e' made').result = .ok (without d found)

theorem drops_done_nil : Drops (done ([] : List α)) d e e' := by
  intro made made' found h
  cases h
  rfl

/-- What records are read as is dropped with them. -/
theorem Drops.filterMap {m : Lookup (List Record)} (hm : m.Drops d e e') {f : Record → Option α}
    (hf : HandsOn f) : (m >>= fun rs => done (rs.filterMap f)).Drops d e e' := by
  intro made made' found h
  obtain ⟨rs, hrs, _, hfound⟩ := exists_of_result_bind h
  cases hfound
  rw [result_map_of_ok (hm made made' rs hrs), hf.filterMap_without]

end Lookup

theorem Engine.Drops.records (h : e.Drops d e') (category : Category) (q : Query) :
    (Lookup.records category q).Drops d e e' := by
  intro made made' rs hrecords
  rw [Lookup.result_records] at hrecords ⊢
  exact h made made' _ rs hrecords

theorem MemoryStore.drops_remove [Regex.Limit] (s : MemoryStore) (d : String) :
    s.engine.Drops d (s.remove d).2.engine :=
  fun _ _ _ _ h => s.answer_remove h

namespace Reader

variable (r : Reader)

theorem drops_members (h : e.Drops d e') (category : Category) (q : Query) :
    (r.members category q).Drops d e e' :=
  (h.records category q).filterMap (Record.handsOn_toMember? _ _)

theorem drops_membersOf (h : e.Drops d e') (category : Category) (owners : List String) :
    (r.membersOf category owners).Drops d e e' := by
  rw [membersOf]
  split
  · exact Lookup.drops_done_nil
  · exact r.drops_members h category _

theorem drops_membersNamed (h : e.Drops d e') (category : Category) (owner name : String) :
    (r.membersNamed category owner name).Drops d e e' := by
  rw [membersNamed]
  split
  · exact Lookup.drops_done_nil
  · exact r.drops_members h category _

theorem drops_typesNamed (h : e.Drops d e') (name : String) :
    (r.typesNamed name false).Drops d e e' := by
  rw [typesNamed]
  split
  · exact Lookup.drops_done_nil
  · exact (h.records .type _).filterMap (Record.handsOn_toType? _)

theorem drops_allTypes (h : e.Drops d e') (schedule : Nat → List Nat) :
    (r.allTypes schedule false).Drops d e e' :=
  (h.records .type _).filterMap (Record.handsOn_toType? _)

/-- What a reader finds after a removal, and an engine answers, is what it found before, without the
document. -/
structure Drops (d : String) (e e' : Engine) : Prop where
  answers : e.Drops d e'
  membersOf : ∀ category owners, (r.membersOf category owners).Drops d e e'
  membersNamed : ∀ category owner name, (r.membersNamed category owner name).Drops d e e'
  typesNamed : ∀ name, (r.typesNamed name false).Drops d e e'
  allTypes : ∀ schedule, (r.allTypes schedule false).Drops d e e'

theorem drops_of_engine (h : e.Drops d e') : r.Drops d e e' where
  answers := h
  membersOf := r.drops_membersOf h
  membersNamed := r.drops_membersNamed h
  typesNamed := r.drops_typesNamed h
  allTypes := r.drops_allTypes h

/-- A removal commutes with reading, for every index in memory and every database in use, and so do
removals with each other: in any order they leave one and the same index. -/
theorem removal_commutes [Regex.Limit] :
    (∀ (s : MemoryStore) d, r.Drops d s.engine (s.remove d).2.engine) ∧
    (∀ {db : Database}, db.Reachable → ∀ d, ∃ dropped db', db.remove d = .ok (dropped, db') ∧
      r.Drops d db.engine db'.engine) ∧
    ∀ {ds ds' : List String}, ds.Perm ds' →
      (∀ s : MemoryStore, (s.run (ds.map .remove)).2 = (s.run (ds'.map .remove)).2) ∧
      ∀ {db : Database}, db.Reachable →
        ∃ db', (∃ replies, db.run (ds.map .remove) = .ok (replies, db')) ∧
          ∃ replies, db.run (ds'.map .remove) = .ok (replies, db') := by
  refine ⟨?_, ?_, ?_⟩
  · intro s d
    exact r.drops_of_engine (s.drops_remove d)
  · intro db hr d
    obtain ⟨dropped, db', hremove, hanswer⟩ := hr.answer_remove d
    exact ⟨dropped, db', hremove, r.drops_of_engine fun _ _ _ _ h => hanswer h⟩
  · intro ds ds' hperm
    exact ⟨fun s => s.run_map_remove_perm hperm, fun hr => hr.run_map_remove_perm hperm⟩

end Reader

end SymbolIndex
