import SymbolIndex.Proofs.Engines
import SymbolIndex.Proofs.Text.Order

/-!
# The modules that a document requires

A word of a required module may name several paths, a path may stand in several words, and a word
may be contributed by several documents. Nothing of this is left in the answer: a document requires
the paths that stand in the words which it contributes, each path once, in the order of their bytes.
Only the history of the index decides which words these are, however the index is kept.
-/

namespace SymbolIndex

open Text Change

variable {e : Engine} {es : Entries} {h : List Change} {made : Nat}
variable {category : Category} {word document p : String}

/-- The paths in a word are its pieces that hold something. -/
theorem Record.mem_modulePaths {d : Delimiters} {record : Record} :
    p ∈ record.modulePaths d ↔ p ≠ "" ∧ p.toList ∈ splitOn d.sub record.word.toList := by
  rw [modulePaths, items, List.mem_map]
  simp only [mem_nonemptyPieces]
  constructor
  · rintro ⟨piece, ⟨hne, hpiece⟩, rfl⟩
    exact ⟨by simpa using hne, by simpa using hpiece⟩
  · rintro ⟨hne, hpiece⟩
    exact ⟨p.toList, ⟨by simpa using hne, hpiece⟩, String.ofList_toList⟩

/-- A record of a category names a document exactly if the document contributes the word. -/
theorem Entries.Reflects.exists_record_iff (r : Entries.Reflects h es) :
    (∃ record ∈ es.records [category], record.hasDocument document ∧ record.word = word) ↔
      Contributes h (category, word) document := by
  constructor
  · rintro ⟨record, hrecord, hdocument, rfl⟩
    obtain ⟨entry, hentry, rfl⟩ := List.mem_map.1 hrecord
    obtain ⟨hmem, hcategory⟩ := List.mem_filter.1 hentry
    obtain rfl : entry.1 = category := by simpa using hcategory
    exact (r.mem_documents_iff entry hmem document).1 (List.contains_iff_mem.1 hdocument)
  · intro hc
    obtain ⟨entry, hentry, hkey, hdocument⟩ := r.exists_entry hc
    have hcategory : entry.1 = category := congrArg Prod.fst hkey
    have hword : entry.2.word = word := congrArg Prod.snd hkey
    refine ⟨entry.2, List.mem_map.2 ⟨entry, List.mem_filter.2 ⟨hentry, ?_⟩, rfl⟩, ?_, hword⟩
    · simpa using hcategory
    · exact List.contains_iff_mem.2 hdocument

namespace Reader

/-- The paths in the records of required modules that name a document. A blank document requires
nothing. -/
def modulesIn (r : Reader) (es : Entries) (document : String) : List String :=
  if isBlank document then []
  else sorted (((es.records [.require]).filter (·.hasDocument document)).flatMap
    (·.modulePaths r.delimiters))

theorem run_requiredModules [Regex.Limit] (r : Reader) (hs : Serving e es) (document : String) :
    ((r.requiredModules document).run e made).result = .ok (r.modulesIn es document) := by
  rw [requiredModules, modulesIn]
  split
  · rfl
  · have hall : ((es.records [.require]).filter fun record =>
        WordFilter.all.accepts record.word) = es.records [.require] :=
      List.filter_eq_self.2 fun _ _ => rfl
    have hrecords : ((Lookup.records .require .everything).run e made).result =
        .ok (es.records [.require]) := by
      rw [hs.result_records (Query.uniform_everything .require) (f := .all) rfl, hall]
    exact Lookup.result_map_of_ok hrecords _

theorem pairwise_modulesIn (r : Reader) (es : Entries) (document : String) :
    (r.modulesIn es document).Pairwise (· < ·) := by
  rw [modulesIn]
  split
  · exact List.Pairwise.nil
  · exact pairwise_sorted _

/-- A path is required exactly if it stands in a word that the document contributes. -/
theorem mem_modulesIn (r : Reader) (hr : es.Reflects h) :
    p ∈ r.modulesIn es document ↔ ¬ isBlank document ∧ p ≠ "" ∧
      ∃ word : String, p.toList ∈ splitOn r.delimiters.sub word.toList ∧
        Contributes h (.require, word) document := by
  rw [modulesIn]
  split
  · rename_i hblank
    simp [hblank]
  · rename_i hblank
    rw [and_iff_right hblank, mem_sorted, List.mem_flatMap]
    simp only [List.mem_filter, Record.mem_modulePaths]
    constructor
    · rintro ⟨record, ⟨hrecord, hdocument⟩, hne, hpiece⟩
      exact ⟨hne, record.word, hpiece, hr.exists_record_iff.1 ⟨record, hrecord, hdocument, rfl⟩⟩
    · rintro ⟨hne, word, hpiece, hc⟩
      obtain ⟨record, hrecord, hdocument, rfl⟩ := hr.exists_record_iff.2 hc
      exact ⟨record, ⟨hrecord, hdocument⟩, hne, hpiece⟩

/-- What a document requires after any changes to an index in memory, and after steps on a database
that make these changes: the nonempty pieces of the words that the document contributes. -/
theorem requiredModules_reflect [Regex.Limit] (r : Reader) (h : List Change) (document : String) :
    ∃ paths : List String,
      paths.Pairwise (fun p q => Utf8.encode p.toList < Utf8.encode q.toList) ∧
      (∀ p, p ∈ paths ↔ ¬ isBlank document ∧ p ≠ "" ∧
        ∃ word : String, p.toList ∈ splitOn r.delimiters.sub word.toList ∧
          Contributes h (.require, word) document) ∧
      (∀ made, ((r.requiredModules document).run (MemoryStore.empty.run h).2.engine made).result =
        .ok paths) ∧
      ∀ steps : List Database.Step, steps.flatMap Database.Step.changes = h →
        ∃ replies db, Database.empty.run (.reopen :: steps) = .ok (replies, db) ∧
          ∀ made, ((r.requiredModules document).run db.engine made).result = .ok paths := by
  have hmemory : ∀ made, ((r.requiredModules document).run (MemoryStore.empty.run h).2.engine
      made).result = .ok (r.modulesIn (Entries.ofHistory h) document) :=
    fun made => r.run_requiredModules (.memory h) document
  refine ⟨r.modulesIn (Entries.ofHistory h) document, ?_, ?_, hmemory, ?_⟩
  · exact (r.pairwise_modulesIn _ document).imp Utf8.encode_lt_encode_iff.2
  · exact fun p => r.mem_modulesIn (Entries.reflects_ofHistory h)
  · rintro steps rfl
    obtain ⟨db, hrun, hd⟩ := Database.Holds.run_empty steps
    refine ⟨_, db, hrun, ?_⟩
    intro made
    have hrequest := (hd.refines (MemoryStore.holds_ofHistory _)).requests r
      (.requiredModules document) made
    exact (congrArg Lookup.Outcome.result hrequest).trans (hmemory made)

end Reader

end SymbolIndex
