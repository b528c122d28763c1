import SymbolIndex.Proofs.Engines
import SymbolIndex.Proofs.Selections

/-!
# Listings of all types

All types of an index can be listed as types or by name. Either listing passes over the records that
have no name, and the listing by name also over those whose word is a name and nothing more: a record
without a delimiter describes a type all the same. The two listings agree exactly where an index
answers with no such record, whatever else it answers.
-/

namespace SymbolIndex

open Text

namespace Record

variable {d : Delimiters} {record : Record}

/-- Whether a record's word is a name and nothing more, not even a delimiter. -/
def IsBareName (d : Delimiters) (record : Record) : Prop :=
  record.word ≠ "" ∧ d.primary ∉ record.word.toList

/-- Where a delimiter follows the name, both listings take the same name from a record. -/
theorem typeName?_of_mem (h : d.primary ∈ record.word.toList) :
    record.typeName? d = (record.toType? d).map (·.name) := by
  cases hcut : cut d.primary record.word.toList with
  | none => exact absurd h (cut_eq_none_iff.1 hcut)
  | some s =>
    obtain ⟨name, rest⟩ := s
    rw [typeName?, hcut, toType?, splitOn_of_cut hcut]
    cases name <;> rfl

theorem typeName?_of_notMem (h : d.primary ∉ record.word.toList) : record.typeName? d = none := by
  rw [typeName?, cut_eq_none_iff.2 h]

/-- Without a delimiter the whole word is the name of a type, unless it is empty. -/
theorem name_toType?_of_notMem (h : d.primary ∉ record.word.toList) :
    (record.toType? d).map (·.name) = if record.word = "" then none else some record.word := by
  rw [toType?, splitOn_of_notMem h, Option.map_map]
  by_cases hempty : record.word = ""
  · simp [hempty, fieldText?, field?]
  · simp [hempty, fieldText?, field?]

/-- What is listed by name is listed as a type of that name. -/
theorem name_toType?_of_typeName? {name : String} (h : record.typeName? d = some name) :
    (record.toType? d).map (·.name) = some name := by
  by_cases hmem : d.primary ∈ record.word.toList
  · rwa [← typeName?_of_mem hmem]
  · rw [typeName?_of_notMem hmem] at h
    cases h

/-- The listings differ over a record exactly if it is a bare name. -/
theorem typeName?_eq_iff :
    (∀ name, (record.toType? d).map (·.name) = some name → record.typeName? d = some name) ↔
      ¬ record.IsBareName d := by
  by_cases hmem : d.primary ∈ record.word.toList
  · simp [typeName?_of_mem hmem, IsBareName, hmem]
  · rw [name_toType?_of_notMem hmem, typeName?_of_notMem hmem, IsBareName]
    simp [hmem]

end Record

namespace Reader

variable (r : Reader) (e : Engine) (made : Nat)

theorem result_typeNames :
    (r.typeNames.run e made).result =
      (e made ⟨[.type], .everything⟩).map fun records =>
        records.filterMap (·.typeName? r.delimiters) := by
  rw [← Lookup.result_records e made, ← Lookup.result_map]
  rfl

theorem result_allTypes (schedule : Nat → List Nat) :
    ((r.allTypes schedule false).run e made).result =
      (e made ⟨[.type], .everything⟩).map r.types := by
  rw [← Lookup.result_records e made, ← Lookup.result_map]
  rfl

/-- The names of all types are those of the types that are listed exactly if the index, whatever it
is, answers with no bare name. Where it fails, both listings fail alike. -/
theorem result_typeNames_eq_iff (schedule : Nat → List Nat) :
    (r.typeNames.run e made).result =
        ((r.allTypes schedule false).run e made).result.map (fun ts => ts.map (·.name)) ↔
      ∀ records, e made ⟨[.type], .everything⟩ = .ok records →
        ∀ record ∈ records, ¬ record.IsBareName r.delimiters := by
  rw [result_typeNames, result_allTypes]
  cases e made ⟨[.type], .everything⟩ with
  | error failure => exact iff_of_true rfl nofun
  | ok records =>
    change Except.ok _ = Except.ok _ ↔ _
    simp only [Except.ok.injEq, forall_eq']
    rw [types, List.map_filterMap,
      Selections.filterMap_eq_filterMap_iff fun _ _ _ => Record.name_toType?_of_typeName?]
    exact forall_congr' fun record => imp_congr_right fun _ => Record.typeName?_eq_iff

/-- A type whose record is its name alone is listed as a type and not by name. -/
theorem result_typeNames_ne_broken :
    let _ : Regex.Limit := .unlimited
    let e := (MemoryStore.empty.run [.add .type "Broken" "b.js"]).2.engine
    ((({} : Reader).typeNames).run e 0).result ≠
      ((({} : Reader).allTypes List.range false).run e 0).result.map
        (fun ts => ts.map (·.name)) := by
  intro limit e
  have hs : Serving e _ := .memory [.add .type "Broken" "b.js"]
  rw [result_typeNames, result_allTypes, hs.answer (Query.uniform_everything _)]
  change Except.ok [] ≠ Except.ok [_]
  exact nofun

end Reader

end SymbolIndex
