import SymbolIndex.Record.Decode

/-!
# The name and the parents of a type

What a record says of a type is cut out of its word, so no delimiter is in the type's name or in the
name of a parent. The type comes without members.
-/

namespace SymbolIndex.Record

open Text

variable {d : Delimiters} {r : Record} {t : TypeSymbol} {word : List Char} {i : Nat}

/-- The name of a type is what stands before the first delimiter, if that is anything. -/
theorem name_toType? {name : List Char} (hfirst : (splitOn d.primary r.word.toList)[0]? = some name)
    (hne : name ≠ []) : (r.toType? d).map (·.name) = some (.ofList name) := by
  have hfield : fieldText? (splitOn d.primary r.word.toList) 0 = some (.ofList name) := by
    cases name with
    | nil => exact absurd rfl hne
    | cons c cs =>
      rw [fieldText?, field?, hfirst]
      rfl
  rw [toType?, hfield]
  rfl

theorem name_of_toType? {name : List Char}
    (hfirst : (splitOn d.primary r.word.toList)[0]? = some name) (h : r.toType? d = some t) :
    t.name = .ofList name := by
  have hne : name ≠ [] := by
    rintro rfl
    have hfield : fieldText? (splitOn d.primary r.word.toList) 0 = none := by
      rw [fieldText?, field?, hfirst]
      rfl
    rw [toType?, hfield] at h
    cases h
  have hname := name_toType? hfirst hne
  rw [h] at hname
  exact Option.some.inj hname

theorem notMem_of_fieldText? {s : String} (h : fieldText? (splitOn d.primary word) i = some s) :
    d.primary ∉ s.toList := by
  obtain ⟨field, hfield, rfl⟩ := Option.map_eq_some_iff.1 h
  rw [String.toList_ofList]
  exact notMem_of_mem_splitOn (List.mem_of_getElem? (Option.filter_eq_some_iff.1 hfield).1)

theorem notMem_of_mem_fieldItems {s : String}
    (h : s ∈ fieldItems d (splitOn d.primary word) i) : d.primary ∉ s.toList := by
  rw [fieldItems_eq_items, items] at h
  obtain ⟨item, hitem, rfl⟩ := List.mem_map.1 h
  rw [String.toList_ofList]
  exact fun hmem => notMem_getD_splitOn d.primary word i
    (subset_of_mem_splitOn (mem_nonemptyPieces.1 hitem).2 hmem)

theorem notMem_name_of_toType? (h : r.toType? d = some t) : d.primary ∉ t.name.toList := by
  obtain ⟨name, hname, rfl⟩ := Option.map_eq_some_iff.1 h
  exact notMem_of_fieldText? hname

theorem notMem_of_mem_parents (h : r.toType? d = some t) {parent : String}
    (hparent : parent ∈ t.parents) : d.primary ∉ parent.toList := by
  obtain ⟨name, -, rfl⟩ := Option.map_eq_some_iff.1 h
  exact notMem_of_mem_fieldItems hparent

theorem properties_of_toType? (h : r.toType? d = some t) : t.properties = [] := by
  obtain ⟨name, -, rfl⟩ := Option.map_eq_some_iff.1 h
  rfl

theorem events_of_toType? (h : r.toType? d = some t) : t.events = [] := by
  obtain ⟨name, -, rfl⟩ := Option.map_eq_some_iff.1 h
  rfl

end SymbolIndex.Record
