import Mathlib.Data.List.Forall2
import SymbolIndex.Query.Symbols
import SymbolIndex.Record.Decode

/-!
# Records that spell the parents of a type differently

A parent that is a generic array may be spelled as the bare type. Records that differ in nothing
else describe the same type but for the spelling of its parents, and their parents have the same bare
names.
-/

namespace SymbolIndex

open Text

/-- A name as it is, or the bare name for a generic array. -/
inductive NameRespelled : List Char → List Char → Prop
  | same (name : List Char) : NameRespelled name name
  | array (parameter : List Char) : NameRespelled ("Array<".toList ++ parameter) "Array".toList

namespace NameRespelled

variable {name name' : List Char}

theorem isEmpty_eq (h : NameRespelled name name') : name'.isEmpty = name.isEmpty := by
  cases h with
  | same name => rfl
  | array parameter => rfl

theorem bareTypeName_eq (h : NameRespelled name name') :
    bareTypeName (.ofList name') = bareTypeName (.ofList name) := by
  cases h with
  | same name => rfl
  | array parameter =>
    have hprefix : "Array<".toList.isPrefixOf
        (String.ofList ("Array<".toList ++ parameter)).toList :=
      List.isPrefixOf_iff_prefix.2 ⟨parameter, String.toList_ofList.symm⟩
    rw [bareTypeName, bareTypeName, if_pos hprefix]
    decide

end NameRespelled

namespace Record

variable {d : Delimiters} {record record' : Record} {names names' : List (List Char)}

/-- The field of a type's record that holds its parents. -/
def parentsField (d : Delimiters) (record : Record) : List Char :=
  (splitOn d.primary record.word.toList).getD 1 []

/-- Whether a record is another one with some parents spelled as bare types. -/
structure Respelled (d : Delimiters) (record record' : Record) : Prop where
  documents_eq : record'.documents = record.documents
  fields_eq : splitOn d.primary record'.word.toList =
    (splitOn d.primary record.word.toList).set 1 (record'.parentsField d)
  parents : List.Forall₂ NameRespelled
    (splitOn d.sub (record.parentsField d)) (splitOn d.sub (record'.parentsField d))

/-- The parents in a record are the items of their field. -/
theorem fieldItems_parents (d : Delimiters) (record : Record) :
    fieldItems d (splitOn d.primary record.word.toList) 1 = items d (record.parentsField d) :=
  fieldItems_eq_items d _ 1

/-- Respelling keeps empty names empty and bare names as they are. -/
theorem bareTypeName_nonempty_eq (h : List.Forall₂ NameRespelled names names') :
    ((names'.filter fun name => !name.isEmpty).map fun name => bareTypeName (.ofList name)) =
      (names.filter fun name => !name.isEmpty).map fun name => bareTypeName (.ofList name) := by
  induction h with
  | nil => rfl
  | @cons name name' names names' hname _ ih =>
    cases hempty : name.isEmpty with
    | true => simpa [List.filter_cons, hname.isEmpty_eq, hempty] using ih
    | false => simpa [List.filter_cons, hname.isEmpty_eq, hempty, hname.bareTypeName_eq] using ih

namespace Respelled

/-- A respelled record describes the same type but for the spelling of its parents. -/
theorem toType?_eq (h : record.Respelled d record') :
    record'.toType? d = (record.toType? d).map fun t =>
      { t with parents := items d (record'.parentsField d) } := by
  have hothers : ∀ i, i ≠ 1 → fieldText? (splitOn d.primary record'.word.toList) i =
      fieldText? (splitOn d.primary record.word.toList) i := by
    intro i hi
    rw [h.fields_eq, fieldText?, field?, List.getElem?_set_ne hi.symm]
    rfl
  simp only [toType?, hothers 0 (by decide), hothers 2 (by decide), h.documents_eq,
    fieldItems_parents, Option.map_map]
  rfl

theorem bareTypeName_items (h : record.Respelled d record') :
    (items d (record'.parentsField d)).map bareTypeName =
      (items d (record.parentsField d)).map bareTypeName := by
  have hnames := bareTypeName_nonempty_eq h.parents
  rw [items, items, List.map_map, List.map_map]
  exact hnames

/-- The parents of the types that respelled records describe have the same bare names. -/
theorem bareTypeName_parents {records records' : List Record}
    (h : List.Forall₂ (Respelled d) records records') :
    ((records'.filterMap (·.toType? d)).flatMap (·.parents)).map bareTypeName =
      ((records.filterMap (·.toType? d)).flatMap (·.parents)).map bareTypeName := by
  induction h with
  | nil => rfl
  | @cons record record' records records' hrecord _ ih =>
    cases htype : record.toType? d with
    | none =>
      have htype' : record'.toType? d = none := by rw [hrecord.toType?_eq, htype, Option.map_none]
      rw [List.filterMap_cons_none htype, List.filterMap_cons_none htype', ih]
    | some t =>
      have hparents : t.parents = items d (record.parentsField d) := by
        obtain ⟨name, -, rfl⟩ := Option.map_eq_some_iff.1 htype
        exact fieldItems_parents d record
      have htype' : record'.toType? d =
          some { t with parents := items d (record'.parentsField d) } := by
        rw [hrecord.toType?_eq, htype, Option.map_some]
      rw [List.filterMap_cons_some htype, List.filterMap_cons_some htype', List.flatMap_cons,
        List.flatMap_cons, List.map_append, List.map_append, ih, hparents,
        hrecord.bareTypeName_items]

end Respelled

end Record

end SymbolIndex
