import SymbolIndex.Proofs.Engines
import SymbolIndex.Proofs.Text.Lowercase

/-!
# Looking up types by name

A lookup by name finds the types that the records of types describe whose word, in lower case, starts
with the name and the delimiter in lower case. With the null character for a delimiter these are the
records whose name, the part of the word before the first delimiter, differs from the given one in
nothing but the case of letters.
-/

namespace SymbolIndex

open Text

/-- The filter of the query for the types of a name. -/
def Query.typeFilter (d : Delimiters) (name : String) : WordFilter :=
  .start (lowercase (bareTypeName name ++ d.primary.toString)) false

theorem Query.ofQuery_typeNamed [Regex.Limit] (d : Delimiters) (name : String) :
    WordFilter.ofQuery (typeNamed d name) = .ok (typeFilter d name) := rfl

/-- The filter compares texts in lower case, the delimiter with the name. -/
theorem Query.accepts_typeFilter_iff_prefix {d : Delimiters} {name word : String} :
    (typeFilter d name).accepts word ↔
      lowercaseFrom false ((bareTypeName name).toList ++ [d.primary]) <+:
        lowercaseFrom false word.toList := by
  rw [typeFilter, WordFilter.accepts, WordFilter.fold, if_neg Bool.false_ne_true,
    List.isPrefixOf_iff_prefix, lowercase, lowercase, String.toList_append, String.toList_ofList,
    String.toList_ofList, Char.toString, String.toList_singleton]

namespace Reader

variable {e : Engine} {es : Entries}

/-- The types that the entries of an index hold under a name. A blank name has none. -/
def typesIn (r : Reader) (es : Entries) (name : String) : List TypeSymbol :=
  if isBlank name then []
  else r.types ((es.records [.type]).filter fun record =>
    (Query.typeFilter r.delimiters name).accepts record.word)

theorem run_typesNamed [Regex.Limit] (r : Reader) (hs : Serving e es) (name : String) (made : Nat) :
    ((r.typesNamed name false).run e made).result = .ok (r.typesIn es name) := by
  rw [typesNamed, typesIn]
  split
  · rfl
  · exact Lookup.result_map_of_ok (hs.result_records (Query.uniform_typeNamed _ _ _)
      (Query.ofQuery_typeNamed _ _)) r.types

/-- The types that are found under a name are among those of all records. -/
theorem typesIn_subset (r : Reader) (es : Entries) (name : String) :
    r.typesIn es name ⊆ r.types (es.records [.type]) := by
  rw [typesIn]
  split
  · exact List.nil_subset _
  · exact (List.filter_sublist.filterMap _).subset

end Reader

/-- A name that is not blank leaves something of it without its parameter. -/
theorem bareTypeName_ne_nil {name : String} (hname : ¬ isBlank name) :
    (bareTypeName name).toList ≠ [] := by
  rw [bareTypeName]
  split
  · decide
  · intro hnil
    simp [isBlank, hnil] at hname

/-- A name is blank exactly if it is without its parameter. -/
@[simp] theorem isBlank_bareTypeName (name : String) : isBlank (bareTypeName name) = isBlank name := by
  rw [bareTypeName]
  split
  · rename_i h
    have hA : 'A' ∈ name.toList := (List.isPrefixOf_iff_prefix.1 h).subset (by decide)
    have hname : isBlank name = false := by
      rw [isBlank, List.all_eq_false]
      exact ⟨'A', hA, by decide⟩
    rw [hname]
    decide
  · rfl

/-- Whether there is a null character in a record's word and a type's name before it, in whatever
case. -/
def Record.namesType (name : String) (record : Record) : Bool :=
  (cut '\x00' record.word.toList).any fun s =>
    lowercase (String.ofList s.1) == lowercase (bareTypeName name)

namespace Record

variable {name : String} {record : Record} {d : Delimiters}

theorem namesType_iff :
    record.namesType name ↔ ∃ before rest, cut '\x00' record.word.toList = some (before, rest) ∧
      lowercaseFrom false before = lowercaseFrom false (bareTypeName name).toList := by
  rw [namesType, Option.any_eq_true]
  constructor
  · rintro ⟨⟨before, rest⟩, hcut, heq⟩
    refine ⟨before, rest, hcut, ?_⟩
    simpa [lowercase, String.ofList_inj] using heq
  · rintro ⟨before, rest, hcut, heq⟩
    refine ⟨(before, rest), hcut, ?_⟩
    simpa [lowercase, String.ofList_inj] using heq

/-- With a separating delimiter the records that are found are those that have it after the name, in
whatever case. -/
theorem accepts_typeFilter_iff (hs : Separates d.primary)
    (hfree : d.primary ∉ (bareTypeName name).toList) :
    (Query.typeFilter d name).accepts record.word ↔
      ∃ before rest, cut d.primary record.word.toList = some (before, rest) ∧
        lowercaseFrom false before = lowercaseFrom false (bareTypeName name).toList := by
  have hfree' : d.primary ∉ lowercaseFrom false (bareTypeName name).toList :=
    mt hs.mem_lowercaseFrom.1 hfree
  have hpattern : lowercaseFrom false ((bareTypeName name).toList ++ [d.primary]) =
      lowercaseFrom false (bareTypeName name).toList ++ [d.primary] :=
    hs.lowercaseFrom_append false _ []
  rw [Query.accepts_typeFilter_iff_prefix, hpattern, append_singleton_prefix_iff_cut hfree',
    hs.cut_lowercaseFrom]
  simp only [Option.map_eq_some_iff, Prod.mk.injEq, Prod.exists]
  constructor
  · rintro ⟨_, before, rest, hcut, heq, rfl⟩
    exact ⟨before, rest, hcut, heq⟩
  · rintro ⟨before, rest, hcut, heq⟩
    exact ⟨_, before, rest, hcut, heq, rfl⟩

/-- With the null character for a delimiter the records that are found are those with the name. -/
theorem accepts_typeFilter (hprimary : d.primary = '\x00')
    (hfree : '\x00' ∉ (bareTypeName name).toList) :
    (Query.typeFilter d name).accepts record.word = record.namesType name := by
  rw [Bool.eq_iff_iff, accepts_typeFilter_iff (hprimary ▸ separates_null) (hprimary ▸ hfree),
    namesType_iff, hprimary]

/-- A record with the name of a type describes one. -/
theorem isSome_toType? (hprimary : d.primary = '\x00') (hname : ¬ isBlank name)
    (h : record.namesType name) : (record.toType? d).isSome := by
  obtain ⟨before, rest, hcut, heq⟩ := namesType_iff.1 h
  obtain ⟨hword, hfree⟩ := cut_eq_some_iff.1 hcut
  have hne : before ≠ [] := by
    rintro rfl
    have hbare := lowercaseFrom_eq_nil_iff.1 heq.symm
    exact bareTypeName_ne_nil hname hbare
  rw [toType?, hword, hprimary, splitOn_append_cons hfree]
  simp [fieldText?, field?, hne]

end Record

namespace Reader

variable {e : Engine} {es : Entries}

/-- With the null character for a delimiter a lookup by name is exact up to the case of letters: it
finds, in the order of the records, what the records with the name describe, and each of these
describes a type. -/
theorem run_typesNamed_exact [Regex.Limit] (r : Reader) (hs : Serving e es)
    (hprimary : r.delimiters.primary = '\x00') {name : String} (hname : ¬ isBlank name)
    (hfree : '\x00' ∉ (bareTypeName name).toList) (made : Nat) :
    ∃ found, ((r.typesNamed name false).run e made).result = .ok found ∧
      found.map some =
        ((es.records [.type]).filter (·.namesType name)).map (·.toType? r.delimiters) := by
  have hfound : r.typesIn es name =
      ((es.records [.type]).filter (·.namesType name)).filterMap (·.toType? r.delimiters) := by
    rw [typesIn, if_neg hname, types]
    refine congrArg _ (List.filter_congr fun record _ => ?_)
    exact Record.accepts_typeFilter hprimary hfree
  refine ⟨r.typesIn es name, r.run_typesNamed hs name made, ?_⟩
  rw [hfound, List.map_filterMap_some_eq_filter_map_isSome, List.filter_eq_self]
  intro found hmem
  obtain ⟨record, hrecord, rfl⟩ := List.mem_map.1 hmem
  exact Record.isSome_toType? hprimary hname (List.mem_filter.1 hrecord).2

/-- A final sigma and a dotted capital I, a longer name and a word without a delimiter. -/
theorem run_typesNamed_exact_sigma :
    let _ : Regex.Limit := .unlimited
    let h : List Change := [.add .type "İAΣ\x00Base" "a.js", .add .type "i\u0307aς\x00" "b.js",
      .add .type "İAΣA\x00" "a.js", .add .type "İAΣ" "a.js"]
    ((({} : Reader).typesNamed "İaΣ" false).run (MemoryStore.empty.run h).2.engine 0).result =
      .ok [{ name := "İAΣ", parents := ["Base"], documents := ["a.js"] },
        { name := "i\u0307aς", documents := ["b.js"] }] := by
  intro limit h
  have hname : ¬ isBlank "İaΣ" := by decide
  obtain ⟨found, hrun, hfound⟩ := run_typesNamed_exact {} (.memory h) rfl hname (by decide) 0
  have hlist : found.map some = [{ name := "İAΣ", parents := ["Base"], documents := ["a.js"] },
      { name := "i\u0307aς", documents := ["b.js"] }].map some := by
    rw [hfound]
    decide +kernel
  rw [hrun, (List.map_inj_right fun _ _ => Option.some.inj).1 hlist]

end Reader

end SymbolIndex
