import SymbolIndex.Proofs.Reader.Members
import SymbolIndex.Proofs.Reader.Types
import SymbolIndex.Proofs.Record.Type

/-!
# Types with their members

A type that is found under a name may come with its members. What is attached to it are the members
that records describe with the type's own name for an owner, in whatever case the type was asked for.
-/

namespace SymbolIndex

open Text

namespace Reader

variable {e : Engine} {es : Entries} {made : Nat} {r : Reader}

/-- An assembled type has, after the properties that it had, those that are looked up by its name. A
blank type has no others. -/
theorem properties_of_assemble {t assembled : TypeSymbol}
    (h : ((r.assemble t).run e made).result = .ok assembled) :
    assembled.name = t.name ∧ (isBlank t.name ∧ assembled.properties = t.properties ∨
      ¬ isBlank t.name ∧ ∃ made' found, ((r.propertiesOf [t.name]).run e made').result = .ok found ∧
        assembled.properties = t.properties ++ found) := by
  obtain ⟨attached, hattached, _, hlast⟩ := Lookup.exists_of_result_bind h
  cases hlast
  rw [attachMembers] at hattached
  split at hattached
  · rename_i hblank
    cases hattached
    exact ⟨rfl, Or.inl ⟨hblank, rfl⟩⟩
  · rename_i hname
    obtain ⟨found, hfound, _, hevents⟩ := Lookup.exists_of_result_bind hattached
    obtain ⟨events, -, _, hend⟩ := Lookup.exists_of_result_bind hevents
    cases hend
    exact ⟨rfl, Or.inr ⟨hname, made, found, hfound, rfl⟩⟩

/-- A type that is found with its members comes from a record. -/
theorem exists_of_typesNamed [Regex.Limit] {name : String} (hs : Serving e es)
    {found : List TypeSymbol} (h : ((r.typesNamed name true).run e made).result = .ok found)
    {assembled : TypeSymbol} (hmem : assembled ∈ found) :
    ∃ t ∈ r.typesIn es name, ∃ made', ((r.assemble t).run e made').result = .ok assembled := by
  rw [typesNamed] at h
  split at h
  · cases h
    cases hmem
  · rename_i hname
    obtain ⟨records, hrecords, made', hrest⟩ := Lookup.exists_of_result_bind h
    have htypes : r.typesIn es name = r.types records := by
      rw [hs.result_records (Query.uniform_typeNamed _ _ _) (Query.ofQuery_typeNamed _ _),
        Except.ok.injEq] at hrecords
      rw [typesIn, if_neg hname, hrecords]
    rw [htypes]
    exact Lookup.exists_of_result_mapM hrest assembled hmem

/-- The members that come with a type are among those of all records, and the type owns them. -/
theorem owner_of_mem_properties [Regex.Limit] {name : String} (hs : Serving e es)
    {found : List TypeSymbol} (h : ((r.typesNamed name true).run e made).result = .ok found)
    {t : TypeSymbol} (ht : t ∈ found) {m : MemberSymbol} (hm : m ∈ t.properties) :
    (m ∈ r.allMembers es .property ∨ m ∈ r.allMembers es .function) ∧
      ¬ isBlank t.name ∧ m.owner = bareTypeName t.name := by
  obtain ⟨bare, hbare, made', hrun⟩ := exists_of_typesNamed hs h ht
  obtain ⟨record, -, hrecord⟩ := List.mem_filterMap.1 (r.typesIn_subset es name hbare)
  obtain ⟨hname, ⟨-, hnone⟩ | ⟨hblank, made'', members, hmembers, hproperties⟩⟩ :=
    properties_of_assemble hrun
  · rw [hnone, Record.properties_of_toType? hrecord] at hm
    cases hm
  · rw [hproperties, Record.properties_of_toType? hrecord, List.nil_append] at hm
    have hfree : ∀ owner ∈ [bare.name], ¬ isBlank owner →
        r.delimiters.primary ∉ (bareTypeName owner).toList := by
      intro owner howner _ hmem
      rw [List.mem_singleton.1 howner] at hmem
      exact Record.notMem_name_of_toType? hrecord (subset_of_bareTypeName _ hmem)
    -- Members that are attached have been looked up, so the engine has not refused the name.
    have hlimit : r.admits [bare.name] := by
      by_contra hrefused
      rw [r.run_propertiesOf_of_not_admits hs hrefused] at hmembers
      cases hmembers
    rw [r.run_propertiesOf hs hfree hlimit, Except.ok.injEq] at hmembers
    rw [← hmembers, propertiesIn, List.mem_append, List.mem_filter, List.mem_filter,
      isOwned_iff, ← or_and_right] at hm
    obtain ⟨hall, owner, howner, hblank, heq⟩ := hm
    rw [List.mem_singleton.1 howner, ← hname] at hblank heq
    exact ⟨hall, hblank, heq⟩

end Reader

end SymbolIndex
