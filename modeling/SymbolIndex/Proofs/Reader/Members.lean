import SymbolIndex.Proofs.Engines
import SymbolIndex.Proofs.Query.Members
import SymbolIndex.Proofs.Record.Member

/-!
# Looking up members

Looking up members by their owners finds exactly those that records describe with one of the owners.
The expression for the owners and the reading of records cut words in the same way, whatever the
names and the delimiters are. What the engine of expressions refuses cannot be looked up at all.
-/

namespace SymbolIndex

open Text

namespace Reader

variable {e : Engine} {es : Entries} {category : Category} {made : Nat}

/-- All members that the records of a category describe. -/
def allMembers (r : Reader) (es : Entries) (category : Category) : List MemberSymbol :=
  (es.records [category]).filterMap (·.toMember? r.delimiters category)

/-- Whether a member belongs to one of the owners. A blank owner has no members. -/
def isOwned (owners : List String) (m : MemberSymbol) : Bool :=
  owners.any fun owner => !isBlank owner && m.owner == bareTypeName owner

/-- The query for the members of types. -/
def ownersQuery (r : Reader) (owners : List String) : Query :=
  .membersOf r.delimiters (owners.filter (!isBlank ·))

/-- The expression that its pattern stands for. -/
def ownersRegex (r : Reader) (owners : List String) : Regex :=
  Query.ownersRegex r.delimiters.primary (Query.bareNames (owners.filter (!isBlank ·)))

/-- Whether the engine compiles the pattern for the members of types. It is not asked to if all of
them are blank. -/
def admits [Regex.Limit] (r : Reader) (owners : List String) : Bool :=
  (owners.filter (!isBlank ·)).isEmpty || Regex.Limit.admits (r.ownersQuery owners).pattern.toList

/-- The members among the answers to a query are those of the records that pass its filter. -/
theorem run_members_of_ok [Regex.Limit] (r : Reader) (hs : Serving e es) {q : Query}
    {f : WordFilter} (hu : Call.Uniform ⟨[category], q⟩) (hf : WordFilter.ofQuery q = .ok f) :
    ((r.members category q).run e made).result =
      .ok (((es.records [category]).filter fun record => f.accepts record.word).filterMap
        (·.toMember? r.delimiters category)) :=
  Lookup.result_map_of_ok (hs.result_records hu hf) _

theorem run_members_of_error [Regex.Limit] (r : Reader) (hs : Serving e es) {q : Query}
    {failure : Failure} (hu : Call.Uniform ⟨[category], q⟩)
    (hf : WordFilter.ofQuery q = .error failure) :
    ((r.members category q).run e made).result = .error failure :=
  Lookup.result_bind_of_error (hs.result_records_of_error hu hf) _

/-- The members that the records of a category describe whose words match the expression for the
owners. -/
def matchedMembers (r : Reader) (es : Entries) (category : Category) (owners : List String) :
    List MemberSymbol :=
  ((es.records [category]).filter fun record =>
    (r.ownersRegex owners).matchesIn (record.word.toList.map Char.toNat)).filterMap
      (·.toMember? r.delimiters category)

/-- Looking up the members of some owners finds what their expression matches. -/
theorem run_membersOf_of_admits [Regex.Limit] (r : Reader) (hs : Serving e es)
    {owners : List String} (hlimit : r.admits owners) :
    ((r.membersOf category owners).run e made).result =
      .ok (r.matchedMembers es category owners) := by
  rw [membersOf]
  by_cases hempty : (owners.filter (!isBlank ·)).isEmpty
  · have hnothing : r.matchedMembers es category owners = [] := by
      rw [matchedMembers, ownersRegex, List.isEmpty_iff.1 hempty, List.filter_eq_nil_iff.2,
        List.filterMap_nil]
      intro record _
      rw [Query.matchesIn_ownersRegex]
      simp [Query.bareNames]
    rw [if_pos hempty, hnothing]
    rfl
  · have hne : owners.filter (!isBlank ·) ≠ [] := by simpa using hempty
    have hadmits : Regex.Limit.admits (r.ownersQuery owners).pattern.toList := by
      simpa [admits, hempty] using hlimit
    have hfilter : WordFilter.ofQuery (r.ownersQuery owners) = .ok (.regex (r.ownersRegex owners)) :=
      WordFilter.ofQuery_of_admits rfl (Query.read?_membersOf r.delimiters hne) hadmits
    rw [if_neg hempty]
    exact r.run_members_of_ok hs (Query.uniform_membersOf _ _ _) hfilter

/-- Owners whose pattern the engine refuses cannot be looked up. -/
theorem run_membersOf_of_not_admits [Regex.Limit] (r : Reader) (hs : Serving e es)
    {owners : List String} (hlimit : ¬ r.admits owners) :
    ((r.membersOf category owners).run e made).result =
      .error (.invalidPattern .regex (r.ownersQuery owners).pattern) := by
  rw [admits, Bool.or_eq_true, not_or] at hlimit
  have hfilter : WordFilter.ofQuery (r.ownersQuery owners) =
      .error (.invalidPattern .regex (r.ownersQuery owners).pattern) :=
    WordFilter.ofQuery_of_not_admits rfl hlimit.2
  rw [membersOf, if_neg hlimit.1]
  exact r.run_members_of_error hs (Query.uniform_membersOf _ _ _) hfilter

/-- The expression for the owners misses no member of theirs. -/
theorem mem_matchedMembers (r : Reader) {owners : List String} {m : MemberSymbol}
    (hm : m ∈ r.allMembers es category) (howned : isOwned owners m) :
    m ∈ r.matchedMembers es category owners := by
  obtain ⟨record, hrecord, hdecode⟩ := List.mem_filterMap.1 hm
  obtain ⟨owner, hmem, howner⟩ := List.any_eq_true.1 howned
  simp only [Bool.and_eq_true, beq_iff_eq] at howner
  obtain ⟨rest, hcut⟩ := Record.cut_of_toMember? hdecode
  refine List.mem_filterMap.2 ⟨record, List.mem_filter.2 ⟨hrecord, ?_⟩, hdecode⟩
  rw [ownersRegex, Query.matchesIn_ownersRegex]
  refine ⟨m.owner.toList, ?_, rest, ?_⟩
  · rw [howner.2]
    exact List.mem_map_of_mem (List.mem_filter.2 ⟨hmem, howner.1⟩)
  · rw [(cut_eq_some_iff.1 hcut).1, List.append_assoc]
    rfl

/-- A member's record is found by the expression for the owners exactly when one of them owns the
member. -/
private theorem matchesIn_ownersRegex_iff (r : Reader) {owners : List String}
    (hfree : ∀ owner ∈ owners, ¬ isBlank owner →
      r.delimiters.primary ∉ (bareTypeName owner).toList)
    {record : Record} {m : MemberSymbol} (hm : record.toMember? r.delimiters category = some m) :
    (r.ownersRegex owners).matchesIn (record.word.toList.map Char.toNat) = isOwned owners m := by
  obtain ⟨rest, hcut⟩ := Record.cut_of_toMember? hm
  have hfree' : ∀ name ∈ Query.bareNames (owners.filter (!isBlank ·)),
      r.delimiters.primary ∉ name := by
    intro name hname
    obtain ⟨owner, howner, rfl⟩ := List.mem_map.1 hname
    obtain ⟨hmem, hblank⟩ := List.mem_filter.1 howner
    exact hfree owner hmem (by simpa using hblank)
  rw [Bool.eq_iff_iff, ownersRegex, Query.matchesIn_ownersRegex_iff_cut hfree', isOwned,
    List.any_eq_true]
  simp only [Bool.and_eq_true, Bool.not_eq_true', beq_iff_eq]
  constructor
  · rintro ⟨name, hname, rest', hcut'⟩
    obtain ⟨owner, howner, rfl⟩ := List.mem_map.1 hname
    obtain ⟨hmem, hblank⟩ := List.mem_filter.1 howner
    rw [hcut, Option.some.injEq, Prod.mk.injEq, String.toList_inj] at hcut'
    exact ⟨owner, hmem, by simpa using hblank, hcut'.1⟩
  · rintro ⟨owner, hmem, hblank, howner⟩
    refine ⟨(bareTypeName owner).toList, List.mem_map.2 ⟨owner, ?_, rfl⟩, rest, howner ▸ hcut⟩
    exact List.mem_filter.2 ⟨hmem, by simpa using hblank⟩

/-- Where no delimiter is in the names of owners, their expression finds exactly their members. -/
theorem matchedMembers_eq (r : Reader) {owners : List String}
    (hfree : ∀ owner ∈ owners, ¬ isBlank owner →
      r.delimiters.primary ∉ (bareTypeName owner).toList) :
    r.matchedMembers es category owners = (r.allMembers es category).filter (isOwned owners) := by
  -- Both lists go through the records of the category.
  rw [matchedMembers, List.filterMap_filter, allMembers, List.filter_filterMap]
  refine List.filterMap_congr ?_
  intro record _
  cases hm : record.toMember? r.delimiters category with
  | none => simp
  | some m =>
    rw [r.matchesIn_ownersRegex_iff hfree hm]
    rfl

/-- Looking up the members of some owners gives the members that the records of the category
describe with one of these owners. -/
theorem run_membersOf [Regex.Limit] (r : Reader) (hs : Serving e es) {owners : List String}
    (hfree : ∀ owner ∈ owners, ¬ isBlank owner →
      r.delimiters.primary ∉ (bareTypeName owner).toList)
    (hlimit : r.admits owners) :
    ((r.membersOf category owners).run e made).result =
      .ok ((r.allMembers es category).filter (isOwned owners)) := by
  rw [r.run_membersOf_of_admits hs hlimit, r.matchedMembers_eq hfree]

/-- The properties and then the functions that the records describe with one of the owners. -/
def propertiesIn (r : Reader) (es : Entries) (owners : List String) : List MemberSymbol :=
  (r.allMembers es .property).filter (isOwned owners) ++
    (r.allMembers es .function).filter (isOwned owners)

/-- Whatever is in the names of owners, their properties are what the expression matches. -/
theorem run_propertiesOf_of_admits [Regex.Limit] (r : Reader) (hs : Serving e es)
    {owners : List String} (hlimit : r.admits owners) (made : Nat) :
    ((r.propertiesOf owners).run e made).result =
      .ok (r.matchedMembers es .property owners ++ r.matchedMembers es .function owners) := by
  rw [propertiesOf, Lookup.result_bind_of_ok (r.run_membersOf_of_admits hs hlimit),
    Lookup.result_bind_of_ok (r.run_membersOf_of_admits hs hlimit)]
  rfl

theorem run_propertiesOf [Regex.Limit] (r : Reader) (hs : Serving e es) {owners : List String}
    (hfree : ∀ owner ∈ owners, ¬ isBlank owner →
      r.delimiters.primary ∉ (bareTypeName owner).toList)
    (hlimit : r.admits owners) (made : Nat) :
    ((r.propertiesOf owners).run e made).result = .ok (r.propertiesIn es owners) := by
  rw [r.run_propertiesOf_of_admits hs hlimit, r.matchedMembers_eq hfree, r.matchedMembers_eq hfree,
    propertiesIn]

theorem run_propertiesOf_of_not_admits [Regex.Limit] (r : Reader) (hs : Serving e es)
    {owners : List String} (hlimit : ¬ r.admits owners) (made : Nat) :
    ((r.propertiesOf owners).run e made).result =
      .error (.invalidPattern .regex (r.ownersQuery owners).pattern) :=
  Lookup.result_bind_of_error (r.run_membersOf_of_not_admits hs hlimit) _

theorem isOwned_iff {owners : List String} {m : MemberSymbol} :
    isOwned owners m ↔ ∃ owner ∈ owners, ¬ isBlank owner ∧ m.owner = bareTypeName owner := by
  simp [isOwned]

/-- A lookup by owners is exact: it finds a part of the members that the records of the category
describe, in the order of the records and each record's member once, and what is found are the
members with one of the owners. -/
theorem membersOf_exact [Regex.Limit] (r : Reader) (hs : Serving e es) (category : Category)
    (owners : List String)
    (hfree : ∀ owner ∈ owners, ¬ isBlank owner →
      r.delimiters.primary ∉ (bareTypeName owner).toList)
    (hlimit : r.admits owners) (made : Nat) :
    ∃ found, ((r.membersOf category owners).run e made).result = .ok found ∧
      found = (r.allMembers es category).filter (isOwned owners) ∧
      found.Sublist (r.allMembers es category) ∧
      ∀ m, m ∈ found ↔ m ∈ r.allMembers es category ∧
        ∃ owner ∈ owners, ¬ isBlank owner ∧ m.owner = bareTypeName owner := by
  refine ⟨_, r.run_membersOf hs hfree hlimit, rfl, List.filter_sublist, ?_⟩
  intro m
  rw [List.mem_filter, isOwned_iff]

/-- An owner that another one starts with, and a blank one. -/
theorem membersOf_exact_widget :
    let _ : Regex.Limit := .unlimited
    let h : List Change := [.add .property "Widget\x00visible" "w.js",
      .add .property "WidgetBar\x00visible" "w.js", .add .property "Widget\x00title" "v.js"]
    ((({} : Reader).membersOf .property [" ", "Widget"]).run
        (MemoryStore.empty.run h).2.engine 0).result =
      .ok [
        { name := "visible", owner := "Widget", documents := ["w.js"], details := .property {} },
        { name := "title", owner := "Widget", documents := ["v.js"], details := .property {} }] := by
  intro limit h
  obtain ⟨found, hrun, hfound, -⟩ := membersOf_exact {} (.memory h) .property [" ", "Widget"]
    (by decide) rfl 0
  rw [hrun, hfound]
  rfl

end Reader

end SymbolIndex
