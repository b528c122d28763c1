import SymbolIndex.Proofs.Reader.Members
import SymbolIndex.Proofs.Selections

/-!
# Looking up a member by its name

A lookup by name finds only records with a delimiter after the name, while the listing of the
owner's members has records that end with the name as well. The two agree exactly where no record of
the category ends with the name, as long as the engine of expressions lets the owner be listed.
-/

namespace SymbolIndex

open Text

namespace Reader

variable {e : Engine} {es : Entries} {category : Category} {made : Nat}
variable {r : Reader} {owner name : String} {record : Record} {m : MemberSymbol}

/-- The start of the words that a lookup by name finds. -/
def namedStart (r : Reader) (owner name : String) : List Char :=
  (bareTypeName owner).toList ++ r.delimiters.primary :: (name.toList ++ [r.delimiters.primary])

/-- The member that a lookup by name finds in a record. -/
def foundByName (r : Reader) (category : Category) (owner name : String) (record : Record) :
    Option MemberSymbol :=
  if (r.namedStart owner name).isPrefixOf record.word.toList then
    record.toMember? r.delimiters category
  else none

/-- The member of a name that the listing of an owner has from a record. -/
def listedByName (r : Reader) (category : Category) (owner name : String) (record : Record) :
    Option MemberSymbol :=
  ((record.toMember? r.delimiters category).filter (isOwned [owner])).filter (·.name == name)

/-- A record whose word is the owner and the name, with nothing after the name. -/
def EndsWithName (r : Reader) (owner name : String) (record : Record) : Prop :=
  record.word.toList = (bareTypeName owner).toList ++ r.delimiters.primary :: name.toList

instance (r : Reader) (owner name : String) (record : Record) :
    Decidable (r.EndsWithName owner name record) :=
  inferInstanceAs (Decidable (_ = _))

theorem run_membersNamed [Regex.Limit] (r : Reader) (hs : Serving e es) (howner : ¬ isBlank owner)
    (hname : ¬ isBlank name) :
    ((r.membersNamed category owner name).run e made).result =
      .ok ((es.records [category]).filterMap (r.foundByName category owner name)) := by
  have hpattern : (Query.memberNamed r.delimiters owner name).pattern.toList =
      r.namedStart owner name := by
    simp [Query.memberNamed, namedStart, Char.toString]
  have hblank : ¬ (isBlank owner || isBlank name) = true := by simp [howner, hname]
  rw [membersNamed, if_neg hblank,
    r.run_members_of_ok hs (Query.uniform_memberNamed _ _ _ _) rfl, List.filterMap_filter]
  refine congrArg Except.ok (List.filterMap_congr ?_)
  intro record _
  rw [foundByName, ← hpattern]
  rfl

/-- The listing of an owner, cut down to the members of a name. -/
theorem run_membersOf_named [Regex.Limit] (r : Reader) (hs : Serving e es)
    (hfree : r.delimiters.primary ∉ (bareTypeName owner).toList)
    (hlimit : r.admits [owner]) :
    ((r.membersOf category [owner]).run e made).result.map
        (fun ms => ms.filter (·.name == name)) =
      .ok ((es.records [category]).filterMap (r.listedByName category owner name)) := by
  have hfree' : ∀ o ∈ [owner], ¬ isBlank o →
      r.delimiters.primary ∉ (bareTypeName o).toList := by
    intro o ho _
    rwa [List.mem_singleton.1 ho]
  rw [r.run_membersOf hs hfree' hlimit, allMembers]
  change Except.ok (List.filter _ (List.filter _ _)) = _
  rw [List.filter_filterMap, List.filter_filterMap]
  rfl

theorem listedByName_eq_some_iff (howner : ¬ isBlank owner) :
    r.listedByName category owner name record = some m ↔
      record.toMember? r.delimiters category = some m ∧
        m.owner = bareTypeName owner ∧ m.name = name := by
  simp [listedByName, Option.filter_eq_some_iff, isOwned, howner]

theorem foundByName_eq_some_iff :
    r.foundByName category owner name record = some m ↔
      r.namedStart owner name <+: record.word.toList ∧
        record.toMember? r.delimiters category = some m := by
  rw [foundByName]
  split
  · rename_i hfront
    rw [and_iff_right (List.isPrefixOf_iff_prefix.1 hfront)]
  · rename_i hfront
    rw [List.isPrefixOf_iff_prefix] at hfront
    simp [hfront]

section

variable (howner : ¬ isBlank owner) (hname : ¬ isBlank name)
variable (hownerFree : r.delimiters.primary ∉ (bareTypeName owner).toList)
variable (hnameFree : r.delimiters.primary ∉ name.toList)
include howner hownerFree hnameFree

/-- What a lookup by name finds is listed. -/
theorem listed_of_found (hfound : r.foundByName category owner name record = some m) :
    r.listedByName category owner name record = some m := by
  obtain ⟨⟨rest, hword⟩, hm⟩ := foundByName_eq_some_iff.1 hfound
  obtain ⟨_, hparts, -⟩ := Record.memberParts_of_toMember? hm
  have hlong : record.word.toList = (bareTypeName owner).toList ++ r.delimiters.primary ::
      (name.toList ++ r.delimiters.primary :: rest) := by
    rw [← hword, namedStart]
    simp
  rw [hlong, Record.memberParts_long hownerFree hnameFree, Prod.mk.injEq, Prod.mk.injEq] at hparts
  obtain ⟨ho, hn, -⟩ := hparts
  exact (listedByName_eq_some_iff howner).2
    ⟨hm, (String.toList_inj.1 ho).symm, (String.toList_inj.1 hn).symm⟩

omit hownerFree hnameFree in
/-- What is listed from a record that goes on after the name is found. -/
theorem found_of_listed (hends : ¬ r.EndsWithName owner name record)
    (hlisted : r.listedByName category owner name record = some m) :
    r.foundByName category owner name record = some m := by
  obtain ⟨hm, ho, hn⟩ := (listedByName_eq_some_iff howner).1 hlisted
  obtain ⟨rest, hparts, hne⟩ := Record.memberParts_of_toMember? hm
  rw [ho, hn] at hparts
  rw [hn] at hne
  obtain ⟨-, -, hword | hword⟩ := Record.word_of_memberParts hparts hne
  · exact absurd hword hends
  · refine foundByName_eq_some_iff.2 ⟨⟨rest, ?_⟩, hm⟩
    rw [hword, namedStart]
    simp

omit howner hownerFree hnameFree in
/-- A word that ends with the name is too short to be found. -/
theorem not_found_of_endsWithName (hends : r.EndsWithName owner name record) :
    r.foundByName category owner name record = none := by
  refine Option.eq_none_iff_forall_ne_some.2 ?_
  intro m hfound
  have hlength := (foundByName_eq_some_iff.1 hfound).1.length_le
  rw [EndsWithName] at hends
  simp only [namedStart, hends, List.length_append, List.length_cons, List.length_nil] at hlength
  omega

include hname in
/-- A record that ends with the name is listed. -/
theorem exists_listed_of_endsWithName (hcategory : category ∈ [.property, .function, .event])
    (hends : r.EndsWithName owner name record) :
    ∃ m, r.listedByName category owner name record = some m := by
  have hne : name.toList ≠ [] := by
    intro hnil
    simp [isBlank, hnil] at hname
  obtain ⟨m, hm, ho, hn⟩ :=
    Record.exists_member_of_short hcategory hownerFree hnameFree hne hends
  exact ⟨m, (listedByName_eq_some_iff howner).2
    ⟨hm, String.toList_inj.1 ho, String.toList_inj.1 hn⟩⟩

end

/-- Looking up a member by name agrees with the listing of its owner exactly if the owner can be
listed and no record ends with the name. -/
theorem run_membersNamed_eq_iff [Regex.Limit] (r : Reader) (hs : Serving e es)
    (hcategory : category ∈ [.property, .function, .event])
    (howner : ¬ isBlank owner) (hname : ¬ isBlank name)
    (hownerFree : r.delimiters.primary ∉ (bareTypeName owner).toList)
    (hnameFree : r.delimiters.primary ∉ name.toList) :
    ((r.membersNamed category owner name).run e made).result =
        ((r.membersOf category [owner]).run e made).result.map
          (fun ms => ms.filter (·.name == name)) ↔
      r.admits [owner] ∧
        ∀ record ∈ es.records [category], ¬ r.EndsWithName owner name record := by
  rw [r.run_membersNamed hs howner hname]
  by_cases hlimit : r.admits [owner]
  · rw [r.run_membersOf_named hs hownerFree hlimit, Except.ok.injEq, and_iff_right hlimit,
      Selections.filterMap_eq_filterMap_iff fun _ _ _ => listed_of_found howner hownerFree hnameFree]
    refine forall_congr' fun record => imp_congr_right fun _ => ?_
    constructor
    · intro hall hends
      obtain ⟨m, hm⟩ :=
        exists_listed_of_endsWithName howner hname hownerFree hnameFree hcategory hends
      have hfound := hall m hm
      rw [not_found_of_endsWithName hends] at hfound
      cases hfound
    · intro hends m hm
      exact found_of_listed howner hends hm
  · rw [r.run_membersOf_of_not_admits hs hlimit]
    constructor
    · exact fun h => absurd h nofun
    · exact fun h => absurd h.1 hlimit

/-- With a delimiter after the name the two agree. -/
theorem run_membersNamed_eq_widget :
    let _ : Regex.Limit := .unlimited
    let e := (MemoryStore.empty.run [.add .property "Widget\x00visible\x00Boolean" "w.js"]).2.engine
    ((({} : Reader).membersNamed .property "Widget" "visible").run e 0).result =
      ((({} : Reader).membersOf .property ["Widget"]).run e 0).result.map
        (fun ms => ms.filter (·.name == "visible")) := by
  intro limit e
  exact (run_membersNamed_eq_iff {} (.memory _) (by decide) (by decide) (by decide) (by decide)
    (by decide)).2 ⟨rfl, by decide⟩

/-- A record that ends with the name is listed and not found by name. -/
theorem run_membersNamed_ne_widget :
    let _ : Regex.Limit := .unlimited
    let e := (MemoryStore.empty.run [.add .property "Widget\x00visible" "w.js"]).2.engine
    ((({} : Reader).membersNamed .property "Widget" "visible").run e 0).result ≠
      ((({} : Reader).membersOf .property ["Widget"]).run e 0).result.map
        (fun ms => ms.filter (·.name == "visible")) := by
  intro limit e
  have hs : Serving e _ := .memory [.add .property "Widget\x00visible" "w.js"]
  rw [run_membersNamed {} hs (by decide) (by decide),
    run_membersOf_named {} hs (by decide) rfl]
  change Except.ok [] ≠ Except.ok [_]
  exact nofun

end Reader

end SymbolIndex
