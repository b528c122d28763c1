import SymbolIndex.Proofs.Reader.Attachment
import SymbolIndex.Proofs.Reader.Supertypes
import SymbolIndex.Proofs.Selections

/-!
# Inherited members

A type has the properties and functions of its lineage: its own and those of its supertypes. They are
looked up with one expression for the whole lineage, which finds each record of theirs once, and so
what looking up one owner after another finds, in another order. A lineage whose pattern the engine
of expressions refuses cannot be looked up.

The members that come with a type found by name are inherited members of that name only where the
type is spelled as the name or as a supertype of it: types are found in whatever case, and members by
the exact name of their owner.
-/

namespace SymbolIndex

open Text

/-- Whether a record describes a member of one of the owners. -/
def Record.isMemberOf (d : Delimiters) (category : Category) (owners : List String)
    (record : Record) : Bool :=
  (record.toMember? d category).any fun m => owners.contains m.owner

namespace Reader

variable {e : Engine} {es : Entries} {r : Reader} {name : String} {supertypes : List String}
variable {limit : Nat}

/-- A type and its supertypes, as records spell them. A blank name owns nothing. -/
def lineage (name : String) (supertypes : List String) : List String :=
  (bareTypeName name :: supertypes).filter (!isBlank ·)

/-- What is listed are the properties and functions of different owners: every record of theirs once,
in the order of the records, and so what each owner has, put together. -/
structure ListsMembersOf [Regex.Limit] (r : Reader) (e : Engine) (es : Entries)
    (owners : List String) (found : List MemberSymbol) : Prop where
  records : found.map some =
    ((es.records [.property]).filter (·.isMemberOf r.delimiters .property owners)).map
        (·.toMember? r.delimiters .property) ++
      ((es.records [.function]).filter (·.isMemberOf r.delimiters .function owners)).map
        (·.toMember? r.delimiters .function)
  nodup : owners.Nodup
  union : found.Perm (owners.flatMap fun owner => r.propertiesIn es [owner])
  disjoint : owners.Pairwise fun owner other =>
    (r.propertiesIn es [owner]).Disjoint (r.propertiesIn es [other])
  /-- Looked up on its own, with a pattern of its own, an owner has the same. -/
  own : ∀ owner ∈ owners, r.admits [owner] → ∀ made,
    ((r.propertiesOf [owner]).run e made).result = .ok (r.propertiesIn es [owner])

/-- Each record of an owner gives one of the members that are selected by their owners. -/
theorem map_some_filter_allMembers (r : Reader) (es : Entries) (category : Category)
    (owners : List String) :
    ((r.allMembers es category).filter fun m => owners.contains m.owner).map some =
      ((es.records [category]).filter (·.isMemberOf r.delimiters category owners)).map
        (·.toMember? r.delimiters category) := by
  have hselect : (r.allMembers es category).filter (fun m => owners.contains m.owner) =
      ((es.records [category]).filter (·.isMemberOf r.delimiters category owners)).filterMap
        (·.toMember? r.delimiters category) := by
    rw [allMembers, List.filter_filterMap, List.filterMap_filter]
    refine List.filterMap_congr fun record _ => ?_
    rw [Record.isMemberOf]
    cases record.toMember? r.delimiters category with
    | none => rfl
    | some m => rfl
  rw [hselect, List.map_filterMap_some_eq_filter_map_isSome, List.filter_eq_self]
  intro found hfound
  obtain ⟨record, hrecord, rfl⟩ := List.mem_map.1 hfound
  obtain ⟨m, hm, -⟩ := (Option.any_eq_true _ _).1 (List.mem_filter.1 hrecord).2
  rw [hm, Option.isSome_some]

section Lineage

variable (hbare : ∀ x ∈ supertypes, bareTypeName x = x)
include hbare

theorem isOwned_eq_contains_lineage (m : MemberSymbol) :
    isOwned (name :: supertypes) m = (lineage name supertypes).contains m.owner := by
  rw [Bool.eq_iff_iff, isOwned_iff, List.contains_iff_mem, lineage, List.mem_filter,
    List.exists_mem_cons_iff, List.mem_cons]
  constructor
  · rintro (⟨hblank, howner⟩ | ⟨x, hx, hblank, howner⟩)
    · exact ⟨Or.inl howner, by simpa [howner] using hblank⟩
    · rw [hbare x hx] at howner
      exact ⟨Or.inr (howner ▸ hx), by simpa [howner] using hblank⟩
  · rintro ⟨howner | howner, hblank⟩
    · exact Or.inl ⟨by simpa [howner] using hblank, howner⟩
    · exact Or.inr ⟨m.owner, howner, by simpa using hblank, (hbare _ howner).symm⟩

theorem bareTypeName_of_mem_lineage {owner : String} (h : owner ∈ lineage name supertypes) :
    bareTypeName owner = owner := by
  rcases List.mem_cons.1 (List.mem_filter.1 h).1 with rfl | hmem
  · exact bareTypeName_bareTypeName name
  · exact hbare owner hmem

theorem isOwned_singleton_of_mem_lineage {owner : String} (h : owner ∈ lineage name supertypes)
    (m : MemberSymbol) : isOwned [owner] m = (m.owner == owner) := by
  have hblank : isBlank owner = false := by simpa using (List.mem_filter.1 h).2
  simp [isOwned, hblank, bareTypeName_of_mem_lineage hbare h]

end Lineage

/-- The supertypes of a type: they differ from it and from each other, and are spelled as records
spell parents. -/
theorem exists_supertypes [Regex.Limit] (r : Reader) (hs : Serving e es) (hname : ¬ isBlank name)
    (hlimit : r.visitLimit (es.records [.type]) ≤ limit) :
    ∃ supertypes,
      (∀ made, ((r.supertypes? limit name).run e made).result = .ok (some supertypes)) ∧
      (bareTypeName name :: supertypes).Nodup ∧
      ∀ x ∈ supertypes, bareTypeName x = x ∧ r.delimiters.primary ∉ x.toList := by
  obtain ⟨supertypes, hrun, hfirst⟩ := r.run_supertypes? hs hname hlimit
  refine ⟨supertypes, hrun, List.nodup_cons.2 ⟨hfirst.start_notMem, hfirst.nodup⟩, ?_⟩
  intro x hx
  obtain ⟨y, hy⟩ := hfirst.exists_mem_next hx
  obtain ⟨parent, hfree, rfl⟩ := r.exists_of_mem_parentNames es hy
  exact ⟨bareTypeName_bareTypeName parent, mt (subset_of_bareTypeName parent ·) hfree⟩

section Free

variable (hfree : r.delimiters.primary ∉ name.toList)
  (hnames : ∀ x ∈ supertypes, bareTypeName x = x ∧ r.delimiters.primary ∉ x.toList)
include hfree hnames

/-- Where no delimiter is in the name, none is in the names of the lineage. -/
theorem notMem_of_mem_lineage {owner : String} (h : owner ∈ bareTypeName name :: supertypes) :
    r.delimiters.primary ∉ owner.toList := by
  rcases List.mem_cons.1 h with rfl | hmem
  · exact mt (subset_of_bareTypeName name ·) hfree
  · exact (hnames owner hmem).2

theorem notMem_bareTypeName_of_mem :
    ∀ owner ∈ name :: supertypes, ¬ isBlank owner →
      r.delimiters.primary ∉ (bareTypeName owner).toList := by
  intro owner howner _
  rcases List.mem_cons.1 howner with rfl | hmem
  · exact notMem_of_mem_lineage hfree hnames List.mem_cons_self
  · rw [(hnames owner hmem).1]
    exact (hnames owner hmem).2

end Free

/-- Inherited members are looked up by the name and the supertypes. -/
theorem result_inheritedMembers? [Regex.Limit] (hs : Serving e es) (hname : ¬ isBlank name)
    (hsupertypes : ∀ made, ((r.supertypes? limit name).run e made).result = .ok (some supertypes))
    (made : Nat) :
    ((r.inheritedMembers? limit name).run e made).result =
      ((r.propertiesOf (name :: supertypes)).run e made).result.map some := by
  rw [inheritedMembers?, if_neg hname, Lookup.result_bind_of_ok (hsupertypes made),
    ← hs.run_eq (asks_propertiesOf r (name :: supertypes))]
  exact Lookup.result_map _ _ _ _

/-- The inherited members of a type are listed as those of its lineage. -/
theorem listsMembersOf_lineage [Regex.Limit] (hs : Serving e es)
    (hfree : r.delimiters.primary ∉ name.toList)
    (hnodup : (bareTypeName name :: supertypes).Nodup)
    (hnames : ∀ x ∈ supertypes, bareTypeName x = x ∧ r.delimiters.primary ∉ x.toList) :
    r.ListsMembersOf e es (lineage name supertypes) (r.propertiesIn es (name :: supertypes)) := by
  have hbare : ∀ x ∈ supertypes, bareTypeName x = x := fun x hx => (hnames x hx).1
  have hselect : r.propertiesIn es (name :: supertypes) =
      (r.allMembers es .property).filter (fun m => (lineage name supertypes).contains m.owner) ++
        (r.allMembers es .function).filter
          (fun m => (lineage name supertypes).contains m.owner) := by
    rw [propertiesIn, funext (isOwned_eq_contains_lineage hbare)]
  have hown : ∀ owner ∈ lineage name supertypes, r.propertiesIn es [owner] =
      (r.allMembers es .property).filter (fun m => m.owner == owner) ++
        (r.allMembers es .function).filter (fun m => m.owner == owner) := by
    intro owner howner
    rw [propertiesIn, funext (isOwned_singleton_of_mem_lineage hbare howner)]
  have hdistinct : (lineage name supertypes).Nodup := hnodup.filter _
  constructor
  case records =>
    rw [hselect, List.map_append, map_some_filter_allMembers, map_some_filter_allMembers]
  case nodup => exact hdistinct
  case union =>
    rw [hselect, List.flatMap_congr hown]
    exact ((Selections.perm_flatMap_filter MemberSymbol.owner hdistinct _).append
      (Selections.perm_flatMap_filter MemberSymbol.owner hdistinct _)).trans
        (List.flatMap_append_perm _ _ _)
  case disjoint =>
    refine hdistinct.imp_of_mem fun {owner other} howner hother hne => ?_
    rw [hown owner howner, hown other hother]
    intro m hm hm'
    simp only [List.mem_append, List.mem_filter, ← or_and_right, beq_iff_eq] at hm hm'
    exact hne (hm.2.symm.trans hm'.2)
  case own =>
    intro owner howner hlimit made
    refine r.run_propertiesOf hs ?_ hlimit made
    intro other hother _
    rw [List.mem_singleton.1 hother, bareTypeName_of_mem_lineage hbare howner]
    exact notMem_of_mem_lineage hfree hnames (List.mem_filter.1 howner).1

/-- A lookup of inherited members lists those of the lineage, each record once, as long as the engine
compiles the pattern for the lineage. -/
theorem run_inheritedMembers?_exact [Regex.Limit] (r : Reader) (hs : Serving e es)
    (hname : ¬ isBlank name) (hfree : r.delimiters.primary ∉ name.toList)
    (hlimit : r.visitLimit (es.records [.type]) ≤ limit) :
    ∃ supertypes,
      (∀ made, ((r.supertypes? limit name).run e made).result = .ok (some supertypes)) ∧
      (r.admits (name :: supertypes) →
        ∃ found,
          (∀ made, ((r.inheritedMembers? limit name).run e made).result = .ok (some found)) ∧
            r.ListsMembersOf e es (lineage name supertypes) found) := by
  obtain ⟨supertypes, hsupertypes, hnodup, hnames⟩ := r.exists_supertypes hs hname hlimit
  refine ⟨supertypes, hsupertypes, fun hadmits => ?_⟩
  refine ⟨_, fun made => ?_, listsMembersOf_lineage hs hfree hnodup hnames⟩
  rw [result_inheritedMembers? hs hname hsupertypes,
    r.run_propertiesOf hs (notMem_bareTypeName_of_mem hfree hnames) hadmits]
  rfl

/-- A type and its supertype, and a record for each of them. -/
theorem run_inheritedMembers?_exact_button :
    let _ : Regex.Limit := .unlimited
    let h : List Change := [.add .type "Button\x00Widget\x00" "b.js",
      .add .type "Widget\x00\x00" "w.js", .add .property "Widget\x00visible" "w.js",
      .add .property "Button\x00label" "b.js", .add .function "Widget\x00show" "w.js"]
    ((({} : Reader).inheritedMembers? 2 "Button").run (MemoryStore.empty.run h).2.engine 0).result =
      .ok (some [
        { name := "visible", owner := "Widget", documents := ["w.js"], details := .property {} },
        { name := "label", owner := "Button", documents := ["b.js"], details := .property {} },
        { name := "show", owner := "Widget", documents := ["w.js"], details := .function {} }]) := by
  intro unlimited h
  have hs : Serving (MemoryStore.empty.run h).2.engine (Entries.ofHistory h) := .memory h
  have hname : ¬ isBlank "Button" := by decide
  have hlimit : ({} : Reader).visitLimit ((Entries.ofHistory h).records [.type]) ≤ 2 := by decide
  obtain ⟨supertypes, hsupertypes, hfound⟩ :=
    run_inheritedMembers?_exact {} hs hname (by decide) hlimit
  have hwidget : ((({} : Reader).supertypes? 2 "Button").run
      (MemoryStore.empty.run h).2.engine 0).result = .ok (some ["Widget"]) := by
    rw [hs.run_eq_constant (asks_supertypes? {} 2 "Button")]
    decide +kernel
  rw [hsupertypes 0, Except.ok.injEq, Option.some.injEq] at hwidget
  subst hwidget
  obtain ⟨found, hrun, hlists⟩ := hfound rfl
  have hlist : found.map some = [
      { name := "visible", owner := "Widget", documents := ["w.js"], details := .property {} },
      { name := "label", owner := "Button", documents := ["b.js"], details := .property {} },
      { name := "show", owner := "Widget", documents := ["w.js"], details := .function {} }].map
        some := by
    rw [hlists.records]
    decide +kernel
  rw [hrun, (List.map_inj_right fun _ _ => Option.some.inj).1 hlist]

/-- An engine that takes 32 bytes for each character of a pattern and no more than ten mebibytes
refuses a long name, which then has no members that could be listed, not even in an index without
records. -/
theorem run_inheritedMembers?_tooLong :
    let _ : Regex.Limit := ⟨fun pattern => 32 * pattern.length ≤ 10 * 2 ^ 20⟩
    let name := String.ofList (List.replicate 400000 'a')
    ¬ isBlank name ∧ '\x00' ∉ name.toList ∧
      ∀ found, ((({} : Reader).inheritedMembers? 1 name).run MemoryStore.empty.engine 0).result ≠
        .ok (some found) := by
  intro tenMebibytes name
  have hs : Serving MemoryStore.empty.engine (Entries.ofHistory []) := .memory []
  have hlist : name.toList = List.replicate 400000 'a' := String.toList_ofList
  have hname : ¬ isBlank name := by
    rw [isBlank, hlist, List.all_replicate]
    decide
  have hfree : '\x00' ∉ name.toList := by
    rw [hlist, List.mem_replicate]
    exact fun h => absurd h.2 (by decide)
  refine ⟨hname, hfree, ?_⟩
  intro found
  have hlimit : ({} : Reader).visitLimit ((Entries.ofHistory []).records [.type]) ≤ 1 := by decide
  obtain ⟨supertypes, hsupertypes, -⟩ := exists_supertypes {} hs hname hlimit
  have hbare : bareTypeName name = name := by
    rw [bareTypeName, if_neg]
    rw [hlist, List.isPrefixOf_iff_prefix]
    exact fun h => absurd (List.eq_of_mem_replicate (h.subset (List.mem_cons_self))) (by decide)
  have hrefused : ¬ ({} : Reader).admits (name :: supertypes) := by
    have hmem : name.toList ∈ Query.bareNames ((name :: supertypes).filter (!isBlank ·)) :=
      List.mem_map.2 ⟨name, List.mem_filter.2 ⟨List.mem_cons_self, by simpa using hname⟩,
        congrArg String.toList hbare⟩
    have hlength : name.toList.length ≤
        (({} : Reader).ownersQuery (name :: supertypes)).pattern.toList.length :=
      Query.length_le_length_pattern _ hmem
    rw [hlist, List.length_replicate] at hlength
    rw [admits, Bool.or_eq_true, not_or]
    refine ⟨by simp [hname], fun hadmits => ?_⟩
    have hle : 32 * (({} : Reader).ownersQuery (name :: supertypes)).pattern.toList.length ≤
        10 * 2 ^ 20 := of_decide_eq_true hadmits
    omega
  rw [result_inheritedMembers? hs hname hsupertypes,
    run_propertiesOf_of_not_admits {} hs hrefused]
  intro h
  cases h

/-- The members that come with a type found under a name are inherited members of that name where
the type is spelled as one of the lineage, and nowhere else unless the name has a delimiter in it. -/
theorem inherited_iff_of_attached [Regex.Limit] (r : Reader) (hs : Serving e es)
    (hname : ¬ isBlank name) (hlimit : r.visitLimit (es.records [.type]) ≤ limit) :
    ∃ supertypes,
      (∀ made, ((r.supertypes? limit name).run e made).result = .ok (some supertypes)) ∧
      (r.admits (name :: supertypes) →
        ∃ members,
          (∀ made, ((r.inheritedMembers? limit name).run e made).result = .ok (some members)) ∧
          ∀ made types, ((r.typesNamed name true).run e made).result = .ok types →
            ∀ t ∈ types, ∀ m ∈ t.properties,
              (bareTypeName t.name ∈ bareTypeName name :: supertypes → m ∈ members) ∧
              (r.delimiters.primary ∉ name.toList → m ∈ members →
                bareTypeName t.name ∈ bareTypeName name :: supertypes)) := by
  obtain ⟨supertypes, hsupertypes, hnodup, hnames⟩ := r.exists_supertypes hs hname hlimit
  have hbare : ∀ x ∈ supertypes, bareTypeName x = x := fun x hx => (hnames x hx).1
  refine ⟨supertypes, hsupertypes, ?_⟩
  intro hadmits
  refine ⟨r.matchedMembers es .property (name :: supertypes) ++
    r.matchedMembers es .function (name :: supertypes), ?_, ?_⟩
  · intro made
    rw [result_inheritedMembers? hs hname hsupertypes, r.run_propertiesOf_of_admits hs hadmits]
    rfl
  · intro made types htypes t ht m hm
    obtain ⟨hall, hblank, howner⟩ := owner_of_mem_properties hs htypes ht hm
    constructor
    · intro hmem
      have howned : isOwned (name :: supertypes) m := by
        rw [isOwned_eq_contains_lineage hbare, List.contains_iff_mem, lineage, List.mem_filter,
          howner]
        exact ⟨hmem, by simpa using hblank⟩
      rw [List.mem_append]
      exact hall.imp (r.mem_matchedMembers · howned) (r.mem_matchedMembers · howned)
    · intro hfree hmem
      have hlineage := notMem_bareTypeName_of_mem hfree hnames
      rw [r.matchedMembers_eq hlineage, r.matchedMembers_eq hlineage, List.mem_append,
        List.mem_filter, List.mem_filter, ← or_and_right, isOwned_eq_contains_lineage hbare,
        List.contains_iff_mem, lineage, List.mem_filter, howner] at hmem
      exact hmem.2.1

/-- Two types that differ in case: the members of the one are inherited, those of the other are
not. -/
theorem inherited_iff_of_attached_button :
    let _ : Regex.Limit := .unlimited
    let h : List Change := [.add .type "Button\x00\x00" "b.js", .add .type "button\x00\x00" "c.js",
      .add .property "Button\x00label" "b.js", .add .property "button\x00hidden" "c.js"]
    let e := (MemoryStore.empty.run h).2.engine
    let label : MemberSymbol :=
      { name := "label", owner := "Button", documents := ["b.js"], details := .property {} }
    let hidden : MemberSymbol :=
      { name := "hidden", owner := "button", documents := ["c.js"], details := .property {} }
    ((({} : Reader).typesNamed "Button" true).run e 0).result = .ok [
        { name := "Button", documents := ["b.js"], properties := [label], assembled := true },
        { name := "button", documents := ["c.js"], properties := [hidden], assembled := true }] ∧
      ∃ members, ((({} : Reader).inheritedMembers? 2 "Button").run e 0).result = .ok (some members) ∧
        label ∈ members ∧ hidden ∉ members := by
  intro unlimited h e label hidden
  have hs : Serving e (Entries.ofHistory h) := .memory h
  have htypes : ((({} : Reader).typesNamed "Button" true).run e 0).result = .ok [
      { name := "Button", documents := ["b.js"], properties := [label], assembled := true },
      { name := "button", documents := ["c.js"], properties := [hidden], assembled := true }] := by
    rw [hs.run_eq_constant (asks_typesNamed {} "Button" true)]
    decide +kernel
  have hnone : ((({} : Reader).supertypes? 2 "Button").run e 0).result = .ok (some []) := by
    rw [hs.run_eq_constant (asks_supertypes? {} 2 "Button")]
    decide +kernel
  have hname : ¬ isBlank "Button" := by decide
  have hlimit : ({} : Reader).visitLimit ((Entries.ofHistory h).records [.type]) ≤ 2 := by decide
  obtain ⟨supertypes, hsupertypes, hmembers⟩ := inherited_iff_of_attached {} hs hname hlimit
  rw [hsupertypes 0, Except.ok.injEq, Option.some.injEq] at hnone
  subst hnone
  obtain ⟨members, hrun, hiff⟩ := hmembers rfl
  refine ⟨htypes, members, hrun 0, ?_, ?_⟩
  · exact (hiff 0 _ htypes _ List.mem_cons_self label List.mem_cons_self).1 (by decide)
  · intro hmem
    have hcase := (hiff 0 _ htypes _ (List.mem_cons_of_mem _ List.mem_cons_self) hidden
      List.mem_cons_self).2 (by decide) hmem
    exact absurd hcase (by decide)

/-- Types are found in whatever case, and members are not: what comes with a type that is found under
a name need not be an inherited member of that name. -/
theorem attached_not_inherited_widget :
    let _ : Regex.Limit := .unlimited
    let e := (MemoryStore.empty.run [.add .type "widget\x00" "w.js",
      .add .property "widget\x00visible" "w.js"]).2.engine
    let m : MemberSymbol :=
      { name := "visible", owner := "widget", documents := ["w.js"], details := .property {} }
    ((({} : Reader).typesNamed "Widget" true).run e 0).result =
        .ok [{ name := "widget", documents := ["w.js"], properties := [m], assembled := true }] ∧
      ((({} : Reader).inheritedMembers? 1 "Widget").run e 0).result = .ok (some []) := by
  intro unlimited e m
  have hs : Serving e _ := .memory [.add .type "widget\x00" "w.js",
    .add .property "widget\x00visible" "w.js"]
  rw [hs.run_eq_constant (asks_typesNamed {} "Widget" true),
    hs.run_eq_constant (asks_inheritedMembers? {} 1 "Widget")]
  constructor
  · decide +kernel
  · decide +kernel

end Reader

end SymbolIndex
