import SymbolIndex.Proofs.Record.RoundTrip
import SymbolIndex.Proofs.Record.Type

/-!
# What reading leaves of a word

However a word is formed, the fields after a member's name are read into a member that can be
written: the delimiters are gone with the cuts, and whatever is empty has been left out. So a member
that was read comes back from its own record, and reading settles after the first time.
-/

namespace SymbolIndex

open Text

variable {d : Delimiters} {cs : List Char} {i : Nat}

namespace Record

/-- A field that is there is not empty, and nothing cuts it. -/
theorem isField_of_fieldText? {s : String}
    (h : fieldText? (splitOn d.primary cs) i = some s) : d.IsField s := by
  refine ⟨?_, notMem_of_fieldText? h⟩
  obtain ⟨field, hfield, rfl⟩ := Option.map_eq_some_iff.1 h
  have hne : field ≠ [] := by simpa using (Option.filter_eq_some_iff.1 hfield).2
  simpa using hne

theorem isItem_of_mem_fieldItems {s : String}
    (h : s ∈ fieldItems d (splitOn d.primary cs) i) : d.IsItem s := by
  have hprimary := notMem_of_mem_fieldItems h
  rw [fieldItems_eq_items, items] at h
  obtain ⟨item, hitem, rfl⟩ := List.mem_map.1 h
  obtain ⟨hne, hpiece⟩ := mem_nonemptyPieces.1 hitem
  exact ⟨⟨by simpa using hne, hprimary⟩, by simpa using notMem_of_mem_splitOn hpiece⟩

/-- A name with its types, as an item can hold them. -/
structure IsAnnotated (d : Delimiters) (a : List Char × List (List Char)) : Prop where
  name : d.IsItem (.ofList a.1)
  annotation : Delimiters.annotation ∉ a.1
  types : ∀ type ∈ a.2, d.IsItem (.ofList type) ∧ Delimiters.typeSeparator ∉ type

/-- An item with a name is cut into such a name and such types. -/
theorem isAnnotated_annotatedName {item : List Char} (hprimary : d.primary ∉ item)
    (hsub : d.sub ∉ item) (hne : (annotatedName item).1 ≠ []) :
    IsAnnotated d (annotatedName item) := by
  have hitem : ∀ part : List Char, part ⊆ item → part ≠ [] → d.IsItem (.ofList part) := by
    intro part hpart hne
    have hfree : d.primary ∉ part ∧ d.sub ∉ part :=
      ⟨fun hmem => hprimary (hpart hmem), fun hmem => hsub (hpart hmem)⟩
    exact ⟨⟨by simpa using hne, by simpa using hfree.1⟩, by simpa using hfree.2⟩
  rw [annotatedName] at hne ⊢
  cases hcut : cut Delimiters.annotation item with
  | none =>
    simp only [hcut] at hne
    exact ⟨hitem item (List.Subset.refl item) hne, cut_eq_none_iff.1 hcut, List.forall_mem_nil _⟩
  | some p =>
    obtain ⟨name, types⟩ := p
    simp only [hcut] at hne
    obtain ⟨hjoined, hannotation⟩ := cut_eq_some_iff.1 hcut
    have hname : name ⊆ item := hjoined ▸ List.subset_append_left name _
    have htypes : types ⊆ item := by
      rw [hjoined]
      exact List.subset_append_of_subset_right name (List.subset_cons_self _ types)
    refine ⟨hitem name hname hne, hannotation, ?_⟩
    intro type htype
    obtain ⟨hne, hpiece⟩ := mem_nonemptyPieces.1 htype
    have hpart : type ⊆ item := List.Subset.trans (subset_of_mem_splitOn hpiece) htypes
    exact ⟨hitem type hpart hne, notMem_of_mem_splitOn hpiece⟩

theorem isAnnotated_of_mem {a : List Char × List (List Char)}
    (h : a ∈ annotatedNames d (splitOn d.primary cs) i) : IsAnnotated d a := by
  rw [annotatedNames_eq] at h
  obtain ⟨hmem, hname⟩ := List.mem_filter.1 h
  obtain ⟨item, hitem, rfl⟩ := List.mem_map.1 hmem
  have hprimary : d.primary ∉ item := fun hin =>
    notMem_getD_splitOn d.primary cs i (subset_of_mem_splitOn hitem hin)
  exact isAnnotated_annotatedName hprimary (notMem_of_mem_splitOn hitem) (by simpa using hname)

namespace IsAnnotated

variable {a : List Char × List (List Char)}

theorem parameter (h : IsAnnotated d a) :
    Parameter.Writable d { name := .ofList a.1, types := a.2.map String.ofList } where
  name := h.name
  annotation := by simpa using h.annotation
  types := by
    rintro _ hmem
    obtain ⟨type, htype, rfl⟩ := List.mem_map.1 hmem
    simpa using h.types type htype
  plain := rfl

/-- The types of an event field come apart again where they were joined. -/
theorem splitOn_alternatives (h : IsAnnotated d a) {type : String}
    (htype : alternatives? a.2 = some type) :
    splitOn Delimiters.typeSeparator type.toList = a.2 := by
  cases hall : a.2 with
  | nil => simp [hall, alternatives?] at htype
  | cons first others =>
    rw [hall] at htype
    obtain rfl := Option.some.inj htype
    rw [String.toList_ofList]
    refine splitOn_intercalate (List.cons_ne_nil first others) ?_
    intro piece hpiece
    exact (h.types piece (hall ▸ hpiece)).2

theorem isItem_alternatives (hd : d.Valid) (h : IsAnnotated d a) {type : String}
    (htype : alternatives? a.2 = some type) : d.IsItem type := by
  have hsplit := h.splitOn_alternatives htype
  have hfree : ∀ c, Delimiters.isReserved c = false →
      (∀ piece ∈ a.2, c ∉ (String.ofList piece).toList) → c ∉ type.toList := by
    intro c hc hpieces
    simp only [Delimiters.isReserved, Bool.or_eq_false_iff, beq_eq_false_iff_ne] at hc
    rw [← intercalate_splitOn Delimiters.typeSeparator type.toList, hsplit]
    exact notMem_intercalate hc.2 (by simpa using hpieces)
  refine ⟨⟨?_, hfree d.primary hd.2.1 fun piece hpiece => (h.types piece hpiece).1.primary⟩,
    hfree d.sub hd.2.2 fun piece hpiece => (h.types piece hpiece).1.sub⟩
  -- The empty text is one empty piece, and no type is empty.
  rintro rfl
  have hempty : [] ∈ a.2 := hsplit ▸ List.mem_singleton_self []
  exact (h.types [] hempty).1.ne_empty rfl

theorem eventField (hd : d.Valid) (h : IsAnnotated d a) :
    EventField.Writable d { name := .ofList a.1, typeName := alternatives? a.2 } where
  name := h.name
  annotation := by simpa using h.annotation
  type := by
    intro type htype
    refine ⟨h.isItem_alternatives hd htype, ?_⟩
    rw [h.splitOn_alternatives htype]
    intro piece hpiece
    simpa using (h.types piece hpiece).1.ne_empty
  plain := rfl

end IsAnnotated

/-- The fields of a word give details that can be written, and such a description. -/
theorem writable_positionalDetails? (hd : d.Valid) {category : Category}
    {description : Option String} {details : MemberDetails}
    (h : positionalDetails? d category (splitOn d.primary cs) = some (description, details)) :
    details.Writable d ∧ ∀ s ∈ description, d.IsField s := by
  cases category with
  | property =>
    cases h
    refine ⟨⟨?_, rfl⟩, fun _ hs => isField_of_fieldText? hs⟩
    exact fun _ htype => isItem_of_mem_fieldItems htype
  | function =>
    cases h
    refine ⟨⟨fun _ htype => isItem_of_mem_fieldItems htype, ?_, rfl⟩,
      fun _ hs => isField_of_fieldText? hs⟩
    exact List.forall_mem_map.2 fun a ha => (isAnnotated_of_mem ha).parameter
  | event =>
    cases h
    refine ⟨?_, fun _ hs => isField_of_fieldText? hs⟩
    exact List.forall_mem_map.2 fun a ha => (isAnnotated_of_mem ha).eventField hd
  | type => cases h
  | require => cases h

/-- The name of a member is the second field of its word. -/
theorem memberParts_name (d : Delimiters) (word : List Char) :
    (memberParts d word).2.1 = (splitOn d.primary word).getD 1 [] := by
  rw [memberParts]
  cases hcut : cut d.primary word with
  | none =>
    rw [splitOn_of_notMem (cut_eq_none_iff.1 hcut)]
    rfl
  | some p =>
    obtain ⟨owner, rest⟩ := p
    rw [splitOn_of_cut hcut]
    cases hcut' : cut d.primary rest with
    | none =>
      rw [splitOn_of_notMem (cut_eq_none_iff.1 hcut')]
      simp [hcut']
    | some q =>
      rw [splitOn_of_cut hcut']
      simp [hcut']

variable {r : Record} {category : Category} {m : MemberSymbol}

theorem toMember?_eq_of_positional (hr : r.Positional d) (category : Category) :
    r.toMember? d category =
      if (memberParts d r.word.toList).2.1 = [] then none
      else (positionalDetails? d category
        (splitOn d.primary (memberParts d r.word.toList).2.2)).map fun found =>
          { name := .ofList (memberParts d r.word.toList).2.1
            owner := .ofList (memberParts d r.word.toList).1
            description := found.1, documents := r.documents, details := found.2 } := by
  simp only [toMember?, hr.holdsPayload_eq, List.isEmpty_iff]
  rfl

/-- No member is read exactly where the name is missing or empty. -/
theorem toMember?_eq_none_iff (hr : r.Positional d)
    (hcategory : category ∈ [.property, .function, .event]) :
    r.toMember? d category = none ↔ field? (splitOn d.primary r.word.toList) 1 = none := by
  have hfields : ∀ fields, positionalDetails? d category fields ≠ none := by
    intro fields
    simp only [List.mem_cons, List.not_mem_nil, or_false] at hcategory
    rcases hcategory with rfl | rfl | rfl <;> nofun
  rw [toMember?_eq_of_positional hr, field?_eq, ← memberParts_name]
  by_cases hname : (memberParts d r.word.toList).2.1 = []
  · simp [hname]
  · simp [hname, hfields]

/-- Where each part of a member comes from. -/
theorem details_of_toMember? (hr : r.Positional d) (h : r.toMember? d category = some m) :
    ∃ rest, memberParts d r.word.toList = (m.owner.toList, m.name.toList, rest) ∧
      m.name.toList ≠ [] ∧ m.documents = r.documents ∧
      positionalDetails? d category (splitOn d.primary rest) = some (m.description, m.details) := by
  obtain ⟨rest, hparts, hne⟩ := memberParts_of_toMember? h
  rw [toMember?_eq_of_positional hr, hparts, if_neg hne] at h
  obtain ⟨⟨description, details⟩, hfields, hm⟩ := Option.map_eq_some_iff.1 h
  refine ⟨rest, hparts, hne, ?_, ?_⟩
  · rw [← hm]
  · rw [← hm]
    exact hfields

/-- What is read from the fields of a word can be written. -/
theorem writable_of_toMember? (hd : d.Valid) (hr : r.Positional d)
    (h : r.toMember? d category = some m) : m.Writable d := by
  obtain ⟨rest, hparts, hne, -, hfields⟩ := details_of_toMember? hr h
  obtain ⟨howner, hname, -⟩ := word_of_memberParts hparts hne
  obtain ⟨hdetails, hdescription⟩ := writable_positionalDetails? hd hfields
  exact ⟨howner, ⟨by simpa using hne, hname⟩, hdetails, hdescription⟩

theorem category_of_toMember? (hr : r.Positional d) (h : r.toMember? d category = some m) :
    m.category = category := by
  obtain ⟨rest, -, -, -, hfields⟩ := details_of_toMember? hr h
  cases category with
  | property | function | event =>
    obtain ⟨-, hdetails⟩ := Prod.mk.inj (Option.some.inj hfields)
    rw [MemberSymbol.category, ← hdetails]
  | type | require => cases hfields

end Record

/-- Reading a member from the fields of a word brings it into a form that stays. A word gives no
member exactly if its second field is missing or empty. A member that it gives is of the category
that was asked for, has the documents of the record, and holds nothing that a record could not say:
no delimiter, nothing empty where something has to be, and no sign inside a name or a type that
would annotate it. Written with all of its fields or without empty ones at the end, it is read again
as it is, unless what was written then looks like a JSON object. -/
theorem Record.reading_settles {text : String} {settings : Settings}
    (hsettings : Settings.parse text = .ok settings) {category : Category}
    (hcategory : category ∈ [.property, .function, .event]) {r : Record}
    (hr : r.Positional settings.delimiters) :
    (r.toMember? settings.delimiters category = none ↔
      field? (splitOn settings.delimiters.primary r.word.toList) 1 = none) ∧
    ∀ m, r.toMember? settings.delimiters category = some m →
      m.category = category ∧ m.documents = r.documents ∧ m.Writable settings.delimiters ∧
      ∀ written, Trimmed (m.payload settings.delimiters) written →
        (settings.delimiters.word written).find? (!isBlankChar ·) ≠ some '\x7b' →
        (m.record settings.delimiters written).toMember? settings.delimiters category = some m := by
  have hd := Settings.valid_of_parse hsettings
  refine ⟨Record.toMember?_eq_none_iff hr hcategory, ?_⟩
  intro m hm
  have hmcategory := Record.category_of_toMember? hr hm
  have hwritable := Record.writable_of_toMember? hd hr hm
  obtain ⟨-, -, -, hdocuments, -⟩ := Record.details_of_toMember? hr hm
  refine ⟨hmcategory, hdocuments, hwritable, ?_⟩
  intro written hwritten hopen
  rw [← hmcategory]
  exact Record.toMember?_record hd hwritable hwritten hopen

/-- Empty items and alternatives, an item without a name, a type with a colon and one field too
many: the member is read again from a word without any of this. -/
theorem Record.reading_settles_hash :
    let read : MemberSymbol := {
      name := "move", owner := "Button", description := some "Moves it", documents := ["b.js"]
      details := .function {
        returnTypes := ["Boolean"]
        parameters := [{ name := "x", types := ["Number", "ui::Point"] }, { name := "y" }] } }
    Settings.parse "[delimiters]\nprimary = '#'\nsub = ';'" = .ok { delimiters := ⟨'#', ';'⟩ } ∧
      toMember? ⟨'#', ';'⟩ .function
        ⟨"Button#move#;Boolean;;#x:Number||ui::Point|;:z;y:#Moves it#more", ["b.js"]⟩ = some read ∧
      read.Writable ⟨'#', ';'⟩ ∧
      toMember? ⟨'#', ';'⟩ .function
        ⟨"Button#move#Boolean#x:Number|ui::Point;y#Moves it", ["b.js"]⟩ = some read := by
  intro read
  have hsettings : Settings.parse "[delimiters]\nprimary = '#'\nsub = ';'" =
      .ok { delimiters := ⟨'#', ';'⟩ } := rfl
  have hread : toMember? ⟨'#', ';'⟩ .function
      ⟨"Button#move#;Boolean;;#x:Number||ui::Point|;:z;y:#Moves it#more", ["b.js"]⟩ =
        some read := by decide
  have hrecord : read.record ⟨'#', ';'⟩ (read.payload ⟨'#', ';'⟩) =
      ⟨"Button#move#Boolean#x:Number|ui::Point;y#Moves it", ["b.js"]⟩ := by decide
  obtain ⟨-, -, hwritable, hagain⟩ :=
    (reading_settles hsettings (by decide) (by decide)).2 read hread
  have hwritten := hagain (read.payload ⟨'#', ';'⟩) ⟨0, (List.append_nil _).symm⟩ (by decide)
  exact ⟨hsettings, hread, hwritable, hrecord ▸ hwritten⟩

end SymbolIndex
