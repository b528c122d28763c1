import SymbolIndex.Proofs.Record.Encoding
import SymbolIndex.Proofs.Record.Member
import SymbolIndex.Settings
import Mathlib.Data.List.TakeWhile

/-!
# Reading what was written

A symbol that is written into a record is read back from it, whichever delimiters the settings
give and however many of the empty fields at the end are left out. Each part of the encoding is
undone by the function that reads it: items, annotated names, fields, and the parts of a member.
-/

namespace SymbolIndex

open Text

variable {d : Delimiters} {fields written : List (List Char)}

/-- Settings that a text gives have delimiters that tell everything apart. -/
theorem Settings.valid_of_parse {text : String} {settings : Settings}
    (h : Settings.parse text = .ok settings) : settings.delimiters.Valid := by
  rw [parse] at h
  split at h
  · obtain ⟨rfl, hvalid⟩ := valid_of_validate h
    exact hvalid
  · cases h

namespace Trimmed

/-- A field that is left out is an empty one. -/
theorem getD_eq (h : Trimmed fields written) (i : Nat) : written.getD i [] = fields.getD i [] := by
  obtain ⟨omitted, rfl⟩ := h
  rw [List.getD_eq_getElem?_getD, List.getD_eq_getElem?_getD, List.getElem?_append]
  split
  · rfl
  · rename_i hi
    rw [List.getElem?_eq_none (Nat.le_of_not_lt hi), List.getElem?_replicate]
    split <;> rfl

theorem subset (h : Trimmed fields written) : written ⊆ fields := by
  obtain ⟨omitted, rfl⟩ := h
  exact List.subset_append_left written _

end Trimmed

namespace Record

/-- The fields of a word are those that were written, and empty ones after them. -/
theorem getD_splitOn_word (hw : Trimmed fields written) (hfree : ∀ f ∈ fields, d.primary ∉ f)
    (i : Nat) : (splitOn d.primary (d.word written)).getD i [] = fields.getD i [] := by
  rw [← hw.getD_eq i]
  by_cases hne : written = []
  · subst hne
    cases i <;> rfl
  · rw [Delimiters.word, splitOn_intercalate hne fun f hf => hfree f (hw.subset hf)]

theorem annotatedNames_eq (i : Nat) : annotatedNames d fields i =
    ((splitOn d.sub (fields.getD i [])).map annotatedName).filter fun a => !a.1.isEmpty := by
  rw [annotatedNames]
  exact elim_field? (by rfl) i

theorem fieldText?_eq {s : Option String} {i : Nat} (hs : ∀ t ∈ s, d.IsField t)
    (hfield : fields.getD i [] = optionalField s) : fieldText? fields i = s := by
  rw [fieldText?, field?_eq, hfield]
  cases s with
  | none => rfl
  | some t =>
    have hne : t.toList ≠ [] := mt String.toList_eq_nil_iff.1 (hs t rfl).ne_empty
    simp [optionalField, Option.filter, hne]

theorem fieldItems_eq {texts : List String} {i : Nat} (hs : ∀ s ∈ texts, d.IsItem s)
    (hfield : fields.getD i [] = d.field (texts.map String.toList)) :
    fieldItems d fields i = texts := by
  rw [fieldItems_eq_items, hfield, items, Delimiters.field, nonemptyPieces_intercalate,
    List.map_map]
  · simp
  · rintro _ hmem
    obtain ⟨s, hs', rfl⟩ := List.mem_map.1 hmem
    exact ⟨mt String.toList_eq_nil_iff.1 (hs s hs').ne_empty, (hs s hs').sub⟩

/-- All alternatives of a type together spell it. -/
theorem alternatives?_splitOn (type : String) :
    alternatives? (splitOn Delimiters.typeSeparator type.toList) = some type := by
  have hjoined := intercalate_splitOn Delimiters.typeSeparator type.toList
  cases hs : splitOn Delimiters.typeSeparator type.toList with
  | nil => exact absurd hs (splitOn_ne_nil _ _)
  | cons piece pieces =>
    rw [hs] at hjoined
    exact congrArg some (by rw [hjoined, String.ofList_toList])

/-- A name and its types come back from an item. -/
theorem annotatedName_annotatedItem {name : String} (hname : Delimiters.annotation ∉ name.toList)
    (types : Option (List Char)) : annotatedName (annotatedItem name types) =
      (name.toList, types.elim [] (nonemptyPieces Delimiters.typeSeparator)) := by
  cases types with
  | none =>
    rw [annotatedItem, Option.elim_none, List.append_nil, annotatedName, cut_eq_none_iff.2 hname]
    rfl
  | some types =>
    rw [annotatedItem, Option.elim_some, annotatedName, cut_append_cons hname]
    rfl

/-- A list comes back from a field if each of its items does, and has a name. -/
theorem map_annotatedName_field {α : Type} {as : List α} {item : α → List Char}
    {make : List Char × List (List Char) → α} (hsub : ∀ a ∈ as, d.sub ∉ item a)
    (hname : ∀ a ∈ as, (annotatedName (item a)).1 ≠ [])
    (hmake : ∀ a ∈ as, make (annotatedName (item a)) = a) :
    (((splitOn d.sub (d.field (as.map item))).map annotatedName).filter
      fun a => !a.1.isEmpty).map make = as := by
  by_cases hnil : as = []
  · subst hnil
    rfl
  · rw [Delimiters.field, splitOn_intercalate (by simpa using hnil) (by simpa using hsub),
      List.filter_eq_self.2 (by simpa using hname), List.map_map, List.map_map]
    exact (List.map_congr_left hmake).trans (List.map_id' as)

end Record

/-- An item holds no characters but those of its name, of its types, and what annotates them. -/
theorem notMem_annotatedItem {name : String} {types : Option (List Char)} {c : Char}
    (hc : c ≠ Delimiters.annotation) (hname : c ∉ name.toList) (htypes : ∀ ts ∈ types, c ∉ ts) :
    c ∉ annotatedItem name types := by
  cases types with
  | none => simpa [annotatedItem] using hname
  | some ts => simp [annotatedItem, hname, hc, htypes ts rfl]

namespace Parameter

variable {p : Parameter}

theorem notMem_item {c : Char} (hc : Delimiters.isReserved c = false) (hname : c ∉ p.name.toList)
    (htypes : ∀ type ∈ p.types, c ∉ type.toList) : c ∉ p.item := by
  simp only [Delimiters.isReserved, Bool.or_eq_false_iff, beq_eq_false_iff_ne] at hc
  apply notMem_annotatedItem hc.1 hname
  intro ts hts
  obtain ⟨-, rfl⟩ : _ ∧ _ = ts := by simpa using hts
  exact notMem_intercalate hc.2 (List.forall_mem_map.2 htypes)

/-- No delimiter cuts the item of a parameter. -/
theorem delimiters_notMem_item (hd : d.Valid) (h : p.Writable d) :
    d.primary ∉ p.item ∧ d.sub ∉ p.item := by
  constructor
  · apply notMem_item hd.2.1 h.name.primary
    intro type htype
    exact (h.types type htype).1.primary
  · apply notMem_item hd.2.2 h.name.sub
    intro type htype
    exact (h.types type htype).1.sub

/-- A parameter comes back from its item. -/
theorem annotatedName_item (h : p.Writable d) :
    Record.annotatedName p.item = (p.name.toList, p.types.map String.toList) := by
  rw [item, Record.annotatedName_annotatedItem h.annotation]
  split
  · rename_i hnil
    rw [hnil]
    rfl
  · rw [Option.elim_some, nonemptyPieces_intercalate]
    intro ts hts
    obtain ⟨type, htype, rfl⟩ := List.mem_map.1 hts
    obtain ⟨hitem, hseparator⟩ := h.types type htype
    exact ⟨mt String.toList_eq_nil_iff.1 hitem.ne_empty, hseparator⟩

end Parameter

namespace EventField

variable {f : EventField}

theorem notMem_item {c : Char} (hc : Delimiters.isReserved c = false) (hname : c ∉ f.name.toList)
    (htype : ∀ type ∈ f.typeName, c ∉ type.toList) : c ∉ f.item := by
  simp only [Delimiters.isReserved, Bool.or_eq_false_iff, beq_eq_false_iff_ne] at hc
  apply notMem_annotatedItem hc.1 hname
  intro ts hts
  obtain ⟨type, hmem, rfl⟩ := Option.map_eq_some_iff.1 hts
  exact htype type hmem

theorem delimiters_notMem_item (hd : d.Valid) (h : f.Writable d) :
    d.primary ∉ f.item ∧ d.sub ∉ f.item := by
  constructor
  · apply notMem_item hd.2.1 h.name.primary
    intro type htype
    exact (h.type type htype).1.primary
  · apply notMem_item hd.2.2 h.name.sub
    intro type htype
    exact (h.type type htype).1.sub

/-- An event field comes back from its item, its type cut into alternatives. -/
theorem annotatedName_item (h : f.Writable d) : Record.annotatedName f.item =
    (f.name.toList, f.typeName.elim [] fun type =>
      splitOn Delimiters.typeSeparator type.toList) := by
  rw [item, Record.annotatedName_annotatedItem h.annotation]
  cases hf : f.typeName with
  | none => rfl
  | some type =>
    rw [Option.map_some, Option.elim_some, Option.elim_some, nonemptyPieces, List.filter_eq_self.2]
    simpa using (h.type type hf).2

end EventField

theorem notMem_optionalField {s : Option String} (h : ∀ t ∈ s, d.IsField t) :
    d.primary ∉ optionalField s := by
  cases s with
  | none => exact List.not_mem_nil
  | some t => exact (h t rfl).primary

namespace Delimiters.Valid

variable (hd : d.Valid)
include hd

/-- The primary delimiter is in a field only if it is in an item. -/
theorem notMem_field {items : List (List Char)} (h : ∀ item ∈ items, d.primary ∉ item) :
    d.primary ∉ d.field items :=
  notMem_intercalate hd.1 h

theorem notMem_field_texts {texts : List String} (h : ∀ s ∈ texts, d.IsItem s) :
    d.primary ∉ d.field (texts.map String.toList) :=
  hd.notMem_field (List.forall_mem_map.2 fun s hs => (h s hs).primary)

theorem notMem_typeFields {t : TypeSymbol} (h : t.Writable d) :
    ∀ f ∈ t.fields d, d.primary ∉ f := by
  simp only [TypeSymbol.fields, List.forall_mem_cons]
  exact ⟨h.name.primary, hd.notMem_field_texts h.parents, notMem_optionalField h.description,
    List.forall_mem_nil _⟩

theorem notMem_payload {m : MemberSymbol} (h : m.Writable d) :
    ∀ f ∈ m.payload d, d.primary ∉ f := by
  rw [MemberSymbol.payload, List.forall_mem_append, List.forall_mem_singleton]
  refine ⟨?_, notMem_optionalField h.description⟩
  have hdetails := h.details
  cases hm : m.details with
  | property p =>
    rw [hm] at hdetails
    exact List.forall_mem_singleton.2 (hd.notMem_field_texts hdetails.1)
  | function f =>
    rw [hm] at hdetails
    obtain ⟨htypes, hparameters, -⟩ := hdetails
    have hitems : d.primary ∉ d.field (f.parameters.map Parameter.item) :=
      hd.notMem_field (List.forall_mem_map.2 fun p hp =>
        (Parameter.delimiters_notMem_item hd (hparameters p hp)).1)
    exact List.forall_mem_cons.2 ⟨hd.notMem_field_texts htypes, List.forall_mem_singleton.2 hitems⟩
  | event fs =>
    rw [hm] at hdetails
    have hitems : d.primary ∉ d.field (fs.map EventField.item) :=
      hd.notMem_field (List.forall_mem_map.2 fun f hf =>
        (EventField.delimiters_notMem_item hd (hdetails f hf)).1)
    exact List.forall_mem_singleton.2 hitems

end Delimiters.Valid

namespace Record

/-- A type comes back from its record. -/
theorem toType?_record (hd : d.Valid) {t : TypeSymbol} (h : t.Writable d)
    (hw : Trimmed (t.fields d) written) : (t.record d written).toType? d = some t := by
  have hget := getD_splitOn_word hw (hd.notMem_typeFields h)
  have hname : fieldText? (splitOn d.primary (d.word written)) 0 = some t.name :=
    fieldText?_eq (by simpa using h.name) (hget 0)
  have hparents : fieldItems d (splitOn d.primary (d.word written)) 1 = t.parents :=
    fieldItems_eq h.parents (hget 1)
  have hdescription : fieldText? (splitOn d.primary (d.word written)) 2 = t.description :=
    fieldText?_eq h.description (hget 2)
  obtain ⟨hproperties, hevents, hassembled⟩ := h.bare
  rw [toType?, TypeSymbol.record, String.toList_ofList, hname, hparents, hdescription]
  cases t
  subst hproperties hevents hassembled
  rfl

variable {m : MemberSymbol}

theorem parameters_eq (hd : d.Valid) {ps : List Parameter} (h : ∀ p ∈ ps, p.Writable d) {i : Nat}
    (hfield : fields.getD i [] = d.field (ps.map Parameter.item)) : parameters d fields i = ps := by
  rw [parameters, annotatedNames_eq, hfield]
  apply map_annotatedName_field
  · intro p hp
    exact (Parameter.delimiters_notMem_item hd (h p hp)).2
  · intro p hp
    rw [Parameter.annotatedName_item (h p hp)]
    exact mt String.toList_eq_nil_iff.1 (h p hp).name.ne_empty
  · intro p hp
    rw [Parameter.annotatedName_item (h p hp), (h p hp).plain]
    simp

theorem eventFields_eq (hd : d.Valid) {fs : List EventField} (h : ∀ f ∈ fs, f.Writable d) {i : Nat}
    (hfield : fields.getD i [] = d.field (fs.map EventField.item)) :
    eventFields d fields i = fs := by
  rw [eventFields, annotatedNames_eq, hfield]
  apply map_annotatedName_field
  · intro f hf
    exact (EventField.delimiters_notMem_item hd (h f hf)).2
  · intro f hf
    rw [EventField.annotatedName_item (h f hf)]
    exact mt String.toList_eq_nil_iff.1 (h f hf).name.ne_empty
  · intro f hf
    rw [EventField.annotatedName_item (h f hf), (h f hf).plain]
    cases f.typeName with
    | none => simp [alternatives?]
    | some type => simp [alternatives?_splitOn]

theorem memberParts_word {owner name : List Char} (howner : d.primary ∉ owner)
    (hname : d.primary ∉ name) :
    memberParts d (d.word (owner :: name :: written)) = (owner, name, d.word written) := by
  cases written with
  | nil => simpa [Delimiters.word] using memberParts_short howner hname
  | cons f fs => simpa [Delimiters.word] using memberParts_long howner hname _

/-- The details of a member and its description come back from its fields. -/
theorem positionalDetails?_payload (hd : d.Valid) (h : m.Writable d)
    (hget : ∀ i, fields.getD i [] = (m.payload d).getD i []) :
    positionalDetails? d m.category fields = some (m.description, m.details) := by
  have hdetails := h.details
  rw [MemberSymbol.category]
  cases hm : m.details with
  | property p =>
    rw [MemberSymbol.payload, hm] at hget
    rw [hm] at hdetails
    obtain ⟨htypes, hplain⟩ := hdetails
    rw [positionalDetails?, fieldText?_eq h.description (hget 1), fieldItems_eq htypes (hget 0),
      ← hplain]
  | function f =>
    rw [MemberSymbol.payload, hm] at hget
    rw [hm] at hdetails
    obtain ⟨htypes, hparameters, hplain⟩ := hdetails
    rw [positionalDetails?, fieldText?_eq h.description (hget 2), fieldItems_eq htypes (hget 0),
      parameters_eq hd hparameters (hget 1), ← hplain]
  | event fs =>
    rw [MemberSymbol.payload, hm] at hget
    rw [hm] at hdetails
    rw [positionalDetails?, fieldText?_eq h.description (hget 1),
      eventFields_eq hd hdetails (hget 0)]

theorem holdsPayload_iff {rest : List Char} :
    holdsPayload rest ↔ rest.find? (!isBlankChar ·) = some '\x7b' := by
  rw [holdsPayload, dropBlank, ← List.find?_not_eq_head?_dropWhile, beq_iff_eq]

/-- Whether a member's word goes on with fields after the name, and not with a JSON object. -/
def Positional (d : Delimiters) (r : Record) : Prop :=
  (memberParts d r.word.toList).2.2.find? (!isBlankChar ·) ≠ some '\x7b'

instance (r : Record) : Decidable (r.Positional d) := inferInstanceAs (Decidable (_ ≠ _))

theorem Positional.holdsPayload_eq {r : Record} (hr : r.Positional d) :
    holdsPayload (memberParts d r.word.toList).2.2 = false :=
  Bool.eq_false_iff.2 (mt holdsPayload_iff.1 hr)

/-- What is read from a member's record is decided by what stands after the name. -/
theorem toMember?_record_eq (howner : d.primary ∉ m.owner.toList) (hname : d.IsField m.name)
    (category : Category) (written : List (List Char)) :
    (m.record d written).toMember? d category =
      (if holdsPayload (d.word written) then payloadDetails? category (d.word written)
        else positionalDetails? d category (splitOn d.primary (d.word written))).map fun found =>
          { m with description := found.1, details := found.2 } := by
  have hparts : memberParts d (d.word (m.owner.toList :: m.name.toList :: written)) =
      (m.owner.toList, m.name.toList, d.word written) :=
    memberParts_word howner hname.primary
  have hne : m.name.toList.isEmpty = false := by
    simpa using hname.ne_empty
  rw [toMember?, MemberSymbol.record, String.toList_ofList, hparts]
  simp [hne]

/-- A member comes back from its record unless the fields look like a JSON object. -/
theorem toMember?_record (hd : d.Valid) (h : m.Writable d) (hw : Trimmed (m.payload d) written)
    (hopen : (d.word written).find? (!isBlankChar ·) ≠ some '\x7b') :
    (m.record d written).toMember? d m.category = some m := by
  have hdetails := positionalDetails?_payload hd h (getD_splitOn_word hw (hd.notMem_payload h))
  rw [toMember?_record_eq h.owner h.name, if_neg (mt holdsPayload_iff.1 hopen), hdetails]
  rfl

end Record

/-- What is written is read back, with its documents: a type from the word of its fields, and a
member from the word of its owner, its name and its fields, with or without empty fields at the
end. The delimiters are any that settings can give. -/
theorem Record.read_written {text : String} {settings : Settings}
    (hsettings : Settings.parse text = .ok settings) :
    (∀ (t : TypeSymbol) (written : List (List Char)), t.Writable settings.delimiters →
      Trimmed (t.fields settings.delimiters) written →
      (t.record settings.delimiters written).toType? settings.delimiters = some t) ∧
    ∀ (m : MemberSymbol) (written : List (List Char)), m.Writable settings.delimiters →
      Trimmed (m.payload settings.delimiters) written →
      (settings.delimiters.word written).find? (!isBlankChar ·) ≠ some '\x7b' →
      (m.record settings.delimiters written).toMember? settings.delimiters m.category = some m := by
  have hd := Settings.valid_of_parse hsettings
  constructor
  · intro t written h hw
    exact Record.toType?_record hd h hw
  · intro m written h hw hopen
    exact Record.toMember?_record hd h hw hopen

/-- A type without a description, and a function whose parameter has a type with a colon. -/
theorem Record.read_written_hash :
    Settings.parse "[delimiters]\nprimary = '#'\nsub = ';'" = .ok { delimiters := ⟨'#', ';'⟩ } ∧
      toType? ⟨'#', ';'⟩ ⟨"Button#Widget;Base", ["b.js"]⟩ =
        some { name := "Button", parents := ["Widget", "Base"], documents := ["b.js"] } ∧
      toMember? ⟨'#', ';'⟩ .function ⟨"Button#move##x:ui::Point|Number;y#", ["b.js"]⟩ =
        some {
          name := "move", owner := "Button", documents := ["b.js"]
          details := .function { parameters := [
            { name := "x", types := ["ui::Point", "Number"] }, { name := "y" }] } } := by
  have hsettings : Settings.parse "[delimiters]\nprimary = '#'\nsub = ';'" =
      .ok { delimiters := ⟨'#', ';'⟩ } := rfl
  obtain ⟨htypes, hmembers⟩ := Record.read_written hsettings
  refine ⟨hsettings, ?_, ?_⟩
  · exact htypes { name := "Button", parents := ["Widget", "Base"], documents := ["b.js"] }
      ["Button".toList, "Widget;Base".toList] (by decide) ⟨1, by decide⟩
  · exact hmembers {
      name := "move", owner := "Button", documents := ["b.js"]
      details := .function { parameters := [
        { name := "x", types := ["ui::Point", "Number"] }, { name := "y" }] } }
      [[], "x:ui::Point|Number;y".toList, []] (by decide) ⟨0, by decide⟩ (by decide)

end SymbolIndex
