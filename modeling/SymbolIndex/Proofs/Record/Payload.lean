import Mathlib.Data.List.Forall2
import SymbolIndex.Proofs.Json.Blanks
import SymbolIndex.Proofs.Json.Field
import SymbolIndex.Proofs.Record.RoundTrip

/-!
# Members with details in JSON

The details of a member may be given by a JSON object after its name. Its members may come in any
order, those that hold a default may be missing, and the object may be spelled in every way that
the grammar has. The member comes back with the fields that its category knows, under whichever
delimiters: nothing in the object is cut.

The reader looks for the object behind all white space, and the grammar knows four blanks only. A
record with other white space before the object is taken for one with an object and dropped.
-/

namespace SymbolIndex

open Text

/-! ## Objects that give the fields of a structure -/

namespace Json

variable {α : Type} {write : α → Json → Prop} {read : Json → Option α} {default a : α}

/-- Whether a reader gives back what is written. -/
def Recovers (write : α → Json → Prop) (read : Json → Option α) : Prop :=
  ∀ a v, write a v → read v = some a

inductive IsText : String → Json → Prop where
  | text (s : String) : IsText s (text s)

inductive IsFlag : Bool → Json → Prop where
  | bool (b : Bool) : IsFlag b (bool b)

/-- A text that is missing may be written as null. -/
inductive IsOptionalText : Option String → Json → Prop where
  | null : IsOptionalText none null
  | text (s : String) : IsOptionalText (some s) (text s)

/-- Arrays with an item for each element of a list. -/
inductive IsArray (write : α → Json → Prop) : List α → Json → Prop where
  | items {as : List α} {vs : List Json} : List.Forall₂ write as vs → IsArray write as (array vs)

/-- What may stand for a field: a value that is written for what the field holds, or nothing where
that is the default. -/
inductive Given (default : α) (write : α → Json → Prop) : α → Option Json → Prop where
  | omitted : Given default write default none
  | value {a : α} {v : Json} : write a v → Given default write a (some v)

/-- Objects of the fields that are given, in any order. -/
inductive IsObject (fields : List (String × Option Json)) : Json → Prop where
  | members {written : List (String × Option Json)} :
    written.Perm fields → IsObject fields (object (present written))

theorem recovers_text : Recovers IsText text? := by
  rintro _ _ ⟨s⟩
  rfl

theorem recovers_flag : Recovers IsFlag flag? := by
  rintro _ _ ⟨b⟩
  rfl

theorem recovers_optionalText : Recovers IsOptionalText optionalText? := by
  intro s v h
  cases h with
  | null => rfl
  | text s => rfl

/-- A list comes back if each of its elements does. -/
theorem Recovers.list (h : Recovers write read) : Recovers (IsArray write) (list? read) := by
  rintro as _ ⟨hitems⟩
  rw [list?]
  induction hitems with
  | nil => rfl
  | cons hitem _ ih =>
    rw [List.mapM_cons, h _ _ hitem, ih]
    rfl

theorem recovers_texts : Recovers (IsArray IsText) texts? := recovers_text.list

/-- A field comes back also where its default is left out. -/
theorem Recovers.withDefault (h : Recovers write read) {field : Option Json}
    (hfield : Given default write a field) : withDefault default read field = some a := by
  cases hfield with
  | omitted => rfl
  | value hv => exact h _ _ hv

/-- All fields of a structure come back from an object, those that are not given as missing ones. -/
theorem IsObject.fields?_eq {fields : List (String × Option Json)} {names : List String} {v : Json}
    (h : IsObject fields v) (hfields : fields.map (·.1) = names) (hnames : names.Nodup) :
    v.fields? names = some (fields.map (·.2)) := by
  obtain ⟨hperm⟩ := h
  exact fields?_present_of_perm hperm hfields hnames

end Json

open Json

/-- Objects that give a parameter. -/
inductive Parameter.GivenBy (p : Parameter) : Json → Prop where
  | object {types usage description : Option Json} {v : Json} :
    Given [] (IsArray IsText) p.types types → Given none IsOptionalText p.usage usage →
    Given none IsOptionalText p.description description →
    IsObject [("name", some (text p.name)), ("types", types), ("usage", usage),
      ("description", description)] v → GivenBy p v

/-- Objects that give an event field. -/
inductive EventField.GivenBy (f : EventField) : Json → Prop where
  | object {typeName description : Option Json} {v : Json} :
    Given none IsOptionalText f.typeName typeName →
    Given none IsOptionalText f.description description →
    IsObject [("name", some (text f.name)), ("type", typeName), ("description", description)] v →
    GivenBy f v

/-- Objects that give the details of a member. -/
inductive Payload.GivenBy (p : Payload) : Json → Prop where
  | object {description types returnTypes parameters fields ofClass ofInstance isConstructor isMethod
      since : Option Json} {v : Json} :
    Given none IsOptionalText p.description description →
    Given [] (IsArray IsText) p.types types →
    Given [] (IsArray IsText) p.returnTypes returnTypes →
    Given [] (IsArray Parameter.GivenBy) p.parameters parameters →
    Given [] (IsArray EventField.GivenBy) p.fields fields →
    Given false IsFlag p.ofClass ofClass → Given false IsFlag p.ofInstance ofInstance →
    Given false IsFlag p.isConstructor isConstructor → Given false IsFlag p.isMethod isMethod →
    Given [] (IsArray IsText) p.since since →
    IsObject [("description", description), ("types", types), ("returnTypes", returnTypes),
      ("parameters", parameters), ("properties", fields), ("isClassProperty", ofClass),
      ("isInstanceProperty", ofInstance), ("isConstructor", isConstructor), ("isMethod", isMethod),
      ("since", since)] v → GivenBy p v

theorem Parameter.recovers : Recovers GivenBy ofJson? := by
  rintro p v ⟨htypes, husage, hdescription, hv⟩
  have hread : v.fields? ["name", "types", "usage", "description"] = _ :=
    hv.fields?_eq rfl (by decide)
  rw [ofJson?, hread]
  simp [recovers_texts.withDefault htypes, recovers_optionalText.withDefault husage,
    recovers_optionalText.withDefault hdescription]

theorem EventField.recovers : Recovers GivenBy ofJson? := by
  rintro f v ⟨htype, hdescription, hv⟩
  have hread : v.fields? ["name", "type", "description"] = _ := hv.fields?_eq rfl (by decide)
  rw [ofJson?, hread]
  simp [recovers_optionalText.withDefault htype, recovers_optionalText.withDefault hdescription]

/-- Details come back from every object that gives them. -/
theorem Payload.recovers : Recovers GivenBy ofJson? := by
  rintro p v ⟨hdescription, htypes, hreturns, hparameters, hfields, hclass, hinstance, hconstructor,
    hmethod, hsince, hv⟩
  have hread : v.fields? names = _ := hv.fields?_eq rfl (by decide)
  rw [ofJson?, hread]
  simp [recovers_optionalText.withDefault hdescription, recovers_texts.withDefault htypes,
    recovers_texts.withDefault hreturns, Parameter.recovers.list.withDefault hparameters,
    EventField.recovers.list.withDefault hfields, recovers_flag.withDefault hclass,
    recovers_flag.withDefault hinstance, recovers_flag.withDefault hconstructor,
    recovers_flag.withDefault hmethod, recovers_texts.withDefault hsince]

/-- The member of a category whose details are given under a name. Types and lists of modules are no
members. -/
def Payload.member? (p : Payload) (owner name : String) (documents : List String) :
    Category → Option MemberSymbol
  | .property => some {
      name, owner, description := p.description.filter (· != ""), documents
      details := .property {
        types := p.types, ofClass := p.ofClass, ofInstance := p.ofInstance, since := p.since } }
  | .function => some {
      name, owner, description := p.description.filter (· != ""), documents
      details := .function {
        returnTypes := p.returnTypes, parameters := p.parameters
        isConstructor := p.isConstructor, isMethod := p.isMethod
        ofClass := p.ofClass, ofInstance := p.ofInstance, since := p.since } }
  | .event => some {
      name, owner, description := p.description.filter (· != ""), documents
      details := .event p.fields }
  | .type | .require => none

/-! ## The records of members with anything after the name -/

namespace Record

variable {d : Delimiters} {owner name : String} {documents : List String} {rest blanks : List Char}

/-- The record of a member with the given text after the name. -/
def ofMember (d : Delimiters) (owner name : String) (rest : List Char) (documents : List String) :
    Record :=
  { word := String.ofList (owner.toList ++ d.primary :: (name.toList ++ d.primary :: rest))
    documents }

/-- What is read from it is decided by that text. -/
theorem toMember?_ofMember (howner : d.primary ∉ owner.toList) (hname : d.IsField name)
    (category : Category) (rest : List Char) (documents : List String) :
    (ofMember d owner name rest documents).toMember? d category =
      (if holdsPayload rest then payloadDetails? category rest
        else positionalDetails? d category (splitOn d.primary rest)).map fun found =>
          { name, owner, description := found.1, documents, details := found.2 } := by
  have hparts := memberParts_long howner hname.primary rest
  have hne : name.toList.isEmpty = false := by simpa using hname.ne_empty
  rw [toMember?, ofMember, String.toList_ofList, hparts]
  simp [hne]

theorem holdsPayload_append (h : ∀ c ∈ blanks, isBlankChar c) (rest : List Char) :
    holdsPayload (blanks ++ rest) = holdsPayload rest := by
  rw [holdsPayload, dropBlank, List.dropWhile_append_of_pos h]
  rfl

@[simp] theorem holdsPayload_brace (rest : List Char) : holdsPayload ('\x7b' :: rest) = true := rfl

/-- An object after the name is read also behind white space, unless some of that is no blank. -/
theorem toMember?_after_blanks (howner : d.primary ∉ owner.toList) (hname : d.IsField name)
    (hblanks : ∀ c ∈ blanks, isBlankChar c) (rest : List Char) (category : Category)
    (documents : List String) :
    (ofMember d owner name (blanks ++ '\x7b' :: rest) documents).toMember? d category =
      if IsSpace blanks then
        (ofMember d owner name ('\x7b' :: rest) documents).toMember? d category
      else none := by
  rw [toMember?_ofMember howner hname, toMember?_ofMember howner hname,
    holdsPayload_append hblanks, holdsPayload_brace]
  simp only [if_true, payloadDetails?]
  split
  · rename_i hspace
    rw [parse_append hspace]
  · rename_i hspace
    rw [parse_eq_none hblanks hspace]
    rfl

/-- White space before an object makes no difference exactly if all of it is blanks, or if nothing
is read without it. -/
theorem payload_after_blanks_iff (howner : d.primary ∉ owner.toList) (hname : d.IsField name)
    (hblanks : ∀ c ∈ blanks, isBlankChar c) (rest : List Char) (category : Category)
    (documents : List String) :
    (ofMember d owner name (blanks ++ '\x7b' :: rest) documents).toMember? d category =
        (ofMember d owner name ('\x7b' :: rest) documents).toMember? d category ↔
      IsSpace blanks ∨
        (ofMember d owner name ('\x7b' :: rest) documents).toMember? d category = none := by
  rw [toMember?_after_blanks howner hname hblanks]
  split
  · rename_i hspace
    simp [hspace]
  · rename_i hspace
    simp [hspace, eq_comm]

/-- A tab and a line break before the object, with a delimiter that is blank itself. -/
theorem payload_after_blanks_iff_tab :
    toMember? ⟨'\t', ','⟩ .property ⟨"Widget\tvisible\t\t\n\x7b\"types\":[\"Boolean\"]\x7d", []⟩ =
      toMember? ⟨'\t', ','⟩ .property ⟨"Widget\tvisible\t\x7b\"types\":[\"Boolean\"]\x7d", []⟩ := by
  have howner : '\t' ∉ "Widget".toList := by decide
  have hname : Delimiters.IsField ⟨'\t', ','⟩ "visible" := by decide
  have hblanks : ∀ c ∈ ['\t', '\n'], isBlankChar c := List.all_eq_true.1 (by decide)
  have hspace : IsSpace ['\t', '\n'] := by decide
  have hsame := (payload_after_blanks_iff howner hname hblanks
    "\"types\":[\"Boolean\"]\x7d".toList .property []).2 (.inl hspace)
  exact hsame

/-- A no-break space before the object, and nothing is read. -/
theorem payload_dropped_after_no_break_space :
    isBlankChar '\u00A0' ∧
      toMember? .standard .property
        ⟨"Widget\x00visible\x00\u00A0\x7b\"types\":[\"Boolean\"]\x7d", ["w.js"]⟩ = none ∧
      toMember? .standard .property
        ⟨"Widget\x00visible\x00\x7b\"types\":[\"Boolean\"]\x7d", ["w.js"]⟩ = some {
          name := "visible", owner := "Widget", documents := ["w.js"]
          details := .property { types := ["Boolean"] } } := by
  refine ⟨by decide, by decide, by decide⟩

/-- A member comes back from a JSON object after its name with what the object gives and its
category knows. The members of the object may come in any order and without those that hold a
default, with characters escaped in any way and with blanks between and around them. The delimiters
have no part in it but that they may not be in the owner and the name: what is read from the record
is the same under all of them. -/
theorem read_payload {p : Payload} {v : Json} (hv : p.GivenBy v) {before spelled after : List Char}
    (hspelled : Spells v spelled) (hbefore : IsSpace before) (hafter : IsSpace after)
    (hne : name ≠ "") (documents : List String) (category : Category) {d : Delimiters}
    (howner : d.primary ∉ owner.toList) (hname : d.primary ∉ name.toList) :
    (ofMember d owner name (before ++ (spelled ++ after)) documents).toMember? d category =
      p.member? owner name documents category := by
  have hpayload : holdsPayload (before ++ (spelled ++ after)) := by
    rw [holdsPayload_append fun c hc => isBlankChar_of_isSpace (hbefore c hc)]
    cases hv with
    | object _ _ _ _ _ _ _ _ _ _ hobject =>
      cases hobject
      cases hspelled
      rfl
  rw [toMember?_ofMember howner ⟨hne, hname⟩, if_pos hpayload, payloadDetails?,
    parse_of_spells hspelled hbefore hafter, Option.bind_eq_bind, Option.bind_some,
    Payload.recovers p v hv]
  cases category <;> rfl

/-- The delimiters are in the object, once behind an escape, and a default is left out. -/
theorem read_payload_colon :
    toMember? ⟨':', '"'⟩ .function
        ⟨"Button:move: \x7b\"isMethod\":true, \"description\":\"a\\u003ab\"\x7d\n", ["b.js"]⟩ =
      some {
        name := "move", owner := "Button", description := some "a:b", documents := ["b.js"]
        details := .function { isMethod := true } } := by
  let p : Payload := { description := some "a:b", isMethod := true }
  let v : Json := .object [("isMethod", .bool true), ("description", .text "a:b")]
  -- The flag comes before the fields that it follows in the payload.
  have hperm := (@List.perm_middle _ ("isMethod", some (Json.bool true))
    [("description", some (.text "a:b")), ("types", none), ("returnTypes", none),
      ("parameters", none), ("properties", none), ("isClassProperty", none),
      ("isInstanceProperty", none), ("isConstructor", none)] [("since", none)]).symm
  have hv : p.GivenBy v :=
    .object (.value (.text "a:b")) .omitted .omitted .omitted .omitted .omitted .omitted .omitted
      (.value (.bool true)) .omitted (.members hperm)
  have hblank : IsSpace [' '] := by decide
  have hspelled : Spells v
      "\x7b\"isMethod\":true, \"description\":\"a\\u003ab\"\x7d".toList := by
    have hescaped : SpellsChars "a:b".toList "a\\u003ab".toList :=
      .cons (.plain (by decide) (by decide) (by decide))
        (.cons (.unit (by decide)) (.cons (.plain (by decide) (by decide) (by decide)) .nil))
    exact .object isSpace_nil (.more
      (.labelled (spellsText_writeText _) isSpace_nil isSpace_nil .true) isSpace_nil hblank
      (.last (.labelled (spellsText_writeText _) isSpace_nil isSpace_nil
        (.text (.quoted hescaped))) isSpace_nil))
  have hend : IsSpace ['\n'] := by decide
  have hne : "move" ≠ "" := by decide
  have howner : ':' ∉ "Button".toList := by decide
  have hname : ':' ∉ "move".toList := by decide
  have hread :=
    read_payload hv hspelled hblank hend hne ["b.js"] .function (d := ⟨':', '"'⟩) howner hname
  exact hread

end Record

end SymbolIndex
