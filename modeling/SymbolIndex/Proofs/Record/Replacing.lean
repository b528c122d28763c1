import Mathlib.Logic.Equiv.Basic
import SymbolIndex.Proofs.Record.RoundTrip

/-!
# Records in other characters

No delimiter is special. Where the characters of a word and the delimiters are replaced together,
and no two by the same one, the same is read from the word, in the other characters. The fields
after a member's name hold signs of their own, which have to stay what they are, and what is blank
has to stay blank.
-/

namespace SymbolIndex

open Text

variable {f : Char → Char}

/-! ## Symbols in other characters

The texts of a symbol are replaced, and its documents stay. -/

/-- Delimiters with other characters. -/
def Delimiters.replace (f : Char → Char) (d : Delimiters) : Delimiters := ⟨f d.primary, f d.sub⟩

/-- A record with other characters in its word. -/
def Record.replace (f : Char → Char) (r : Record) : Record := { r with word := r.word.map f }

def Parameter.replace (f : Char → Char) (p : Parameter) : Parameter where
  name := p.name.map f
  types := p.types.map (String.map f)
  usage := p.usage.map (String.map f)
  description := p.description.map (String.map f)

def EventField.replace (f : Char → Char) (e : EventField) : EventField where
  name := e.name.map f
  typeName := e.typeName.map (String.map f)
  description := e.description.map (String.map f)

def MemberDetails.replace (f : Char → Char) : MemberDetails → MemberDetails
  | .property p => .property { p with
      types := p.types.map (String.map f), since := p.since.map (String.map f) }
  | .function g => .function { g with
      returnTypes := g.returnTypes.map (String.map f)
      parameters := g.parameters.map (Parameter.replace f)
      since := g.since.map (String.map f) }
  | .event fields => .event (fields.map (EventField.replace f))

def MemberSymbol.replace (f : Char → Char) (m : MemberSymbol) : MemberSymbol := { m with
  name := m.name.map f
  owner := m.owner.map f
  description := m.description.map (String.map f)
  details := m.details.replace f }

def TypeSymbol.replace (f : Char → Char) (t : TypeSymbol) : TypeSymbol := { t with
  name := t.name.map f
  parents := t.parents.map (String.map f)
  description := t.description.map (String.map f)
  properties := t.properties.map (MemberSymbol.replace f)
  events := t.events.map (MemberSymbol.replace f) }

/-- Whether the signs in the fields of a member stay, and blanks stay apart from other
characters. -/
structure KeepsSigns (f : Char → Char) : Prop where
  annotation : f Delimiters.annotation = Delimiters.annotation
  typeSeparator : f Delimiters.typeSeparator = Delimiters.typeSeparator
  brace : f '\x7b' = '\x7b'
  blank : ∀ c, isBlankChar (f c) = isBlankChar c

namespace KeepsSigns

/-- Two characters that are no signs may change places, if both are blank or none is. -/
theorem swap {a b : Char} (ha : a ∉ [Delimiters.annotation, Delimiters.typeSeparator, '\x7b'])
    (hb : b ∉ [Delimiters.annotation, Delimiters.typeSeparator, '\x7b'])
    (hblank : isBlankChar a = isBlankChar b) : KeepsSigns (Equiv.swap a b) := by
  simp only [List.mem_cons, List.not_mem_nil, or_false, not_or] at ha hb
  refine ⟨Equiv.swap_apply_of_ne_of_ne (Ne.symm ha.1) (Ne.symm hb.1),
    Equiv.swap_apply_of_ne_of_ne (Ne.symm ha.2.1) (Ne.symm hb.2.1),
    Equiv.swap_apply_of_ne_of_ne (Ne.symm ha.2.2) (Ne.symm hb.2.2), ?_⟩
  intro c
  rw [Equiv.swap_apply_def]
  split
  · rename_i hc
    rw [hc, hblank]
  · split
    · rename_i hc
      rw [hc, hblank]
    · rfl

theorem comp {g : Char → Char} (hg : KeepsSigns g) (hf : KeepsSigns f) : KeepsSigns (g ∘ f) where
  annotation := (congrArg g hf.annotation).trans hg.annotation
  typeSeparator := (congrArg g hf.typeSeparator).trans hg.typeSeparator
  brace := (congrArg g hf.brace).trans hg.brace
  blank c := (hg.blank (f c)).trans (hf.blank c)

end KeepsSigns

theorem Text.map_ofList (cs : List Char) : (String.ofList cs).map f = String.ofList (cs.map f) := by
  rw [← String.toList_inj, String.toList_map, String.toList_ofList, String.toList_ofList]

namespace Record

variable {d : Delimiters} {fields : List (List Char)}

theorem field?_map (i : Nat) :
    field? (fields.map (List.map f)) i = (field? fields i).map (List.map f) := by
  rw [field?, List.getElem?_map, field?]
  cases fields[i]? with
  | none => rfl
  | some field => cases field <;> rfl

theorem fieldText?_map (i : Nat) :
    fieldText? (fields.map (List.map f)) i = (fieldText? fields i).map (String.map f) := by
  rw [fieldText?, field?_map, fieldText?, Option.map_map, Option.map_map]
  exact Option.map_congr fun field _ => (map_ofList field).symm

section Cuts

variable (hf : Function.Injective f)
include hf

theorem items_replace (field : List Char) :
    items (d.replace f) (field.map f) = (items d field).map (String.map f) := by
  rw [items, Delimiters.replace, nonemptyPieces_map hf, items, List.map_map, List.map_map]
  exact List.map_congr_left fun item _ => (map_ofList item).symm

theorem fieldItems_replace (i : Nat) :
    fieldItems (d.replace f) (fields.map (List.map f)) i =
      (fieldItems d fields i).map (String.map f) := by
  rw [fieldItems, field?_map, fieldItems]
  cases field? fields i with
  | none => rfl
  | some field => exact items_replace hf field

theorem splitOn_replace (d : Delimiters) (r : Record) :
    splitOn (d.replace f).primary (r.replace f).word.toList =
      (splitOn d.primary r.word.toList).map (List.map f) := by
  rw [replace, String.toList_map]
  exact splitOn_map hf d.primary r.word.toList

theorem toType?_replace (d : Delimiters) (r : Record) :
    (r.replace f).toType? (d.replace f) = (r.toType? d).map (TypeSymbol.replace f) := by
  simp only [toType?, splitOn_replace hf, fieldText?_map, fieldItems_replace hf, Option.map_map]
  rfl

theorem typeName?_replace (d : Delimiters) (r : Record) :
    (r.replace f).typeName? (d.replace f) = (r.typeName? d).map (String.map f) := by
  have hcut : cut (d.replace f).primary (r.replace f).word.toList =
      (cut d.primary r.word.toList).map (Prod.map (List.map f) (List.map f)) := by
    rw [replace, String.toList_map]
    exact cut_map hf d.primary r.word.toList
  rw [typeName?, hcut, typeName?]
  cases cut d.primary r.word.toList with
  | none => rfl
  | some p =>
    obtain ⟨name, rest⟩ := p
    cases name with
    | nil => rfl
    | cons c cs => exact congrArg some (map_ofList (c :: cs)).symm

theorem modulePaths_replace (d : Delimiters) (r : Record) :
    (r.replace f).modulePaths (d.replace f) = (r.modulePaths d).map (String.map f) := by
  rw [modulePaths, replace, String.toList_map]
  exact items_replace hf r.word.toList

theorem memberParts_replace (d : Delimiters) (word : List Char) :
    memberParts (d.replace f) (word.map f) =
      Prod.map (List.map f) (Prod.map (List.map f) (List.map f)) (memberParts d word) := by
  rw [memberParts, Delimiters.replace, cut_map hf, memberParts]
  cases cut d.primary word with
  | none => rfl
  | some p =>
    obtain ⟨owner, rest⟩ := p
    simp only [Option.map_some, Prod.map_apply, cut_map hf]
    cases cut d.primary rest <;> rfl

end Cuts

/-! ## Signs

From here on the characters stay that have a meaning in the fields of a member. -/

section Signs

variable (hf : Function.Injective f) (hk : KeepsSigns f)

include hk in
theorem alternatives?_map (types : List (List Char)) :
    alternatives? (types.map (List.map f)) = (alternatives? types).map (String.map f) := by
  cases types with
  | nil => rfl
  | cons type types =>
    have hjoined := intercalate_map f Delimiters.typeSeparator (type :: types)
    rw [hk.typeSeparator] at hjoined
    exact congrArg some ((congrArg String.ofList hjoined).trans (map_ofList _).symm)

include hf hk

theorem holdsPayload_map (rest : List Char) : holdsPayload (rest.map f) = holdsPayload rest := by
  have hblank : isBlankChar ∘ f = isBlankChar := funext hk.blank
  rw [holdsPayload, dropBlank, List.dropWhile_map, hblank, List.head?_map, holdsPayload, dropBlank]
  cases (rest.dropWhile isBlankChar).head? with
  | none => rfl
  | some c =>
    have hbrace : f c = '\x7b' ↔ c = '\x7b' := by
      constructor
      · intro hc
        exact hf (hc.trans hk.brace.symm)
      · rintro rfl
        exact hk.brace
    rw [Option.map_some, Bool.eq_iff_iff]
    simp [hbrace]

theorem annotatedName_map (item : List Char) :
    annotatedName (item.map f) =
      Prod.map (List.map f) (List.map (List.map f)) (annotatedName item) := by
  have hcut := cut_map hf Delimiters.annotation item
  rw [hk.annotation] at hcut
  rw [annotatedName, hcut, annotatedName]
  cases cut Delimiters.annotation item with
  | none => rfl
  | some p =>
    have htypes := nonemptyPieces_map hf Delimiters.typeSeparator p.2
    rw [hk.typeSeparator] at htypes
    exact congrArg (Prod.mk (p.1.map f)) htypes

theorem annotatedNames_replace (i : Nat) :
    annotatedNames (d.replace f) (fields.map (List.map f)) i =
      (annotatedNames d fields i).map (Prod.map (List.map f) (List.map (List.map f))) := by
  rw [annotatedNames, field?_map, annotatedNames]
  cases field? fields i with
  | none => rfl
  | some field =>
    have hitems : (splitOn (d.replace f).sub (field.map f)).map annotatedName =
        ((splitOn d.sub field).map annotatedName).map
          (Prod.map (List.map f) (List.map (List.map f))) := by
      rw [Delimiters.replace, splitOn_map hf, List.map_map, List.map_map]
      exact List.map_congr_left fun item _ => annotatedName_map hf hk item
    rw [Option.map_some, Option.elim_some, hitems, List.filter_map, Option.elim_some]
    congr 2
    funext a
    exact congrArg (!·) List.isEmpty_map

theorem parameters_replace (i : Nat) :
    parameters (d.replace f) (fields.map (List.map f)) i =
      (parameters d fields i).map (Parameter.replace f) := by
  rw [parameters, annotatedNames_replace hf hk, parameters, List.map_map, List.map_map]
  refine List.map_congr_left fun a _ => ?_
  simp [Parameter.replace, map_ofList]

theorem eventFields_replace (i : Nat) :
    eventFields (d.replace f) (fields.map (List.map f)) i =
      (eventFields d fields i).map (EventField.replace f) := by
  rw [eventFields, annotatedNames_replace hf hk, eventFields, List.map_map, List.map_map]
  refine List.map_congr_left fun a _ => ?_
  simp [EventField.replace, map_ofList, alternatives?_map hk]

theorem positionalDetails?_replace (category : Category) :
    positionalDetails? (d.replace f) category (fields.map (List.map f)) =
      (positionalDetails? d category fields).map
        (Prod.map (Option.map (String.map f)) (MemberDetails.replace f)) := by
  cases category with
  | property =>
    rw [positionalDetails?, fieldText?_map, fieldItems_replace hf]
    rfl
  | function =>
    rw [positionalDetails?, fieldText?_map, fieldItems_replace hf, parameters_replace hf hk]
    rfl
  | event =>
    rw [positionalDetails?, fieldText?_map, eventFields_replace hf hk]
    rfl
  | type => rfl
  | require => rfl

theorem toMember?_replace {r : Record} (hr : r.Positional d) (category : Category) :
    (r.replace f).toMember? (d.replace f) category =
      (r.toMember? d category).map (MemberSymbol.replace f) := by
  have hholds := hr.holdsPayload_eq
  rw [toMember?, replace, String.toList_map, memberParts_replace hf, toMember?]
  rcases hparts : memberParts d r.word.toList with ⟨owner, name, rest⟩
  rw [hparts] at hholds
  have hfields : splitOn (d.replace f).primary (rest.map f) =
      (splitOn d.primary rest).map (List.map f) := splitOn_map hf d.primary rest
  simp only [Prod.map_apply, List.isEmpty_map, holdsPayload_map hf hk, hholds, hfields,
    positionalDetails?_replace hf hk]
  split
  · rfl
  · cases positionalDetails? d category (splitOn d.primary rest) with
    | none => rfl
    | some found => simp [MemberSymbol.replace, map_ofList]

end Signs

end Record

/-- Which characters are the delimiters makes no difference to what is read. If the characters of a
word are permuted and the delimiters with them, the same type, the same name of a type and the same
modules are read as before, in the other characters and with the documents as they were. The same
holds for members whose details are fields and no JSON object, as long as the colon, the bar, the
opening brace and the property of being blank are kept: either none is read from both words, or one
from each. -/
theorem Record.reading_replaced (s : Equiv.Perm Char) (d : Delimiters) (r : Record) :
    (r.replace s).toType? (d.replace s) = (r.toType? d).map (TypeSymbol.replace s) ∧
    (r.replace s).typeName? (d.replace s) = (r.typeName? d).map (String.map s) ∧
    (r.replace s).modulePaths (d.replace s) = (r.modulePaths d).map (String.map s) ∧
    (KeepsSigns s → r.Positional d → ∀ category,
      (r.replace s).toMember? (d.replace s) category =
        (r.toMember? d category).map (MemberSymbol.replace s)) :=
  ⟨Record.toType?_replace s.injective d r, Record.typeName?_replace s.injective d r,
    Record.modulePaths_replace s.injective d r,
    fun hk hr category => Record.toMember?_replace s.injective hk hr category⟩

/-- The standard delimiters change places with two characters that stand in the word. -/
theorem Record.reading_replaced_hash :
    let s : Equiv.Perm Char := (Equiv.swap ',' ';').trans (Equiv.swap '\x00' '#')
    let r : Record := ⟨"C#\x00add\x00Int;Long\x00x:Int|Long,y\x00Adds two", ["c.js"]⟩
    KeepsSigns s ∧ r.Positional .standard ∧
      toMember? ⟨'#', ';'⟩ .function ⟨"C\x00#add#Int,Long#x:Int|Long;y#Adds two", ["c.js"]⟩ =
        some {
          name := "add", owner := "C\x00", description := some "Adds two", documents := ["c.js"]
          details := .function {
            returnTypes := ["Int,Long"]
            parameters := [{ name := "x", types := ["Int", "Long"] }, { name := "y" }] } } := by
  intro s r
  have hk : KeepsSigns s :=
    (KeepsSigns.swap (by decide) (by decide) (by decide)).comp
      (KeepsSigns.swap (by decide) (by decide) (by decide))
  have hr : r.Positional .standard := by decide
  have hmap : String.map s = fun t => String.ofList (t.toList.map s) := by
    funext t
    rw [← map_ofList, String.ofList_toList]
  have hreplaced := (reading_replaced s .standard r).2.2.2 hk hr .function
  have hd : Delimiters.standard.replace s = ⟨'#', ';'⟩ := by decide
  have hword : r.replace s =
      ⟨"C\x00#add#Int,Long#x:Int|Long;y#Adds two", ["c.js"]⟩ := by
    rw [replace, hmap]
    decide
  have hread : r.toMember? .standard .function = some {
      name := "add", owner := "C#", description := some "Adds two", documents := ["c.js"]
      details := .function {
        returnTypes := ["Int;Long"]
        parameters := [{ name := "x", types := ["Int", "Long"] }, { name := "y" }] } } := by
    decide
  rw [hd, hword, hread] at hreplaced
  refine ⟨hk, hr, hreplaced.trans ?_⟩
  simp only [MemberSymbol.replace, MemberDetails.replace, Parameter.replace, Option.map_some,
    List.map_cons, List.map_nil, hmap]
  decide

end SymbolIndex
