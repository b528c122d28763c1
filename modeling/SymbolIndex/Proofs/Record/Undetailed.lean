import SymbolIndex.Proofs.Json.Extent
import SymbolIndex.Proofs.Record.RoundTrip

/-!
# Members without details

A member of which only its owner, its name and a description are known is written with empty fields
for its details, so that nothing but delimiters stands between the name and the description. It
comes back from its record exactly if the first of these characters that is not blank opens no JSON
object: an object has no room for a description as long as all of the text. Where the delimiter is
an opening brace that character always opens one, and where the delimiter is blank the description
decides; under every other delimiter all members without details come back.
-/

namespace SymbolIndex

open Text

variable {d : Delimiters} {m : MemberSymbol} {s : String}

namespace MemberSymbol

/-- A member with a description and with details that say nothing. -/
structure Undetailed (d : Delimiters) (m : MemberSymbol) : Prop where
  owner : d.primary ∉ m.owner.toList
  name : d.IsField m.name
  details : m.details ∈ [.property {}, .function {}, .event []]
  description : ∃ s ∈ m.description, d.IsField s

/-- The record of a member with nothing but delimiters between its name and its description: one
more than there are fields for its details. -/
def undetailedRecord (d : Delimiters) (m : MemberSymbol) : Record :=
  { word := String.ofList <|
      m.owner.toList ++ d.primary :: (m.name.toList ++ d.primary ::
        (List.replicate (m.details.fields d).length d.primary ++ optionalField m.description))
    documents := m.documents }

namespace Undetailed

theorem writable (h : m.Undetailed d) : m.Writable d where
  owner := h.owner
  name := h.name
  details := by
    have hdetails := h.details
    simp only [List.mem_cons, List.not_mem_nil, or_false] at hdetails
    rcases hdetails with hm | hm | hm <;> rw [hm] <;> simp [MemberDetails.Writable]
  description := by
    obtain ⟨s, hs, hfield⟩ := h.description
    intro t ht
    exact Option.mem_unique ht hs ▸ hfield

/-- There are one or two fields for details that say nothing, and they are empty. -/
theorem exists_fields (h : m.Undetailed d) :
    ∃ n ≤ 1, m.details.fields d = List.replicate (n + 1) [] := by
  have hdetails := h.details
  simp only [List.mem_cons, List.not_mem_nil, or_false] at hdetails
  rcases hdetails with hm | hm | hm <;> rw [hm]
  · exact ⟨0, Nat.zero_le 1, rfl⟩
  · exact ⟨1, Nat.le_refl 1, rfl⟩
  · exact ⟨0, Nat.zero_le 1, rfl⟩

/-- Delimiters and the description are what stands after the name. -/
theorem word_payload (h : m.Undetailed d) : d.word (m.payload d) =
    List.replicate (m.details.fields d).length d.primary ++ optionalField m.description := by
  have hword : ∀ n, d.word (List.replicate n [] ++ [optionalField m.description]) =
      List.replicate n d.primary ++ optionalField m.description := by
    intro n
    induction n with
    | zero => simp [Delimiters.word]
    | succ n ih =>
      rw [List.replicate_succ, List.cons_append, Delimiters.word,
        List.intercalate_cons_of_ne_nil (by simp), ← Delimiters.word, ih]
      rfl
  obtain ⟨n, -, hfields⟩ := h.exists_fields
  rw [MemberSymbol.payload, hfields, hword, List.length_replicate]

/-- The first of them is a delimiter. -/
theorem exists_cons (h : m.Undetailed d) :
    ∃ rest, d.word (m.payload d) = d.primary :: rest := by
  obtain ⟨n, -, hfields⟩ := h.exists_fields
  rw [h.word_payload, hfields, List.length_replicate, List.replicate_succ, List.cons_append]
  exact ⟨_, rfl⟩

theorem record_eq (h : m.Undetailed d) : m.record d (m.payload d) = m.undetailedRecord d := by
  have hpayload : m.payload d ≠ [] := by simp [MemberSymbol.payload]
  rw [undetailedRecord, ← h.word_payload, MemberSymbol.record, Delimiters.word,
    List.intercalate_cons_of_ne_nil (by simp), List.intercalate_cons_of_ne_nil hpayload,
    List.append_assoc, List.append_assoc]
  rfl

end Undetailed

end MemberSymbol

/-- The description in a JSON value is part of it. -/
theorem Payload.text_mem_parts {v : Json} {p : Payload} (h : ofJson? v = some p)
    (hs : p.description = some s) : Json.text s ∈ v.parts := by
  rw [ofJson?] at h
  obtain ⟨fields, hfields, h⟩ := Option.bind_eq_some_iff.1 h
  split at h
  · rename_i description types returnTypes parameters events ofClass ofInstance isConstructor
      isMethod since
    obtain ⟨read, hread, h⟩ := Option.bind_eq_some_iff.1 h
    have hdescription : read = some s := by
      simp only [Option.bind_eq_bind, Option.bind_eq_some_iff] at h
      obtain ⟨_, -, _, -, _, -, _, -, _, -, _, -, _, -, _, -, _, -, h⟩ := h
      cases h
      exact hs
    subst hdescription
    refine Json.mem_parts_of_fields? hfields ?_
    cases description with
    | none => cases hread
    | some w =>
      rw [Json.withDefault, Json.optionalText?.eq_def] at hread
      split at hread <;> cases hread
      exact List.mem_cons_self
  · cases h

/-- A JSON object has no room for a description that is nearly as long as the text of the object. -/
theorem Record.length_of_payloadDetails? {category : Category} {rest : List Char}
    {details : MemberDetails} (h : payloadDetails? category rest = some (some s, details)) :
    s.length + 4 ≤ rest.length := by
  rw [payloadDetails?] at h
  simp only [Option.bind_eq_bind, Option.bind_eq_some_iff] at h
  obtain ⟨v, hparse, p, hp, details', -, h⟩ := h
  have hdescription : p.description = some s := by
    obtain ⟨hfilter, -⟩ := Prod.mk.inj (Option.some.inj h)
    exact (Option.filter_eq_some_iff.1 hfilter).1
  have hlength := Json.length_of_mem_parts hparse (Payload.text_mem_parts hp hdescription)
  rwa [String.length_ofList] at hlength

namespace MemberSymbol.Undetailed

/-- A record that is taken for a JSON object does not give the member back. -/
theorem toMember?_ne (h : m.Undetailed d) (category : Category)
    (hopen : (d.word (m.payload d)).find? (!isBlankChar ·) = some '\x7b') :
    (m.record d (m.payload d)).toMember? d category ≠ some m := by
  intro hm
  obtain ⟨s, hs, -⟩ := h.description
  obtain ⟨n, hn, hfields⟩ := h.exists_fields
  rw [Record.toMember?_record_eq h.owner h.name, if_pos (Record.holdsPayload_iff.2 hopen)] at hm
  obtain ⟨⟨description, details⟩, hdetails, heq⟩ := Option.map_eq_some_iff.1 hm
  have hdescription : description = some s := (congrArg MemberSymbol.description heq).trans hs
  rw [hdescription] at hdetails
  have hlength := Record.length_of_payloadDetails? hdetails
  rw [h.word_payload, hs, hfields, List.length_append, List.length_replicate,
    List.length_replicate, optionalField, Option.elim_some, String.length_toList] at hlength
  omega

/-- A member without details comes back exactly if its record is not taken for a JSON object. -/
theorem toMember?_eq_iff (h : m.Undetailed d) (hd : d.Valid) :
    (m.record d (m.payload d)).toMember? d m.category = some m ↔
      (d.word (m.payload d)).find? (!isBlankChar ·) ≠ some '\x7b' := by
  constructor
  · exact fun hm hopen => h.toMember?_ne m.category hopen hm
  · exact fun hopen => Record.toMember?_record hd h.writable ⟨0, (List.append_nil _).symm⟩ hopen

/-- A character that may follow the delimiter so that an object seems to open. -/
private theorem exists_char (h : d.primary = '\x7b' ∨ isBlankChar d.primary = true) :
    ∃ c, d.primary ≠ c ∧ [d.primary, c].find? (!isBlankChar ·) = some '\x7b' := by
  rcases h with hbrace | hblank
  · exact ⟨'x', by rw [hbrace]; decide, by rw [hbrace]; decide⟩
  · refine ⟨'\x7b', ?_, ?_⟩
    · intro hbrace
      rw [hbrace] at hblank
      exact absurd hblank (by decide)
    · rw [List.find?_cons_of_neg (by simp [hblank])]
      decide

/-- Under a blank delimiter, or an opening brace, some member does not come back. -/
theorem exists_opening (h : d.primary = '\x7b' ∨ isBlankChar d.primary = true) :
    ∃ m : MemberSymbol, m.Undetailed d ∧
      (d.word (m.payload d)).find? (!isBlankChar ·) = some '\x7b' := by
  obtain ⟨c, hc, hopen⟩ := exists_char h
  have hfield : d.IsField (String.singleton c) := ⟨by simp, by simpa using hc⟩
  have hm : MemberSymbol.Undetailed d {
      name := String.singleton c, owner := "", description := some (String.singleton c)
      details := .property {} } :=
    ⟨by simp, hfield, by simp, _, rfl, hfield⟩
  refine ⟨_, hm, ?_⟩
  rw [hm.word_payload, ← hopen]
  simp [MemberDetails.fields, optionalField]

end MemberSymbol.Undetailed

namespace Settings

/-- Which members without details come back under the delimiters that settings can give: each of them
exactly if no JSON object opens after its name, and so all of them exactly if the delimiter is
neither blank nor an opening brace. -/
theorem undetailed_comes_back_iff {text : String} {settings : Settings}
    (hsettings : parse text = .ok settings) :
    (∀ m : MemberSymbol, m.Undetailed settings.delimiters →
      ((m.undetailedRecord settings.delimiters).toMember? settings.delimiters m.category = some m ↔
        (settings.delimiters.word (m.payload settings.delimiters)).find? (!isBlankChar ·) ≠
          some '\x7b')) ∧
    ((∀ m : MemberSymbol, m.Undetailed settings.delimiters →
      (m.undetailedRecord settings.delimiters).toMember? settings.delimiters m.category = some m) ↔
        settings.delimiters.primary ≠ '\x7b' ∧
          isBlankChar settings.delimiters.primary = false) := by
  have heach : ∀ m : MemberSymbol, m.Undetailed settings.delimiters →
      ((m.undetailedRecord settings.delimiters).toMember? settings.delimiters m.category = some m ↔
        (settings.delimiters.word (m.payload settings.delimiters)).find? (!isBlankChar ·) ≠
          some '\x7b') := by
    intro m hm
    rw [← hm.record_eq]
    exact hm.toMember?_eq_iff (valid_of_parse hsettings)
  refine ⟨heach, ?_, ?_⟩
  · intro hall
    by_contra hbad
    have hopens : settings.delimiters.primary = '\x7b' ∨
        isBlankChar settings.delimiters.primary = true := by
      rw [not_and_or, not_not, Bool.not_eq_false] at hbad
      exact hbad
    obtain ⟨m, hm, hopen⟩ := MemberSymbol.Undetailed.exists_opening hopens
    exact (heach m hm).1 (hall m hm) hopen
  · rintro ⟨hbrace, hblank⟩ m hm
    refine (heach m hm).2 ?_
    obtain ⟨rest, hrest⟩ := hm.exists_cons
    rw [hrest, List.find?_cons_of_pos (by simp [hblank])]
    simpa using hbrace

/-- Descriptions that open with a brace come back behind a delimiter that is neither. -/
theorem undetailed_comes_back_hash :
    parse "[delimiters]\nprimary = '#'\nsub = ';'" = .ok { delimiters := ⟨'#', ';'⟩ } ∧
      Record.toMember? ⟨'#', ';'⟩ .function ⟨"Button#move###\x7bslow\x7d Moves it", ["b.js"]⟩ =
        some {
          name := "move", owner := "Button", description := some "\x7bslow\x7d Moves it"
          documents := ["b.js"], details := .function {} } := by
  have hsettings : parse "[delimiters]\nprimary = '#'\nsub = ';'" =
      .ok { delimiters := ⟨'#', ';'⟩ } := rfl
  refine ⟨hsettings, ?_⟩
  exact ((undetailed_comes_back_iff hsettings).2.2 (by decide)) {
    name := "move", owner := "Button", description := some "\x7bslow\x7d Moves it"
    documents := ["b.js"], details := .function {} }
    ⟨by decide, by decide, by decide, _, rfl, by decide⟩

/-- An opening brace is admitted as a delimiter, and under it no member without details comes
back. -/
theorem undetailed_dropped_brace :
    let settings : Settings := { delimiters := ⟨'\x7b', ','⟩ }
    let m : MemberSymbol := {
      name := "visible", owner := "Widget", description := some "Whether it shows"
      documents := ["w.js"], details := .property {} }
    parse "[delimiters]\nprimary = \"\x7b\"\n" = .ok settings ∧
      m.Undetailed settings.delimiters ∧
      m.undetailedRecord settings.delimiters =
        ⟨"Widget\x7bvisible\x7b\x7bWhether it shows", ["w.js"]⟩ ∧
      (m.undetailedRecord settings.delimiters).toMember? settings.delimiters m.category = none := by
  refine ⟨rfl, ⟨by decide, by decide, by decide, _, rfl, by decide⟩, by decide, by decide⟩

end Settings

end SymbolIndex
