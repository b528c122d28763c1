import SymbolIndex.Json.Reader

/-!
# The grammar of JSON

`Spells` says which texts stand for a value without numbers: characters may be escaped in any way,
and there may be blanks wherever the grammar has them. A text that spells a value is read as that
value, whatever follows it. The proof is by induction on the bound that the reader puts on the
nesting; the length of a spelling is such a bound, since each array or object adds its brackets.
-/

namespace SymbolIndex.Json

variable {α : Type} {P : α → List Char → Prop} {c : Char} {cs rest : List Char}

/-- Blanks and nothing else. -/
def IsSpace (cs : List Char) : Prop := ∀ c ∈ cs, isSpace c

@[simp] theorem isSpace_nil : IsSpace [] := fun _ h => absurd h List.not_mem_nil

theorem skipSpace_append (h : IsSpace cs) (rest : List Char) :
    skipSpace (cs ++ rest) = skipSpace rest :=
  List.dropWhile_append_of_pos h

theorem skipSpace_cons (h : isSpace c = false) (rest : List Char) :
    skipSpace (c :: rest) = c :: rest := by
  rw [skipSpace, List.dropWhile_cons, h]
  rfl

/-! ## Texts -/

/-- The spellings of a character inside a text. -/
inductive SpellsChar : Char → List Char → Prop where
  | plain {c : Char} : 0x20 ≤ c.toNat → c ≠ '"' → c ≠ '\\' → SpellsChar c [c]
  | short {c e : Char} : shortEscape e = some c.toNat → SpellsChar c ['\\', e]
  | unit {c h₁ h₂ h₃ h₄ : Char} : hexUnit h₁ h₂ h₃ h₄ = some c.toNat →
      SpellsChar c ['\\', 'u', h₁, h₂, h₃, h₄]
  | pair {c h₁ h₂ h₃ h₄ l₁ l₂ l₃ l₄ : Char} {high low : Nat} :
      hexUnit h₁ h₂ h₃ h₄ = some high → hexUnit l₁ l₂ l₃ l₄ = some low →
      0xD800 ≤ high → high < 0xDC00 → 0xDC00 ≤ low → low < 0xE000 →
      c.toNat = 0x10000 + (high - 0xD800) * 0x400 + (low - 0xDC00) →
      SpellsChar c ['\\', 'u', h₁, h₂, h₃, h₄, '\\', 'u', l₁, l₂, l₃, l₄]

/-- The spellings of the characters of a text, one after another. -/
inductive SpellsChars : List Char → List Char → Prop where
  | nil : SpellsChars [] []
  | cons {c : Char} {cs spelled rest : List Char} : SpellsChar c spelled → SpellsChars cs rest →
      SpellsChars (c :: cs) (spelled ++ rest)

/-- The spellings of a text, with its quotation marks. -/
inductive SpellsText : String → List Char → Prop where
  | quoted {s : String} {spelled : List Char} : SpellsChars s.toList spelled →
      SpellsText s ('"' :: spelled ++ ['"'])

theorem readUnits_plain (h : 0x20 ≤ c.toNat) (hquote : c ≠ '"') (hslash : c ≠ '\\')
    (rest : List Char) :
    readUnits (c :: rest) = (readUnits rest).map fun p => (c.toNat :: p.1, p.2) := by
  rw [readUnits, if_neg (Nat.not_lt.2 h)]
  · cases readUnits rest <;> rfl
  all_goals simp_all

theorem readUnits_short {e : Char} (h : shortEscape e = some c.toNat) (rest : List Char) :
    readUnits ('\\' :: e :: rest) = (readUnits rest).map fun p => (c.toNat :: p.1, p.2) := by
  rw [readUnits, h]
  · cases readUnits rest <;> rfl
  · rintro a b c d rest rfl
    cases h

theorem readUnits_unit {h₁ h₂ h₃ h₄ : Char} {u : Nat} (h : hexUnit h₁ h₂ h₃ h₄ = some u)
    (rest : List Char) :
    readUnits ('\\' :: 'u' :: h₁ :: h₂ :: h₃ :: h₄ :: rest) =
      (readUnits rest).map fun p => (u :: p.1, p.2) := by
  rw [readUnits, h]
  cases readUnits rest <;> rfl

/-- A character is no surrogate. -/
theorem not_isSurrogate (c : Char) : ¬ (0xD800 ≤ c.toNat ∧ c.toNat < 0xE000) := by
  have hvalid : c.toNat.isValidChar := c.valid
  simp only [Nat.isValidChar] at hvalid
  omega

/-- A unit that is no half of a pair is a character. -/
theorem textOfUnits_char (c : Char) (us : List Nat) :
    textOfUnits (c.toNat :: us) = (textOfUnits us).map (c :: ·) := by
  have hc := not_isSurrogate c
  cases us with
  | nil => simp [textOfUnits, hc, Char.ofNat_toNat]
  | cons u us =>
    have hhigh : ¬ (0xD800 ≤ c.toNat ∧ c.toNat < 0xDC00) := by omega
    have hlow : ¬ (0xDC00 ≤ c.toNat ∧ c.toNat < 0xE000) := by omega
    rw [textOfUnits, if_neg hhigh, if_neg hlow, Char.ofNat_toNat]

/-- What is spelled for a character is read as units that stand for the character. -/
theorem SpellsChar.exists_units (h : SpellsChar c cs) :
    ∃ units,
      (∀ rest, readUnits (cs ++ rest) = (readUnits rest).map fun p => (units ++ p.1, p.2)) ∧
      ∀ us, textOfUnits (units ++ us) = (textOfUnits us).map (c :: ·) := by
  cases h with
  | plain hc hquote hslash =>
    exact ⟨[c.toNat], readUnits_plain hc hquote hslash, textOfUnits_char c⟩
  | short h => exact ⟨[c.toNat], readUnits_short h, textOfUnits_char c⟩
  | unit h => exact ⟨[c.toNat], readUnits_unit h, textOfUnits_char c⟩
  | @pair h₁ h₂ h₃ h₄ l₁ l₂ l₃ l₄ high low hhigh hlow hstart hend lstart lend hc =>
    refine ⟨[high, low], ?_, ?_⟩
    · intro rest
      have hfirst := readUnits_unit hhigh ('\\' :: 'u' :: l₁ :: l₂ :: l₃ :: l₄ :: rest)
      rw [readUnits_unit hlow, Option.map_map] at hfirst
      exact hfirst
    · intro us
      rw [List.cons_append, List.cons_append, List.nil_append, textOfUnits, if_pos ⟨hstart, hend⟩,
        if_pos ⟨lstart, lend⟩, ← hc, Char.ofNat_toNat]

/-- The units of a spelled text, up to its closing quotation mark. -/
theorem SpellsChars.exists_units {s : List Char} (h : SpellsChars s cs) :
    ∃ units, (∀ rest, readUnits (cs ++ '"' :: rest) = some (units, rest)) ∧
      textOfUnits units = some s := by
  induction h with
  | nil => exact ⟨[], fun rest => rfl, rfl⟩
  | @cons c s spelled cs hc _ ih =>
    obtain ⟨us, hread, htext⟩ := ih
    obtain ⟨units, hfirst, hchar⟩ := hc.exists_units
    refine ⟨units ++ us, ?_, ?_⟩
    · intro rest
      rw [List.append_assoc, hfirst, hread]
      rfl
    · rw [hchar, htext]
      rfl

theorem SpellsText.readUnits {s : String} (h : SpellsText s cs) :
    ∃ units tail, cs = '"' :: tail ∧ (∀ rest, readUnits (tail ++ rest) = some (units, rest)) ∧
      textOfUnits units = some s.toList := by
  cases h with
  | quoted h =>
    obtain ⟨units, hread, htext⟩ := h.exists_units
    exact ⟨units, _, rfl, fun rest => by simpa using hread rest, htext⟩

/-! ## Values -/

/-- The spellings of a list whose items are spelled by `P`: a comma between two of them, and blanks
around the commas and after the last one. -/
inductive SpellsList (P : α → List Char → Prop) : List α → List Char → Prop where
  | nil : SpellsList P [] []
  | last {a : α} {spelled after : List Char} : P a spelled → IsSpace after →
      SpellsList P [a] (spelled ++ after)
  | more {a b : α} {as : List α} {spelled after before rest : List Char} : P a spelled →
      IsSpace after → IsSpace before → SpellsList P (b :: as) rest →
      SpellsList P (a :: b :: as) (spelled ++ (after ++ ',' :: (before ++ rest)))

/-- The spellings of a member of an object whose value is spelled by `P`. -/
inductive SpellsMember (P : Json → List Char → Prop) : String × Json → List Char → Prop where
  | labelled {name : String} {v : Json} {label after before spelled : List Char} :
      SpellsText name label → IsSpace after → IsSpace before → P v spelled →
      SpellsMember P (name, v) (label ++ (after ++ ':' :: (before ++ spelled)))

/-- The spellings of a value without numbers. -/
inductive Spells : Json → List Char → Prop where
  | null : Spells null "null".toList
  | true : Spells (bool true) "true".toList
  | false : Spells (bool false) "false".toList
  | text {s : String} {spelled : List Char} : SpellsText s spelled → Spells (text s) spelled
  | array {items : List Json} {before spelled : List Char} : IsSpace before →
      SpellsList Spells items spelled → Spells (array items) ('[' :: (before ++ spelled ++ [']']))
  | object {members : List (String × Json)} {before spelled : List Char} : IsSpace before →
      SpellsList (SpellsMember Spells) members spelled →
      Spells (object members) ('\x7b' :: (before ++ spelled ++ ['\x7d']))

/-- A list is not longer than its spelling with a bracket that closes it. -/
theorem SpellsList.length_le {as : List α} (h : SpellsList P as cs) (close : Char)
    (rest : List Char) : as.length ≤ (cs ++ close :: rest).length := by
  induction h with
  | nil => exact Nat.zero_le _
  | last =>
    simp only [List.length_cons, List.length_append, List.length_nil]
    omega
  | more _ _ _ _ ih =>
    simp only [List.length_cons, List.length_append] at ih ⊢
    omega

/-- No spelling starts with a blank or with a bracket that closes. -/
theorem Spells.exists_cons {v : Json} (h : Spells v cs) :
    ∃ c tail, cs = c :: tail ∧ isSpace c = Bool.false ∧ c ≠ ']' := by
  cases h with
  | null => exact ⟨_, _, rfl, by decide, by decide⟩
  | true => exact ⟨_, _, rfl, by decide, by decide⟩
  | false => exact ⟨_, _, rfl, by decide, by decide⟩
  | text h =>
    cases h with
    | quoted => exact ⟨_, _, rfl, by decide, by decide⟩
  | array => exact ⟨_, _, rfl, by decide, by decide⟩
  | object => exact ⟨_, _, rfl, by decide, by decide⟩

theorem SpellsMember.exists_cons {m : String × Json} (h : SpellsMember Spells m cs) :
    ∃ tail, cs = '"' :: tail := by
  cases h with
  | labelled h =>
    cases h with
    | quoted => exact ⟨_, rfl⟩

/-- A list that is not empty starts as its first item does. -/
theorem SpellsList.exists_append {a : α} {as : List α} (h : SpellsList P (a :: as) cs) :
    ∃ spelled tail, P a spelled ∧ cs = spelled ++ tail := by
  cases h with
  | last h => exact ⟨_, _, h, rfl⟩
  | more h => exact ⟨_, _, h, rfl⟩

/-- What is spelled in at most `bound` characters is read, after blanks and before anything. -/
def ReadsUpTo (bound : Nat) (P : α → List Char → Prop)
    (read : List Char → Option (α × List Char)) : Prop :=
  ∀ a spelled, P a spelled → spelled.length ≤ bound →
    ∀ before rest, IsSpace before → read (before ++ (spelled ++ rest)) = some (a, rest)

section Lists

variable {bound : Nat} {element : List Char → Option (Json × List Char)}
variable {before after : List Char} {v : Json} {name : String}

theorem readItems_last (fuel : Nat) (h : element cs = some (v, after ++ ']' :: rest))
    (hafter : IsSpace after) : readItems element (fuel + 1) cs = some ([v], rest) := by
  rw [readItems, h]
  simp only [Option.bind_eq_bind, Option.bind_some, skipSpace_append hafter,
    skipSpace_cons (c := ']') rfl]
  rfl

theorem readItems_more (fuel : Nat) (h : element cs = some (v, after ++ ',' :: rest))
    (hafter : IsSpace after) :
    readItems element (fuel + 1) cs =
      (readItems element fuel rest).map fun p => (v :: p.1, p.2) := by
  rw [readItems, h]
  simp only [Option.bind_eq_bind, Option.bind_some, skipSpace_append hafter,
    skipSpace_cons (c := ',') rfl]
  cases readItems element fuel rest <;> rfl

/-- Spelled items are read, up to the bracket that closes them. -/
theorem readItems_of_spells (helement : ReadsUpTo bound Spells element) {vs : List Json}
    (h : SpellsList Spells vs cs) (hne : vs ≠ []) (hbound : cs.length ≤ bound) {fuel : Nat}
    (hfuel : vs.length ≤ fuel) (hbefore : IsSpace before) (rest : List Char) :
    readItems element fuel (before ++ (cs ++ ']' :: rest)) = some (vs, rest) := by
  obtain ⟨fuel, rfl⟩ : ∃ n, fuel = n + 1 :=
    Nat.exists_eq_add_of_le' (Nat.le_trans (List.length_pos_iff.2 hne) hfuel)
  induction h generalizing fuel before with
  | nil => contradiction
  | @last v spelled after hv hafter =>
    rw [List.length_append] at hbound
    have hfirst := helement v spelled hv (by omega) before (after ++ ']' :: rest) hbefore
    rw [List.append_assoc]
    exact readItems_last fuel hfirst hafter
  | @more v w vs spelled after between spelled' hv hafter hbetween _ ih =>
    simp only [List.length_append, List.length_cons] at hbound hfuel
    have hfirst := helement v spelled hv (by omega) before
      (after ++ ',' :: (between ++ (spelled' ++ ']' :: rest))) hbefore
    obtain ⟨fuel, rfl⟩ : ∃ n, fuel = n + 1 := Nat.exists_eq_add_of_le' (by omega)
    have hrest := ih (by simp) (by omega) hbetween fuel (by simp; omega)
    simp only [List.append_assoc, List.cons_append]
    rw [readItems_more (fuel + 1) hfirst hafter, hrest]
    rfl

section Members

variable {label between : List Char} (fuel : Nat) (hlabel : SpellsText name label)
  (hbefore : IsSpace before) (hbetween : IsSpace between) (hafter : IsSpace after)
include hlabel hbefore hbetween hafter

theorem readMembers_last (h : element cs = some (v, after ++ '\x7d' :: rest)) :
    readMembers element (fuel + 1) (before ++ (label ++ (between ++ ':' :: cs))) =
      some ([(some name, v)], rest) := by
  obtain ⟨units, tail, rfl, hunits, htext⟩ := hlabel.readUnits
  rw [readMembers, skipSpace_append hbefore, List.cons_append, skipSpace_cons rfl]
  simp only [hunits, Option.bind_eq_bind, Option.bind_some, htext, Option.map_some,
    String.ofList_toList, skipSpace_append hbetween, skipSpace_cons (c := ':') rfl, h,
    skipSpace_append hafter, skipSpace_cons (c := '\x7d') rfl]
  rfl

theorem readMembers_more (h : element cs = some (v, after ++ ',' :: rest)) :
    readMembers element (fuel + 1) (before ++ (label ++ (between ++ ':' :: cs))) =
      (readMembers element fuel rest).map fun p => ((some name, v) :: p.1, p.2) := by
  obtain ⟨units, tail, rfl, hunits, htext⟩ := hlabel.readUnits
  rw [readMembers, skipSpace_append hbefore, List.cons_append, skipSpace_cons rfl]
  simp only [hunits, Option.bind_eq_bind, Option.bind_some, htext, Option.map_some,
    String.ofList_toList, skipSpace_append hbetween, skipSpace_cons (c := ':') rfl, h,
    skipSpace_append hafter, skipSpace_cons (c := ',') rfl]
  cases readMembers element fuel rest <;> rfl

end Members

/-- Spelled members are read, up to the brace that closes them. -/
theorem readMembers_of_spells (helement : ReadsUpTo bound Spells element)
    {ms : List (String × Json)} (h : SpellsList (SpellsMember Spells) ms cs) (hne : ms ≠ [])
    (hbound : cs.length ≤ bound) {fuel : Nat} (hfuel : ms.length ≤ fuel) (hbefore : IsSpace before)
    (rest : List Char) :
    readMembers element fuel (before ++ (cs ++ '\x7d' :: rest)) =
      some (ms.map fun m => (some m.1, m.2), rest) := by
  obtain ⟨fuel, rfl⟩ : ∃ n, fuel = n + 1 :=
    Nat.exists_eq_add_of_le' (Nat.le_trans (List.length_pos_iff.2 hne) hfuel)
  induction h generalizing fuel before with
  | nil => contradiction
  | @last m spelled after hm hafter =>
    cases hm with
    | @labelled name v label colon blank spelled hlabel hcolon hblank hv =>
    simp only [List.length_append, List.length_cons] at hbound
    have hvalue := helement v spelled hv (by omega) blank (after ++ '\x7d' :: rest) hblank
    have hmembers := readMembers_last fuel hlabel hbefore hcolon hafter hvalue
    simpa using hmembers
  | @more m m' ms spelled after between spelled' hm hafter hbetween _ ih =>
    cases hm with
    | @labelled name v label colon blank spelled hlabel hcolon hblank hv =>
    simp only [List.length_append, List.length_cons] at hbound hfuel
    have hvalue := helement v spelled hv (by omega) blank
      (after ++ ',' :: (between ++ (spelled' ++ '\x7d' :: rest))) hblank
    have hmembers := readMembers_more fuel hlabel hbefore hcolon hafter hvalue
    obtain ⟨fuel, rfl⟩ : ∃ n, fuel = n + 1 := Nat.exists_eq_add_of_le' (by omega)
    rw [ih (by simp) (by omega) hbetween fuel (by simp; omega)] at hmembers
    simpa using hmembers

end Lists

theorem ofMembers_map_some (ms : List (String × Json)) :
    ofMembers (ms.map fun m => (some m.1, m.2)) = object ms := by
  have hnames : (ms.map fun m => (some m.1, m.2)).mapM
      (fun m : Option String × Json => m.1.map fun name => (name, m.2)) = some ms := by
    induction ms with
    | nil => rfl
    | cons m ms ih => simp [ih]
  rw [ofMembers, hnames]

section Values

variable {fuel : Nat} {before : List Char}

theorem readValue_append (hbefore : IsSpace before) (fuel : Nat) (cs : List Char) :
    readValue fuel (before ++ cs) = readValue fuel cs := by
  rw [readValue, readValue, skipSpace_append hbefore]

theorem readValue_array (hvalue : ReadsUpTo fuel Spells (readValue fuel)) {items : List Json}
    (h : SpellsList Spells items cs) (hlength : cs.length ≤ fuel) (hbefore : IsSpace before)
    (rest : List Char) :
    readValue (fuel + 1) ('[' :: (before ++ (cs ++ ']' :: rest))) = some (array items, rest) := by
  rw [readValue, skipSpace_cons rfl]
  simp only [skipSpace_append hbefore]
  cases items with
  | nil =>
    cases h
    rfl
  | cons v vs =>
    obtain ⟨first, tail, hv, happend⟩ := h.exists_append
    obtain ⟨c, tail', rfl, hc, hclose⟩ := hv.exists_cons
    have hskip : skipSpace (cs ++ ']' :: rest) = cs ++ ']' :: rest := by
      rw [happend, List.cons_append, List.cons_append, skipSpace_cons hc]
    have hread := readItems_of_spells hvalue h (List.cons_ne_nil v vs) hlength
      (h.length_le ']' rest) isSpace_nil rest
    rw [List.nil_append] at hread
    rw [hskip]
    split
    · rename_i heq
      rw [happend] at heq
      exact absurd (List.cons.inj heq).1 hclose
    · rw [hread]
      rfl

theorem readValue_object (hvalue : ReadsUpTo fuel Spells (readValue fuel))
    {members : List (String × Json)} (h : SpellsList (SpellsMember Spells) members cs)
    (hlength : cs.length ≤ fuel) (hbefore : IsSpace before) (rest : List Char) :
    readValue (fuel + 1) ('\x7b' :: (before ++ (cs ++ '\x7d' :: rest))) =
      some (object members, rest) := by
  rw [readValue, skipSpace_cons rfl]
  simp only [skipSpace_append hbefore]
  cases members with
  | nil =>
    cases h
    rfl
  | cons m ms =>
    obtain ⟨first, tail, hm, happend⟩ := h.exists_append
    obtain ⟨tail', rfl⟩ := hm.exists_cons
    have hskip : skipSpace (cs ++ '\x7d' :: rest) = cs ++ '\x7d' :: rest := by
      rw [happend, List.cons_append, List.cons_append, skipSpace_cons rfl]
    have hread := readMembers_of_spells hvalue h (List.cons_ne_nil m ms) hlength
      (h.length_le '\x7d' rest) isSpace_nil rest
    rw [List.nil_append] at hread
    rw [hskip]
    split
    · rename_i heq
      rw [happend] at heq
      exact absurd (List.cons.inj heq).1 (by decide)
    · rw [hread, Option.map_some, ofMembers_map_some]

/-- A value is read from its spellings. -/
theorem readsUpTo_readValue (fuel : Nat) : ReadsUpTo fuel Spells (readValue fuel) := by
  induction fuel with
  | zero =>
    intro v spelled h hlength before rest hbefore
    obtain ⟨c, tail, rfl, -, -⟩ := h.exists_cons
    exact absurd hlength (Nat.not_succ_le_zero _)
  | succ fuel ih =>
    intro v spelled h hlength before rest hbefore
    rw [readValue_append hbefore]
    cases h with
    | null => rfl
    | true => rfl
    | false => rfl
    | @text s spelled h =>
      obtain ⟨units, tail, rfl, hunits, htext⟩ := h.readUnits
      rw [readValue, List.cons_append, skipSpace_cons rfl]
      simp only [hunits, htext, Option.bind_eq_bind, Option.bind_some, String.ofList_toList]
      rfl
    | @array items before spelled hbefore hitems =>
      simp only [List.length_cons, List.length_append] at hlength
      simpa using readValue_array ih hitems (by omega) hbefore rest
    | @object members before spelled hbefore hmembers =>
      simp only [List.length_cons, List.length_append] at hlength
      simpa using readValue_object ih hmembers (by omega) hbefore rest

end Values

/-- A text that spells a value, with blanks around it, holds that value. -/
theorem parse_of_spells {v : Json} {before spelled after : List Char} (h : Spells v spelled)
    (hbefore : IsSpace before) (hafter : IsSpace after) :
    parse (.ofList (before ++ (spelled ++ after))) = some v := by
  have hlength : spelled.length ≤ (before ++ (spelled ++ after)).length := by
    simp only [List.length_append]
    omega
  have hread := readsUpTo_readValue _ v spelled h hlength before after hbefore
  have hend : skipSpace after = [] := by
    rw [← List.append_nil after, skipSpace_append hafter]
    rfl
  rw [parse, String.toList_ofList, hread]
  simp only [hend]
  rfl

end SymbolIndex.Json
