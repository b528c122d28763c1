import SymbolIndex.Json.Field
import SymbolIndex.Proofs.Selections

/-!
# How much of a text a value takes up

What is read has been there: a text takes up a character for each of its own and two quotation
marks, and an array or object its brackets around the parts. So no text is part of a value that is
read from it. The proof follows the reader, with what it leaves measured against what it was given.
-/

namespace SymbolIndex.Json

variable {cs rest : List Char} {v : Json}

/-- The least number of characters that a text is spelled in. Nothing is said of other values. -/
def quotedLength : Json → Nat
  | text s => s.length + 2
  | _ => 0

/-- The values directly inside an array or object. -/
def parts : Json → List Json
  | array items => items
  | object members => members.map (·.2)
  | _ => []

theorem length_skipSpace_le (cs : List Char) : (skipSpace cs).length ≤ cs.length :=
  (List.dropWhile_sublist isSpace).length_le

theorem length_lt_of_skipSpace {c : Char} (h : skipSpace cs = c :: rest) :
    rest.length < cs.length := by
  have hle := length_skipSpace_le cs
  rw [h, List.length_cons] at hle
  exact hle

/-- Each unit is spelled in a character at least, and a quotation mark ends them. -/
theorem length_of_readUnits {units : List Nat} (h : readUnits cs = some (units, rest)) :
    units.length + rest.length < cs.length := by
  fun_induction readUnits cs generalizing units rest with
  | case1 => cases h
  | case2 tail =>
    cases h
    simp
  | case3 a b c d tail ih =>
    simp only [Option.bind_eq_bind, Option.bind_eq_some_iff] at h
    obtain ⟨u, -, ⟨us, rest⟩, hrest, h⟩ := h
    cases h
    have hlt := ih hrest
    simp only [List.length_cons] at hlt ⊢
    omega
  | case4 e tail _ ih =>
    simp only [Option.bind_eq_bind, Option.bind_eq_some_iff] at h
    obtain ⟨u, -, ⟨us, rest⟩, hrest, h⟩ := h
    cases h
    have hlt := ih hrest
    simp only [List.length_cons] at hlt ⊢
    omega
  | case5 => cases h
  | case6 c tail _ _ _ _ ih =>
    simp only [Option.bind_eq_bind, Option.bind_eq_some_iff] at h
    obtain ⟨⟨us, rest⟩, hrest, h⟩ := h
    cases h
    have hlt := ih hrest
    simp only [List.length_cons] at hlt ⊢
    omega

/-- Each character has a unit at least. -/
theorem length_of_textOfUnits {units : List Nat} (h : textOfUnits units = some cs) :
    cs.length ≤ units.length := by
  fun_induction textOfUnits units generalizing cs with
  | case1 => cases h; simp
  | case2 u v us _ _ ih =>
    obtain ⟨cs, hcs, rfl⟩ := Option.map_eq_some_iff.1 h
    have hle := ih hcs
    simp only [List.length_cons]
    omega
  | case3 => cases h
  | case4 => cases h
  | case5 u v us _ _ ih =>
    obtain ⟨cs, hcs, rfl⟩ := Option.map_eq_some_iff.1 h
    have hle := ih hcs
    simp only [List.length_cons] at hle ⊢
    omega
  | case6 => cases h
  | case7 => cases h; simp

theorem length_of_readInteger {digits : List Char} (h : readInteger cs = some (digits, rest)) :
    rest.length ≤ cs.length := by
  rw [readInteger.eq_def] at h
  split at h
  · cases h
    exact Nat.le_succ _
  · split at h
    · cases h
      exact Nat.le_succ_of_le (List.dropWhile_sublist _).length_le
    · cases h
  · cases h

theorem length_of_readFraction {digits : List Char} (h : readFraction cs = some (digits, rest)) :
    rest.length ≤ cs.length := by
  rw [readFraction.eq_def] at h
  split at h
  · split at h
    · cases h
    · cases h
      exact Nat.le_succ_of_le (List.dropWhile_sublist _).length_le
  · cases h
    exact Nat.le_refl _

theorem length_of_readExponent {exponent : Option (Bool × List Char)}
    (h : readExponent cs = some (exponent, rest)) : rest.length ≤ cs.length := by
  rw [readExponent.eq_def] at h
  split at h
  · rename_i c tail
    split at h
    · split at h
      rename_i negative digits hsign
      have hdigits : digits.length ≤ tail.length := by
        split at hsign <;> cases hsign <;> simp
      split at h
      · cases h
      · cases h
        have hle := (List.dropWhile_sublist (l := digits) Text.isDigit).length_le
        rw [List.length_cons]
        omega
    · cases h
      exact Nat.le_refl _
  · cases h
    exact Nat.le_refl _

theorem length_of_readNumber {n : NumberLiteral} (h : readNumber cs = some (n, rest)) :
    rest.length ≤ cs.length := by
  rw [readNumber.eq_def] at h
  split at h
  rename_i negative tail hsign
  have htail : tail.length ≤ cs.length := by
    split at hsign <;> cases hsign <;> simp
  simp only [Option.bind_eq_bind, Option.bind_eq_some_iff] at h
  obtain ⟨⟨integer, rest₁⟩, hinteger, ⟨fraction, rest₂⟩, hfraction, ⟨exponent, rest₃⟩, hexponent,
    h⟩ := h
  cases h
  calc
    rest₃.length ≤ rest₂.length := length_of_readExponent hexponent
    _ ≤ rest₁.length := length_of_readFraction hfraction
    _ ≤ tail.length := length_of_readInteger hinteger
    _ ≤ cs.length := htail

section Lists

variable {element : List Char → Option (Json × List Char)}

/-- Whether a reader of values takes at least what a text needs. -/
def Takes (element : List Char → Option (Json × List Char)) : Prop :=
  ∀ cs v rest, element cs = some (v, rest) → quotedLength v + rest.length ≤ cs.length

/-- A comma or a bracket follows each item. -/
theorem Takes.readItems (helement : Takes element) {fuel : Nat} {vs : List Json}
    (h : readItems element fuel cs = some (vs, rest)) :
    rest.length < cs.length ∧ ∀ v ∈ vs, quotedLength v + rest.length < cs.length := by
  induction fuel generalizing cs vs rest with
  | zero => cases h
  | succ fuel ih =>
    rw [Json.readItems] at h
    obtain ⟨⟨v, after⟩, hv, h⟩ := Option.bind_eq_some_iff.1 h
    have hvalue := helement cs v after hv
    dsimp only at h
    split at h
    · rename_i tail htail
      have hcomma := length_lt_of_skipSpace htail
      obtain ⟨⟨vs, rest⟩, hvs, h⟩ := Option.bind_eq_some_iff.1 h
      cases h
      obtain ⟨hrest, hvalues⟩ := ih hvs
      dsimp only
      refine ⟨by omega, List.forall_mem_cons.2 ⟨by omega, ?_⟩⟩
      intro w hw
      have hlt := hvalues w hw
      omega
    · rename_i tail htail
      have hbracket := length_lt_of_skipSpace htail
      cases h
      exact ⟨by omega, List.forall_mem_singleton.2 (by omega)⟩
    · cases h

/-- Each member has its name before the value, and a comma or a brace after it. -/
theorem Takes.readMembers (helement : Takes element) {fuel : Nat}
    {ms : List (Option String × Json)} (h : readMembers element fuel cs = some (ms, rest)) :
    rest.length < cs.length ∧ ∀ m ∈ ms, quotedLength m.2 + rest.length < cs.length := by
  induction fuel generalizing cs ms rest with
  | zero => cases h
  | succ fuel ih =>
    rw [Json.readMembers] at h
    split at h
    · rename_i label hlabel
      have hstart := length_lt_of_skipSpace hlabel
      obtain ⟨⟨units, between⟩, hunits, h⟩ := Option.bind_eq_some_iff.1 h
      have hname := length_of_readUnits hunits
      dsimp only at h
      split at h
      · rename_i value hcolon
        have hvalue := length_lt_of_skipSpace hcolon
        obtain ⟨⟨v, after⟩, hv, h⟩ := Option.bind_eq_some_iff.1 h
        have hle := helement value v after hv
        dsimp only at h
        split at h
        · rename_i tail htail
          have hcomma := length_lt_of_skipSpace htail
          obtain ⟨⟨ms, rest⟩, hms, h⟩ := Option.bind_eq_some_iff.1 h
          cases h
          obtain ⟨hrest, hmembers⟩ := ih hms
          dsimp only
          refine ⟨by omega, List.forall_mem_cons.2 ⟨by dsimp only; omega, ?_⟩⟩
          intro m hm
          have hlt := hmembers m hm
          omega
        · rename_i tail htail
          have hbrace := length_lt_of_skipSpace htail
          cases h
          exact ⟨by omega, List.forall_mem_singleton.2 (by dsimp only; omega)⟩
        · cases h
      · cases h
    · cases h

end Lists

/-- The parts of an object are the values of its members. -/
theorem exists_of_mem_parts_ofMembers {ms : List (Option String × Json)}
    (h : v ∈ parts (ofMembers ms)) : ∃ m ∈ ms, m.2 = v := by
  rw [ofMembers] at h
  split at h
  · rename_i named hnamed
    obtain ⟨m, hm, rfl⟩ := List.mem_map.1 h
    obtain ⟨m', hm', heq⟩ := Selections.exists_of_mapM_eq_some hnamed m hm
    obtain ⟨name, -, rfl⟩ := Option.map_eq_some_iff.1 heq
    exact ⟨m', hm', rfl⟩
  · cases h

theorem quotedLength_ofMembers (ms : List (Option String × Json)) :
    quotedLength (ofMembers ms) = 0 := by
  rw [ofMembers]
  split <;> rfl

theorem length_of_dropKeyword {keyword : List Char} (h : dropKeyword keyword cs = some rest) :
    rest.length ≤ cs.length := by
  rw [dropKeyword, Option.ite_none_right_eq_some] at h
  rw [← Option.some.inj h.2]
  exact (List.drop_sublist _ _).length_le

/-- Whether a value and the texts in it fit in a number of characters: texts with their quotation
marks, and those in an array or object with its brackets too. -/
structure Fits (length : Nat) (v : Json) : Prop where
  self : quotedLength v ≤ length
  parts : ∀ w ∈ v.parts, quotedLength w + 2 ≤ length

/-- There is nothing to fit in but texts. -/
theorem Fits.of_plain (hself : quotedLength v = 0) (hparts : v.parts = []) (length : Nat) :
    Fits length v := by
  refine ⟨hself ▸ Nat.zero_le _, ?_⟩
  rw [hparts]
  exact nofun

/-- A text needs its characters and the marks around them. -/
theorem fits_text {tail s : List Char} {units : List Nat} (htail : tail.length < cs.length)
    (hunits : readUnits tail = some (units, rest)) (hs : textOfUnits units = some s) :
    ∃ length, length + rest.length ≤ cs.length ∧ Fits length (text (String.ofList s)) := by
  have hspan := length_of_readUnits hunits
  have hlength := length_of_textOfUnits hs
  refine ⟨units.length + 2, by omega, ?_, nofun⟩
  simp only [quotedLength, String.length_ofList]
  omega

/-- An array has a bracket before its items and one after them. -/
theorem Takes.fits_array {element : List Char → Option (Json × List Char)}
    (helement : Takes element) {fuel : Nat} {tail : List Char} {vs : List Json}
    (htail : tail.length < cs.length) (h : Json.readItems element fuel tail = some (vs, rest)) :
    ∃ length, length + rest.length ≤ cs.length ∧ Fits length (array vs) := by
  obtain ⟨hrest, hitems⟩ := helement.readItems h
  refine ⟨cs.length - rest.length, by omega, Nat.zero_le _, ?_⟩
  intro w hw
  have hitem := hitems w hw
  omega

/-- An object has a brace before its members and one after them. -/
theorem Takes.fits_ofMembers {element : List Char → Option (Json × List Char)}
    (helement : Takes element) {fuel : Nat} {tail : List Char} {ms : List (Option String × Json)}
    (htail : tail.length < cs.length) (h : Json.readMembers element fuel tail = some (ms, rest)) :
    ∃ length, length + rest.length ≤ cs.length ∧ Fits length (ofMembers ms) := by
  obtain ⟨hrest, hmembers⟩ := helement.readMembers h
  refine ⟨cs.length - rest.length, by omega, ?_, ?_⟩
  · rw [quotedLength_ofMembers]
    exact Nat.zero_le _
  · intro w hw
    obtain ⟨m, hm, rfl⟩ := exists_of_mem_parts_ofMembers hw
    have hmember := hmembers m hm
    omega

/-- A value is read from no fewer characters than it fits in. -/
theorem fits_of_readValue {fuel : Nat} (h : readValue fuel cs = some (v, rest)) :
    ∃ length, length + rest.length ≤ cs.length ∧ Fits length v := by
  induction fuel using Nat.strongRecOn generalizing cs v rest with
  | ind fuel ih =>
    have htakes : ∀ n < fuel, Takes (readValue n) := by
      intro n hn cs v rest h
      obtain ⟨length, hle, hfits⟩ := ih n hn h
      exact Nat.le_trans (Nat.add_le_add_right hfits.self _) hle
    rw [readValue.eq_def] at h
    dsimp only at h
    split at h
    case h_1 tail htail =>
      have hquote := length_lt_of_skipSpace htail
      obtain ⟨⟨units, after⟩, hunits, h⟩ := Option.bind_eq_some_iff.1 h
      dsimp only at h
      split at h
      · rename_i s hs
        cases h
        exact fits_text hquote hunits hs
      · have hspan := length_of_readUnits hunits
        cases h
        exact ⟨0, by omega, .of_plain rfl rfl 0⟩
    case h_2 tail htail =>
      have hbracket := length_lt_of_skipSpace htail
      split at h
      · cases h
      · split at h
        · rename_i htail'
          have hclose := length_lt_of_skipSpace htail'
          cases h
          exact ⟨0, by omega, .of_plain rfl rfl 0⟩
        · obtain ⟨⟨vs, after⟩, hvs, h⟩ := Option.map_eq_some_iff.1 h
          have hskip := length_skipSpace_le tail
          cases h
          exact (htakes _ (Nat.lt_succ_self _)).fits_array (by omega) hvs
    case h_3 tail htail =>
      have hbrace := length_lt_of_skipSpace htail
      split at h
      · cases h
      · split at h
        · rename_i htail'
          have hclose := length_lt_of_skipSpace htail'
          cases h
          exact ⟨0, by omega, .of_plain rfl rfl 0⟩
        · obtain ⟨⟨ms, after⟩, hms, h⟩ := Option.map_eq_some_iff.1 h
          have hskip := length_skipSpace_le tail
          cases h
          exact (htakes _ (Nat.lt_succ_self _)).fits_ofMembers (by omega) hms
    case h_7 =>
      obtain ⟨⟨n, after⟩, hn, h⟩ := Option.bind_eq_some_iff.1 h
      have hnumber := length_of_readNumber hn
      have hskip := length_skipSpace_le cs
      cases h
      dsimp only
      exact ⟨0, by omega, by split <;> exact .of_plain rfl rfl 0⟩
    -- What is left are the keywords.
    all_goals
      rename_i htail
      have hletter := length_lt_of_skipSpace htail
      obtain ⟨after, hafter, h⟩ := Option.map_eq_some_iff.1 h
      have hkeyword := length_of_dropKeyword hafter
      cases h
      exact ⟨0, by omega, .of_plain rfl rfl 0⟩

/-- A text that is part of what a text holds is shorter than it, by its quotation marks and the
brackets around it. -/
theorem length_of_mem_parts {s t : String} (h : parse s = some v) (ht : text t ∈ v.parts) :
    t.length + 4 ≤ s.length := by
  rw [parse] at h
  split at h
  · rename_i v' rest hread
    rw [Option.ite_none_right_eq_some] at h
    obtain ⟨length, hle, hfits⟩ := fits_of_readValue hread
    have hpart := hfits.parts (text t) (Option.some.inj h.2 ▸ ht)
    rw [String.length_toList] at hle
    rw [quotedLength] at hpart
    omega
  · cases h

/-- The fields of a structure are parts of the value that it is read from. -/
theorem mem_parts_of_fields? {names : List String} {fields : List (Option Json)} {w : Json}
    (h : v.fields? names = some fields) (hw : some w ∈ fields) : w ∈ v.parts := by
  rw [fields?.eq_def] at h
  split at h
  · rw [memberFields?, Option.ite_none_right_eq_some] at h
    rw [← Option.some.inj h.2, List.mem_map] at hw
    obtain ⟨name, -, hlookup⟩ := hw
    obtain ⟨before, after, rfl, -⟩ := List.lookup_eq_some_iff.1 hlookup
    simp [parts]
  · rw [Option.ite_none_right_eq_some] at h
    rw [← Option.some.inj h.2, List.mem_append] at hw
    rcases hw with hw | hw
    · obtain ⟨item, hitem, heq⟩ := List.mem_map.1 hw
      exact Option.some.inj heq ▸ hitem
    · exact absurd (List.eq_of_mem_replicate hw) nofun
  · cases h

end SymbolIndex.Json
