import SymbolIndex.Text.Utf8

/-!
# The UTF-8 form determines the text

A character is read back from its bytes whatever follows them, by the four lengths that a form may
have. So a text is read back from its bytes, different texts have different bytes, and the bytes of
one text start with those of another one exactly when the texts do. No other bytes are read as a
text, so reading finds a fault in all bytes that spell none.
-/

namespace SymbolIndex.Text.Utf8

/-- Bytes that spell a text. -/
def IsText (bytes : List UInt8) : Prop := ∃ cs, bytes = encode cs

private theorem byte_toNat {n : Nat} (h : n < 0x100) : (UInt8.ofNat n).toNat = n := by
  simp only [UInt8.toNat_ofNat']
  omega

/-- The classes of leading bytes, as bounds on numbers. -/
theorem lead_eq (b : UInt8) :
    lead b =
      if b.toNat < 0x80 then some (1, 0x80, 0xBF)
      else if b.toNat < 0xC2 then none
      else if b.toNat < 0xE0 then some (2, 0x80, 0xBF)
      else if b.toNat = 0xE0 then some (3, 0xA0, 0xBF)
      else if b.toNat = 0xED then some (3, 0x80, 0x9F)
      else if b.toNat < 0xF0 then some (3, 0x80, 0xBF)
      else if b.toNat = 0xF0 then some (4, 0x90, 0xBF)
      else if b.toNat < 0xF4 then some (4, 0x80, 0xBF)
      else if b.toNat = 0xF4 then some (4, 0x80, 0x8F)
      else none := by
  simp only [lead, UInt8.lt_iff_toNat_lt, ← UInt8.toNat_inj]
  rfl

/-- Whether a byte lies between the bounds that a leading byte sets for the next one. -/
private theorem inside_iff {b low high : UInt8} :
    (b < low || high < b) = false ↔ low.toNat ≤ b.toNat ∧ b.toNat ≤ high.toNat := by
  simp only [Bool.or_eq_false_iff, decide_eq_false_iff_not, UInt8.lt_iff_toNat_lt, Nat.not_lt]

private theorem isTail_ofNat {n : Nat} (h : n < 0x40) : isTail (UInt8.ofNat (n + 0x80)) = true := by
  have hn := byte_toNat (n := n + 0x80) (by omega)
  simp only [isTail, Bool.and_eq_true, decide_eq_true_eq, UInt8.le_iff_toNat_le, hn]
  exact ⟨Nat.le_add_left _ _, Nat.add_le_add_right (Nat.le_of_lt_succ h) _⟩

private theorem tailBits_ofNat {n : Nat} (h : n < 0x40) :
    tailBits (UInt8.ofNat (n + 0x80)) = n := by
  have hn := byte_toNat (n := n + 0x80) (by omega)
  unfold tailBits
  rw [hn]
  exact Nat.add_sub_cancel _ _

private theorem decodeChar_one {n : Nat} (h : n ≤ 0x7F) (index : Nat) (rest : List UInt8) :
    decodeChar index (UInt8.ofNat n :: rest) = .ok (Char.ofNat n, rest) := by
  have hn := byte_toNat (n := n) (by omega)
  have hl : lead (UInt8.ofNat n) = some (1, 0x80, 0xBF) := by
    rw [lead_eq, hn, if_pos (by omega)]
  simp only [decodeChar, hl, hn]

private theorem decodeChar_two {n : Nat} (hl : 0x7F < n) (hu : n ≤ 0x7FF) (index : Nat)
    (rest : List UInt8) :
    decodeChar index (UInt8.ofNat (n / 64 % 0x20 + 0xC0) :: UInt8.ofNat (n % 0x40 + 0x80) :: rest) =
      .ok (Char.ofNat n, rest) := by
  have ha := byte_toNat (n := n / 64 % 0x20 + 0xC0) (by omega)
  have hb := byte_toNat (n := n % 0x40 + 0x80) (by omega)
  have hlead : lead (UInt8.ofNat (n / 64 % 0x20 + 0xC0)) = some (2, 0x80, 0xBF) := by
    rw [lead_eq, ha, if_neg (by omega), if_neg (by omega), if_pos (by omega)]
  have hinside : (UInt8.ofNat (n % 0x40 + 0x80) < 0x80 ||
      0xBF < UInt8.ofNat (n % 0x40 + 0x80)) = false := by
    rw [inside_iff, hb]
    have hmod : n % 0x40 ≤ 0x3F := Nat.le_of_lt_succ (Nat.mod_lt _ (by decide))
    exact ⟨Nat.le_add_left _ _, Nat.add_le_add_right hmod _⟩
  have hvalue : (n / 64 % 0x20 + 0xC0 - 0xC0) * 64 + n % 0x40 = n := by omega
  simp only [decodeChar, hlead, hinside, ha, tailBits_ofNat (Nat.mod_lt n (by decide : 0 < 0x40)),
    hvalue, Bool.false_eq_true, if_false, if_true]

/-- The second of three bytes has bounds of its own where the number would be too small or would
be no character. -/
private theorem lead_three {n : Nat} (hl : 0x7FF < n) (hu : n ≤ 0xFFFF)
    (hs : n < 0xD800 ∨ 0xDFFF < n) :
    ∃ low high, lead (UInt8.ofNat (n / 4096 % 0x10 + 0xE0)) = some (3, low, high) ∧
      low.toNat ≤ n / 64 % 0x40 + 0x80 ∧ n / 64 % 0x40 + 0x80 ≤ high.toNat := by
  have ha := byte_toNat (n := n / 4096 % 0x10 + 0xE0) (by omega)
  by_cases hfirst : n / 4096 % 0x10 + 0xE0 = 0xE0
  · refine ⟨0xA0, 0xBF, ?_, ?_, ?_⟩
    · rw [lead_eq, ha, if_neg (by omega), if_neg (by omega), if_neg (by omega), if_pos hfirst]
    · show 0xA0 ≤ _
      omega
    · show _ ≤ 0xBF
      omega
  by_cases hlast : n / 4096 % 0x10 + 0xE0 = 0xED
  · refine ⟨0x80, 0x9F, ?_, ?_, ?_⟩
    · rw [lead_eq, ha, if_neg (by omega), if_neg (by omega), if_neg (by omega), if_neg hfirst,
        if_pos hlast]
    · show 0x80 ≤ _
      omega
    · show _ ≤ 0x9F
      omega
  · refine ⟨0x80, 0xBF, ?_, ?_, ?_⟩
    · rw [lead_eq, ha, if_neg (by omega), if_neg (by omega), if_neg (by omega), if_neg hfirst,
        if_neg hlast, if_pos (by omega)]
    · show 0x80 ≤ _
      omega
    · show _ ≤ 0xBF
      omega

private theorem decodeChar_three {n : Nat} (hl : 0x7FF < n) (hu : n ≤ 0xFFFF)
    (hs : n < 0xD800 ∨ 0xDFFF < n) (index : Nat) (rest : List UInt8) :
    decodeChar index (UInt8.ofNat (n / 4096 % 0x10 + 0xE0) ::
        UInt8.ofNat (n / 64 % 0x40 + 0x80) :: UInt8.ofNat (n % 0x40 + 0x80) :: rest) =
      .ok (Char.ofNat n, rest) := by
  have ha := byte_toNat (n := n / 4096 % 0x10 + 0xE0) (by omega)
  have hb := byte_toNat (n := n / 64 % 0x40 + 0x80) (by omega)
  obtain ⟨low, high, hlead, hlow, hhigh⟩ := lead_three hl hu hs
  have hinside : (UInt8.ofNat (n / 64 % 0x40 + 0x80) < low ||
      high < UInt8.ofNat (n / 64 % 0x40 + 0x80)) = false := by
    rw [inside_iff, hb]
    exact ⟨hlow, hhigh⟩
  have hvalue : ((n / 4096 % 0x10 + 0xE0 - 0xE0) * 64 + n / 64 % 0x40) * 64 + n % 0x40 = n := by
    omega
  have hmod : ∀ m, m % 0x40 < 0x40 := fun m => Nat.mod_lt m (by decide)
  simp only [decodeChar, hlead, hinside, isTail_ofNat (hmod _), tailBits_ofNat (hmod _), ha, hvalue,
    Bool.false_eq_true, Bool.not_true, if_false, if_true, Nat.reduceEqDiff]

private theorem lead_four {n : Nat} (hl : 0xFFFF < n) (hu : n < 0x110000) :
    ∃ low high, lead (UInt8.ofNat (n / 262144 % 0x08 + 0xF0)) = some (4, low, high) ∧
      low.toNat ≤ n / 4096 % 0x40 + 0x80 ∧ n / 4096 % 0x40 + 0x80 ≤ high.toNat := by
  have ha := byte_toNat (n := n / 262144 % 0x08 + 0xF0) (by omega)
  by_cases hfirst : n / 262144 % 0x08 + 0xF0 = 0xF0
  · refine ⟨0x90, 0xBF, ?_, ?_, ?_⟩
    · rw [lead_eq, ha, if_neg (by omega), if_neg (by omega), if_neg (by omega), if_neg (by omega),
        if_neg (by omega), if_neg (by omega), if_pos hfirst]
    · show 0x90 ≤ _
      omega
    · show _ ≤ 0xBF
      omega
  by_cases hlast : n / 262144 % 0x08 + 0xF0 = 0xF4
  · refine ⟨0x80, 0x8F, ?_, ?_, ?_⟩
    · rw [lead_eq, ha, if_neg (by omega), if_neg (by omega), if_neg (by omega), if_neg (by omega),
        if_neg (by omega), if_neg (by omega), if_neg hfirst, if_neg (by omega), if_pos hlast]
    · show 0x80 ≤ _
      omega
    · show _ ≤ 0x8F
      omega
  · refine ⟨0x80, 0xBF, ?_, ?_, ?_⟩
    · rw [lead_eq, ha, if_neg (by omega), if_neg (by omega), if_neg (by omega), if_neg (by omega),
        if_neg (by omega), if_neg (by omega), if_neg hfirst, if_pos (by omega)]
    · show 0x80 ≤ _
      omega
    · show _ ≤ 0xBF
      omega

private theorem decodeChar_four {n : Nat} (hl : 0xFFFF < n) (hu : n < 0x110000) (index : Nat)
    (rest : List UInt8) :
    decodeChar index (UInt8.ofNat (n / 262144 % 0x08 + 0xF0) ::
        UInt8.ofNat (n / 4096 % 0x40 + 0x80) :: UInt8.ofNat (n / 64 % 0x40 + 0x80) ::
          UInt8.ofNat (n % 0x40 + 0x80) :: rest) =
      .ok (Char.ofNat n, rest) := by
  have ha := byte_toNat (n := n / 262144 % 0x08 + 0xF0) (by omega)
  have hb := byte_toNat (n := n / 4096 % 0x40 + 0x80) (by omega)
  obtain ⟨low, high, hlead, hlow, hhigh⟩ := lead_four hl hu
  have hinside : (UInt8.ofNat (n / 4096 % 0x40 + 0x80) < low ||
      high < UInt8.ofNat (n / 4096 % 0x40 + 0x80)) = false := by
    rw [inside_iff, hb]
    exact ⟨hlow, hhigh⟩
  have hvalue : (((n / 262144 % 0x08 + 0xF0 - 0xF0) * 64 + n / 4096 % 0x40) * 64 +
      n / 64 % 0x40) * 64 + n % 0x40 = n := by
    omega
  have hmod : ∀ m, m % 0x40 < 0x40 := fun m => Nat.mod_lt m (by decide)
  simp only [decodeChar, hlead, hinside, isTail_ofNat (hmod _), tailBits_ofNat (hmod _), ha, hvalue,
    Bool.false_eq_true, Bool.not_true, if_false, Nat.reduceEqDiff]

/-- A character is read back from its bytes, whatever comes after them. -/
theorem decodeChar_encodeChar (index : Nat) (c : Char) (rest : List UInt8) :
    decodeChar index (String.utf8EncodeChar c ++ rest) = .ok (c, rest) := by
  have hvalid : c.toNat < 0xD800 ∨ 0xDFFF < c.toNat ∧ c.toNat < 0x110000 := c.valid
  have hc : Char.ofNat c.toNat = c := Char.ofNat_toNat c
  have hn : c.val.toNat = c.toNat := rfl
  unfold String.utf8EncodeChar
  simp only [hn]
  by_cases h₁ : c.toNat ≤ 0x7F
  · rw [if_pos h₁]
    exact (decodeChar_one h₁ index rest).trans (by rw [hc])
  by_cases h₂ : c.toNat ≤ 0x7FF
  · rw [if_neg h₁, if_pos h₂]
    exact (decodeChar_two (by omega) h₂ index rest).trans (by rw [hc])
  by_cases h₃ : c.toNat ≤ 0xFFFF
  · rw [if_neg h₁, if_neg h₂, if_pos h₃]
    exact (decodeChar_three (by omega) h₃ (by omega) index rest).trans (by rw [hc])
  · rw [if_neg h₁, if_neg h₂, if_neg h₃]
    exact (decodeChar_four (n := c.toNat) (by omega) (by omega) index rest).trans (by rw [hc])

@[simp] theorem encode_nil : encode [] = [] := rfl

@[simp] theorem encode_cons (c : Char) (cs : List Char) :
    encode (c :: cs) = String.utf8EncodeChar c ++ encode cs := rfl

theorem encode_append (cs ds : List Char) : encode (cs ++ ds) = encode cs ++ encode ds :=
  List.flatMap_append

/-- More fuel than characters are left changes nothing. -/
theorem decodeFrom_encode (cs : List Char) {fuel : Nat} (h : cs.length ≤ fuel) (index : Nat) :
    decodeFrom fuel index (encode cs) = .ok cs := by
  induction cs generalizing fuel index with
  | nil => cases fuel <;> rfl
  | cons c cs ih =>
    obtain ⟨fuel, rfl⟩ := Nat.exists_eq_add_one_of_ne_zero (n := fuel) (by simp at h; omega)
    have hne : encode (c :: cs) ≠ [] := by simp
    rw [decodeFrom]
    · simp only [encode_cons, decodeChar_encodeChar]
      rw [ih (by simpa using h)]
      rfl
    · exact hne

theorem length_le_length_encode (cs : List Char) : cs.length ≤ (encode cs).length := by
  induction cs with
  | nil => simp
  | cons c cs ih =>
    have hpos : 0 < (String.utf8EncodeChar c).length :=
      List.length_pos_iff.2 String.utf8EncodeChar_ne_nil
    simp only [encode_cons, List.length_append, List.length_cons]
    omega

/-- A text is read back from its bytes. -/
@[simp] theorem decode_encode (cs : List Char) : decode (encode cs) = .ok cs :=
  decodeFrom_encode cs (length_le_length_encode cs) 0

theorem encode_injective {cs ds : List Char} (h : encode cs = encode ds) : cs = ds := by
  have hd := decode_encode cs
  rw [h, decode_encode] at hd
  exact (Except.ok.inj hd).symm

/-- No character's bytes start with those of another one, so the bytes of a text start with those
of its beginnings only. -/
theorem encode_prefix_iff {cs ds : List Char} : encode cs <+: encode ds ↔ cs <+: ds := by
  constructor
  · intro h
    induction cs generalizing ds with
    | nil => exact List.nil_prefix
    | cons c cs ih =>
      obtain ⟨rest, hr⟩ := h
      rw [encode_cons, List.append_assoc] at hr
      have hc := decodeChar_encodeChar 0 c (encode cs ++ rest)
      cases ds with
      | nil =>
        rw [encode_nil, List.append_eq_nil_iff] at hr
        exact absurd hr.1 String.utf8EncodeChar_ne_nil
      | cons d ds =>
        rw [hr, encode_cons, decodeChar_encodeChar] at hc
        simp only [Except.ok.injEq, Prod.mk.injEq] at hc
        rw [hc.1, List.cons_prefix_cons]
        exact ⟨rfl, ih ⟨rest, hc.2.symm⟩⟩
  · rintro ⟨rest, rfl⟩
    exact ⟨encode rest, (encode_append cs rest).symm⟩

private theorem char_toNat {n : Nat} (h : n.isValidChar) : (Char.ofNat n).val.toNat = n := by
  rw [Char.ofNat, dif_pos h]
  rfl

private theorem encodeChar_one {a : UInt8} (h : a.toNat < 0x80) :
    String.utf8EncodeChar (Char.ofNat a.toNat) = [a] := by
  have hn := char_toNat (n := a.toNat) (Or.inl (by omega))
  simp only [String.utf8EncodeChar, hn]
  rw [if_pos (by omega), UInt8.ofNat_toNat]

private theorem encodeChar_two {a b : UInt8} {n : Nat} (ha : n / 64 + 0xC0 = a.toNat)
    (hb : n % 64 + 0x80 = b.toNat) (hl : 0x7F < n) (hu : n ≤ 0x7FF) :
    String.utf8EncodeChar (Char.ofNat n) = [a, b] := by
  have hn := char_toNat (n := n) (Or.inl (by omega))
  have ha' : n / 64 % 0x20 + 0xC0 = a.toNat := by omega
  simp only [String.utf8EncodeChar, hn, ha', hb, UInt8.ofNat_toNat]
  rw [if_neg (by omega), if_pos hu]

private theorem encodeChar_three {a b c : UInt8} {n : Nat} (ha : n / 4096 + 0xE0 = a.toNat)
    (hb : n / 64 % 64 + 0x80 = b.toNat) (hc : n % 64 + 0x80 = c.toNat) (hl : 0x7FF < n)
    (hu : n ≤ 0xFFFF) (hs : n < 0xD800 ∨ 0xDFFF < n) :
    String.utf8EncodeChar (Char.ofNat n) = [a, b, c] := by
  have hn := char_toNat (n := n) (hs.imp_right fun h => ⟨h, by omega⟩)
  have ha' : n / 4096 % 0x10 + 0xE0 = a.toNat := by omega
  simp only [String.utf8EncodeChar, hn, ha', hb, hc, UInt8.ofNat_toNat]
  rw [if_neg (by omega), if_neg (by omega), if_pos hu]

private theorem encodeChar_four {a b c d : UInt8} {n : Nat} (ha : n / 262144 + 0xF0 = a.toNat)
    (hb : n / 4096 % 64 + 0x80 = b.toNat) (hc : n / 64 % 64 + 0x80 = c.toNat)
    (hd : n % 64 + 0x80 = d.toNat) (hl : 0xFFFF < n) (hu : n < 0x110000) :
    String.utf8EncodeChar (Char.ofNat n) = [a, b, c, d] := by
  have hn := char_toNat (n := n) (.inr ⟨by omega, hu⟩)
  have ha' : n / 262144 % 0x08 + 0xF0 = a.toNat := by omega
  simp only [String.utf8EncodeChar, hn, ha', hb, hc, hd, UInt8.ofNat_toNat]
  rw [if_neg (by omega), if_neg (by omega), if_neg (by omega)]

/-- The bounds that a leading byte of each length and the next byte keep. -/
private inductive Leads (a low high : Nat) : Nat → Prop where
  | one : a < 0x80 → Leads a low high 1
  | two : 0xC2 ≤ a → a < 0xE0 → 0x80 ≤ low → high ≤ 0xBF → Leads a low high 2
  | three : 0xE0 ≤ a → a < 0xF0 → 0x80 ≤ low → high ≤ 0xBF → (a = 0xE0 → 0xA0 ≤ low) →
    (a = 0xED → high ≤ 0x9F) → Leads a low high 3
  | four : 0xF0 ≤ a → a ≤ 0xF4 → 0x80 ≤ low → high ≤ 0xBF → (a = 0xF0 → 0x90 ≤ low) →
    (a = 0xF4 → high ≤ 0x8F) → Leads a low high 4

private theorem leads_of_lead {a low high : UInt8} {size : Nat}
    (h : lead a = some (size, low, high)) : Leads a.toNat low.toNat high.toNat size := by
  have hbytes : (0x80 : UInt8).toNat = 0x80 ∧ (0x8F : UInt8).toNat = 0x8F ∧
      (0x90 : UInt8).toNat = 0x90 ∧ (0x9F : UInt8).toNat = 0x9F ∧
      (0xA0 : UInt8).toNat = 0xA0 ∧ (0xBF : UInt8).toNat = 0xBF := by
    decide
  rw [lead_eq] at h
  split at h
  · cases h
    apply Leads.one
    omega
  split at h
  · cases h
  split at h
  · cases h
    apply Leads.two <;> omega
  split at h
  · cases h
    apply Leads.three <;> omega
  split at h
  · cases h
    apply Leads.three <;> omega
  split at h
  · cases h
    apply Leads.three <;> omega
  split at h
  · cases h
    apply Leads.four <;> omega
  split at h
  · cases h
    apply Leads.four <;> omega
  split at h
  · cases h
    apply Leads.four <;> omega
  · cases h

private theorem isTail_iff {b : UInt8} : isTail b = true ↔ 0x80 ≤ b.toNat ∧ b.toNat ≤ 0xBF := by
  simp only [isTail, Bool.and_eq_true, decide_eq_true_eq, UInt8.le_iff_toNat_le]
  rfl

private theorem encodeChar_pair {a b : UInt8} {low high : Nat} (h : Leads a.toNat low high 2)
    (hb : low ≤ b.toNat ∧ b.toNat ≤ high) :
    String.utf8EncodeChar (Char.ofNat ((a.toNat - 0xC0) * 64 + tailBits b)) = [a, b] := by
  cases h with
  | two ha ha' hlow hhigh =>
    unfold tailBits
    apply encodeChar_two <;> omega

private theorem encodeChar_triple {a b c : UInt8} {low high : Nat} (h : Leads a.toNat low high 3)
    (hb : low ≤ b.toNat ∧ b.toNat ≤ high) (hc : 0x80 ≤ c.toNat ∧ c.toNat ≤ 0xBF) :
    String.utf8EncodeChar (Char.ofNat (((a.toNat - 0xE0) * 64 + tailBits b) * 64 + tailBits c)) =
      [a, b, c] := by
  cases h with
  | three ha ha' hlow hhigh hfirst hlast =>
    unfold tailBits
    apply encodeChar_three <;> omega

private theorem encodeChar_quadruple {a b c d : UInt8} {low high : Nat}
    (h : Leads a.toNat low high 4) (hb : low ≤ b.toNat ∧ b.toNat ≤ high)
    (hc : 0x80 ≤ c.toNat ∧ c.toNat ≤ 0xBF) (hd : 0x80 ≤ d.toNat ∧ d.toNat ≤ 0xBF) :
    String.utf8EncodeChar (Char.ofNat ((((a.toNat - 0xF0) * 64 + tailBits b) * 64 + tailBits c) * 64
      + tailBits d)) = [a, b, c, d] := by
  cases h with
  | four ha ha' hlow hhigh hfirst hlast =>
    unfold tailBits
    apply encodeChar_four <;> omega

/-- A character is read from its own bytes only. -/
theorem eq_of_decodeChar {index : Nat} {bytes rest : List UInt8} {ch : Char}
    (h : decodeChar index bytes = .ok (ch, rest)) : bytes = String.utf8EncodeChar ch ++ rest := by
  unfold decodeChar at h
  split at h
  · cases h
  split at h
  · cases h
  · rename_i a bytes _ _ hlead
    cases h
    cases leads_of_lead hlead with
    | one ha => rw [encodeChar_one ha, List.singleton_append]
  rename_i a bytes _ size low high hsize hlead
  have hleads := leads_of_lead hlead
  split at h
  · cases h
  rename_i b bytes
  split at h
  · cases h
  rename_i hinside
  rw [Bool.not_eq_true, inside_iff] at hinside
  split at h
  · rename_i htwo
    rw [Except.ok.injEq, Prod.mk.injEq] at h
    rw [← h.1, ← h.2, encodeChar_pair (htwo ▸ hleads) hinside]
    rfl
  rename_i hne
  split at h
  · cases h
  rename_i c bytes
  split at h
  · cases h
  rename_i hc
  rw [Bool.not_eq_true, Bool.not_eq_false', isTail_iff] at hc
  split at h
  · rename_i hthree
    rw [Except.ok.injEq, Prod.mk.injEq] at h
    rw [← h.1, ← h.2, encodeChar_triple (hthree ▸ hleads) hinside hc]
    rfl
  rename_i hne'
  split at h
  · cases h
  rename_i d bytes
  split at h
  · cases h
  rename_i hd
  rw [Bool.not_eq_true, Bool.not_eq_false', isTail_iff] at hd
  have hfour : size = 4 := by
    cases hleads with
    | one ha => exact absurd rfl hsize
    | two => exact absurd rfl hne
    | three => exact absurd rfl hne'
    | four => rfl
  rw [Except.ok.injEq, Prod.mk.injEq] at h
  rw [← h.1, ← h.2, encodeChar_quadruple (hfour ▸ hleads) hinside hc hd]
  rfl

/-- A text is read from its own bytes only. -/
theorem eq_of_decodeFrom {fuel index : Nat} {bytes : List UInt8} {cs : List Char}
    (h : decodeFrom fuel index bytes = .ok cs) : bytes = encode cs := by
  fun_induction decodeFrom fuel index bytes generalizing cs with
  | case1 =>
    cases h
    rfl
  | case2 => cases h
  | case3 => cases h
  | case4 fuel index bytes hne c rest hchar ih =>
    cases hrest : decodeFrom fuel (index + (bytes.length - rest.length)) rest with
    | error fault =>
      rw [hrest] at h
      cases h
    | ok cs' =>
      rw [hrest] at h
      cases h
      rw [encode_cons, ← ih hrest]
      exact eq_of_decodeChar hchar

/-- Bytes are read as a text exactly if they are its bytes. -/
theorem decode_eq_ok_iff {bytes : List UInt8} {cs : List Char} :
    decode bytes = .ok cs ↔ bytes = encode cs :=
  ⟨eq_of_decodeFrom, fun h => h ▸ decode_encode cs⟩

/-- Bytes that are no text have a fault. -/
theorem exists_fault_iff {bytes : List UInt8} :
    (∃ fault, decode bytes = .error fault) ↔ ¬ IsText bytes := by
  cases hd : decode bytes with
  | error fault =>
    refine iff_of_true ⟨fault, rfl⟩ ?_
    rintro ⟨cs, hcs⟩
    rw [decode_eq_ok_iff.2 hcs] at hd
    cases hd
  | ok cs => exact iff_of_false nofun (not_not_intro ⟨cs, decode_eq_ok_iff.1 hd⟩)

end SymbolIndex.Text.Utf8
