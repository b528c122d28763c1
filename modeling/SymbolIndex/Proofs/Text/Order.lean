import SymbolIndex.Proofs.Text.Utf8
import SymbolIndex.Text.Sorted

/-!
# The order of texts

Texts are compared by their code points, and their UTF-8 forms by bytes. The two orders are the
same: a longer form of a character starts with a greater byte, and forms of one length hold the
digits of the code point, the highest first. A sorted list of texts is strictly increasing in this
order, so that it has no repeats.
-/

namespace SymbolIndex.Text

namespace Utf8

variable {m n : Nat} {xs ys : List UInt8} {cs ds : List Char}

/-- Where the first bytes are the same the bytes after them decide. -/
private theorem ofNat_cons_lt (hn : n < 0x100) (hle : m ≤ n) (htail : m = n → xs < ys) :
    UInt8.ofNat m :: xs < UInt8.ofNat n :: ys := by
  rw [List.cons_lt_cons_iff]
  rcases Nat.lt_or_eq_of_le hle with hlt | rfl
  · exact Or.inl ((UInt8.ofNat_lt_iff_lt (Nat.lt_trans hlt hn) hn).2 hlt)
  · exact Or.inr ⟨rfl, htail rfl⟩

private theorem ofNat_cons_lt_of_lt (hn : n < 0x100) (hlt : m < n) :
    UInt8.ofNat m :: xs < UInt8.ofNat n :: ys :=
  ofNat_cons_lt hn (Nat.le_of_lt hlt) fun heq => absurd heq (Nat.ne_of_lt hlt)

/-- Numbers that differ in their last six bits only are compared by the byte of these bits. -/
private theorem one_tail_lt (h : m < n) (hlead : m / 64 = n / 64) :
    UInt8.ofNat (m % 0x40 + 0x80) :: xs < UInt8.ofNat (n % 0x40 + 0x80) :: ys :=
  ofNat_cons_lt_of_lt (by omega) (by omega)

private theorem two_tails_lt (h : m < n) (hlead : m / 4096 = n / 4096) :
    UInt8.ofNat (m / 64 % 0x40 + 0x80) :: UInt8.ofNat (m % 0x40 + 0x80) :: xs <
      UInt8.ofNat (n / 64 % 0x40 + 0x80) :: UInt8.ofNat (n % 0x40 + 0x80) :: ys :=
  ofNat_cons_lt (by omega) (by omega) fun _ => one_tail_lt h (by omega)

private theorem three_tails_lt (h : m < n) (hlead : m / 262144 = n / 262144) :
    UInt8.ofNat (m / 4096 % 0x40 + 0x80) :: UInt8.ofNat (m / 64 % 0x40 + 0x80) ::
        UInt8.ofNat (m % 0x40 + 0x80) :: xs <
      UInt8.ofNat (n / 4096 % 0x40 + 0x80) :: UInt8.ofNat (n / 64 % 0x40 + 0x80) ::
        UInt8.ofNat (n % 0x40 + 0x80) :: ys :=
  ofNat_cons_lt (by omega) (by omega) fun _ => two_tails_lt h (by omega)

/-- The bytes of a lesser character are less whatever follows them: the two forms differ before
either of them ends. -/
theorem encodeChar_append_lt {c d : Char} (h : c < d) (xs ys : List UInt8) :
    String.utf8EncodeChar c ++ xs < String.utf8EncodeChar d ++ ys := by
  have hlt : c.toNat < d.toNat := h
  have hvalid : d.toNat < 0xD800 ∨ 0xDFFF < d.toNat ∧ d.toNat < 0x110000 := d.valid
  have hc : c.val.toNat = c.toNat := rfl
  have hd : d.val.toNat = d.toNat := rfl
  unfold String.utf8EncodeChar
  simp only [hc, hd]
  by_cases d₁ : d.toNat ≤ 0x7F
  · rw [if_pos d₁, if_pos (by omega)]
    exact ofNat_cons_lt_of_lt (by omega) hlt
  by_cases d₂ : d.toNat ≤ 0x7FF
  · rw [if_neg d₁, if_pos d₂]
    by_cases c₁ : c.toNat ≤ 0x7F
    · rw [if_pos c₁]
      exact ofNat_cons_lt_of_lt (by omega) (by omega)
    · rw [if_neg c₁, if_pos (by omega)]
      exact ofNat_cons_lt (by omega) (by omega) fun _ => one_tail_lt hlt (by omega)
  by_cases d₃ : d.toNat ≤ 0xFFFF
  · rw [if_neg d₁, if_neg d₂, if_pos d₃]
    by_cases c₁ : c.toNat ≤ 0x7F
    · rw [if_pos c₁]
      exact ofNat_cons_lt_of_lt (by omega) (by omega)
    by_cases c₂ : c.toNat ≤ 0x7FF
    · rw [if_neg c₁, if_pos c₂]
      exact ofNat_cons_lt_of_lt (by omega) (by omega)
    · rw [if_neg c₁, if_neg c₂, if_pos (by omega)]
      exact ofNat_cons_lt (by omega) (by omega) fun _ => two_tails_lt hlt (by omega)
  · rw [if_neg d₁, if_neg d₂, if_neg d₃]
    by_cases c₁ : c.toNat ≤ 0x7F
    · rw [if_pos c₁]
      exact ofNat_cons_lt_of_lt (by omega) (by omega)
    by_cases c₂ : c.toNat ≤ 0x7FF
    · rw [if_neg c₁, if_pos c₂]
      exact ofNat_cons_lt_of_lt (by omega) (by omega)
    by_cases c₃ : c.toNat ≤ 0xFFFF
    · rw [if_neg c₁, if_neg c₂, if_pos c₃]
      exact ofNat_cons_lt_of_lt (by omega) (by omega)
    · rw [if_neg c₁, if_neg c₂, if_neg c₃]
      exact ofNat_cons_lt (by omega) (by omega) fun _ => three_tails_lt hlt (by omega)

/-- A lesser text has lesser bytes. -/
theorem encode_lt_encode (h : cs < ds) : encode cs < encode ds := by
  induction cs generalizing ds with
  | nil =>
    cases hds : encode ds with
    | nil =>
      rw [encode_injective (hds.trans encode_nil.symm)] at h
      exact absurd h (List.not_lt_nil [])
    | cons b bs => exact List.nil_lt_cons b bs
  | cons c cs ih =>
    cases ds with
    | nil => exact absurd h (List.not_lt_nil _)
    | cons d ds =>
      rcases List.cons_lt_cons_iff.1 h with hlt | ⟨rfl, hlt⟩
      · exact encodeChar_append_lt hlt (encode cs) (encode ds)
      · exact List.append_left_lt (ih hlt)

/-- The order of texts is that of their bytes. -/
theorem encode_lt_encode_iff {s t : String} : encode s.toList < encode t.toList ↔ s < t := by
  constructor
  · intro h
    have hne : s ≠ t := by
      rintro rfl
      exact List.lt_irrefl _ h
    by_cases hst : s < t
    · exact hst
    · have hts : t < s := Std.lt_of_le_of_ne (String.not_lt.1 hst) (Ne.symm hne)
      exact absurd (encode_lt_encode hts) (List.lt_asymm h)
  · exact encode_lt_encode

end Utf8

/-- A text is put into its place. -/
theorem pairwise_insertSorted {ss : List String} (h : ss.Pairwise (· < ·)) (s : String) :
    (insertSorted s ss).Pairwise (· < ·) := by
  induction ss with
  | nil => exact List.pairwise_singleton _ s
  | cons t ts ih =>
    obtain ⟨hlt, hts⟩ := List.pairwise_cons.1 h
    rw [insertSorted]
    split
    case isTrue hst =>
      refine List.pairwise_cons.2 ⟨?_, h⟩
      intro u hu
      rcases List.mem_cons.1 hu with rfl | hu
      · exact hst
      · exact String.lt_trans hst (hlt u hu)
    case isFalse hst =>
      split
      case isTrue => exact h
      case isFalse hne =>
        refine List.pairwise_cons.2 ⟨?_, ih hts⟩
        intro u hu
        rcases mem_insertSorted.1 hu with rfl | hu
        · exact Std.lt_of_le_of_ne (String.not_lt.1 hst) (Ne.symm hne)
        · exact hlt u hu

/-- A sorted list is strictly increasing. -/
theorem pairwise_sorted (ss : List String) : (sorted ss).Pairwise (· < ·) := by
  induction ss with
  | nil => exact List.Pairwise.nil
  | cons s ss ih => exact pairwise_insertSorted ih s

end SymbolIndex.Text
