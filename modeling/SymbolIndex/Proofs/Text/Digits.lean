import SymbolIndex.Text.Digits

/-!
# Hexadecimal digits are read back

The digits that a number is written with have its value, and none of them is a brace.
-/

namespace SymbolIndex.Text

private theorem hexValue_digitChar : ∀ d < 16, hexValue (Nat.digitChar d).toUpper = some d := by
  decide

theorem upperHexDigits_of_lt {n : Nat} (h : n < 16) :
    upperHexDigits n = [(Nat.digitChar n).toUpper] := by
  rw [upperHexDigits, hexDigits, Nat.toDigits_of_lt_base h]
  rfl

theorem upperHexDigits_of_le {n : Nat} (h : 16 ≤ n) :
    upperHexDigits n = upperHexDigits (n / 16) ++ [(Nat.digitChar (n % 16)).toUpper] := by
  rw [upperHexDigits, hexDigits, Nat.toDigits_of_base_le (by decide) h, List.map_append]
  rfl

/-- Every digit is that of a number below the base. -/
theorem exists_of_mem_upperHexDigits {n : Nat} {c : Char} (hc : c ∈ upperHexDigits n) :
    ∃ d < 16, c = (Nat.digitChar d).toUpper := by
  induction n using Nat.strongRecOn with
  | ind n ih =>
    rcases Nat.lt_or_ge n 16 with hlt | hge
    · rw [upperHexDigits_of_lt hlt, List.mem_singleton] at hc
      exact ⟨n, hlt, hc⟩
    · rw [upperHexDigits_of_le hge, List.mem_append, List.mem_singleton] at hc
      rcases hc with hc | rfl
      · exact ih (n / 16) (by omega) hc
      · exact ⟨n % 16, Nat.mod_lt n (by decide), rfl⟩

theorem valueInBase?_upperHexDigits (n : Nat) : valueInBase? 16 (upperHexDigits n) = some n := by
  induction n using Nat.strongRecOn with
  | ind n ih =>
    rcases Nat.lt_or_ge n 16 with hlt | hge
    · rw [upperHexDigits_of_lt hlt]
      simp [valueInBase?, hexValue_digitChar n hlt, hlt]
    · have hrest := ih (n / 16) (by omega)
      have hmod : n % 16 < 16 := Nat.mod_lt n (by decide)
      have hne : (upperHexDigits (n / 16)).isEmpty = false := by
        rw [Bool.eq_false_iff]
        intro hempty
        simp [valueInBase?, hempty] at hrest
      rw [valueInBase?, hne, if_neg Bool.false_ne_true] at hrest
      rw [upperHexDigits_of_le hge, valueInBase?, List.foldlM_append, hrest,
        if_neg (by simp)]
      simp [hexValue_digitChar _ hmod, hmod, Nat.div_add_mod']

end SymbolIndex.Text
