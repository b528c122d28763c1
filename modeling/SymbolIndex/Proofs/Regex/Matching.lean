import Mathlib.Data.List.Basic
import SymbolIndex.Regex.Matching

/-!
# What regular expressions match

`Matches` tells between which positions of a text an expression matches, by the form of the
expression. The sets of positions that `image` works with follow it: a position is in the image of a
set exactly when a match leads there from a position of the set. The bounds on the number of rounds
of a repetition lose nothing, because a round that does not move may be left out.
-/

namespace SymbolIndex.Regex

open Text

variable {text : List Nat} {r s : Regex} {positions i j : Nat}

/-- Between two positions, a relation holds `n` times in a row. -/
def Rounds (R : Nat → Nat → Prop) : Nat → Nat → Nat → Prop
  | 0, i, j => i = j
  | n + 1, i, j => ∃ k, R i k ∧ Rounds R n k j

/-- The symbol before a position, where `before` stands in front of the text. -/
def symbolBefore (before : Option Nat) (text : List Nat) : Nat → Option Nat
  | 0 => before
  | i + 1 => text[i]?

/-- Whether an expression matches the stretch between two positions of a text. -/
def Matches (text : List Nat) : Regex → Nat → Nat → Prop
  | empty, i, j => i = j
  | one s, i, j => ∃ c, text[i]? = some c ∧ s.mem c ∧ j = i + 1
  | look l, i, j => i = j ∧ i ≤ text.length ∧ l.holds (symbolBefore none text i) text[i]?
  | seq r s, i, j => ∃ k, Matches text r i k ∧ Matches text s k j
  | alt r s, i, j => Matches text r i j ∨ Matches text s i j
  | repeated r least most, i, j =>
    ∃ further, (∀ m ∈ most, further ≤ m - least) ∧ Rounds (Matches text r) (least + further) i j

/-- The position where a test is made, as a set. -/
private theorem testBit_ite_one {b : Bool} :
    (if b then 1 else 0 : Nat).testBit j ↔ b ∧ j = 0 := by
  cases b with
  | false => simp
  | true => simp [Nat.testBit_one_eq_true_iff_self_eq_zero]

theorem testBit_advance (test : Nat → Bool) :
    (advance test text positions).testBit j ↔
      ∃ i, positions.testBit i ∧ ∃ c, text[i]? = some c ∧ test c ∧ j = i + 1 := by
  induction text generalizing positions j with
  | nil => simp [advance]
  | cons c cs ih =>
    rw [advance]
    split
    · rename_i hzero
      simp [hzero]
    cases j with
    | zero => simp
    | succ j =>
      rw [Nat.testBit_shiftLeft]
      simp only [ge_iff_le, Nat.le_add_left, decide_true, Bool.true_and, Nat.add_sub_cancel]
      rw [Nat.testBit_or, Bool.or_eq_true, testBit_ite_one, ih, Bool.and_eq_true,
        ← Nat.testBit_zero]
      simp only [Nat.testBit_div_two]
      constructor
      · rintro (⟨⟨hbit, htest⟩, rfl⟩ | ⟨i, hbit, d, hd, htest, rfl⟩)
        · exact ⟨0, hbit, c, rfl, htest, rfl⟩
        · exact ⟨i + 1, hbit, d, hd, htest, rfl⟩
      · rintro ⟨i, hbit, d, hd, htest, hj⟩
        cases i with
        | zero =>
          cases hd
          exact Or.inl ⟨⟨hbit, htest⟩, Nat.succ.inj hj⟩
        | succ i => exact Or.inr ⟨i, hbit, d, hd, htest, Nat.succ.inj hj⟩

theorem testBit_restrict (test : Option Nat → Option Nat → Bool) (before : Option Nat) :
    (restrict test before text positions).testBit j ↔
      positions.testBit j ∧ j ≤ text.length ∧ test (symbolBefore before text j) text[j]? := by
  induction text generalizing positions before j with
  | nil =>
    rw [restrict, testBit_ite_one, Bool.and_eq_true, ← Nat.testBit_zero, List.length_nil,
      Nat.le_zero]
    constructor
    · rintro ⟨⟨hbit, htest⟩, rfl⟩
      exact ⟨hbit, rfl, htest⟩
    · rintro ⟨hbit, rfl, htest⟩
      exact ⟨⟨hbit, htest⟩, rfl⟩
  | cons c cs ih =>
    rw [restrict]
    split
    · rename_i hzero
      simp [hzero]
    rw [Nat.testBit_or, Nat.testBit_shiftLeft, Bool.or_eq_true, testBit_ite_one, Bool.and_eq_true,
      ← Nat.testBit_zero]
    cases j with
    | zero => simp [symbolBefore]
    | succ j =>
      have hsymbol : symbolBefore before (c :: cs) (j + 1) = symbolBefore (some c) cs j := by
        cases j <;> rfl
      simp [hsymbol, ih, Nat.testBit_div_two]

namespace Rounds

variable {R : Nat → Nat → Prop} {n m k : Nat}

theorem add : Rounds R (m + n) i j ↔ ∃ k, Rounds R m i k ∧ Rounds R n k j := by
  induction m generalizing i with
  | zero => simp [Rounds]
  | succ m ih =>
    rw [Nat.succ_add]
    constructor
    · rintro ⟨k, hk, hrest⟩
      obtain ⟨l, hl, hlast⟩ := ih.1 hrest
      exact ⟨l, ⟨k, hk, hl⟩, hlast⟩
    · rintro ⟨l, ⟨k, hk, hl⟩, hlast⟩
      exact ⟨k, hk, ih.2 ⟨l, hl, hlast⟩⟩

/-- Rounds that never go back and stay within a bound need not be more than the bound allows. -/
theorem shorten {bound : Nat} (hR : ∀ i j, R i j → i = j ∨ i < j ∧ j ≤ bound)
    (h : Rounds R n i j) : ∃ m ≤ bound - i, Rounds R m i j := by
  induction n generalizing i with
  | zero => exact ⟨0, Nat.zero_le _, h⟩
  | succ n ih =>
    obtain ⟨k, hk, hrest⟩ := h
    obtain ⟨m, hm, hrounds⟩ := ih hrest
    rcases hR i k hk with rfl | ⟨hlt, hle⟩
    · exact ⟨m, hm, hrounds⟩
    · exact ⟨m + 1, by omega, k, hk, hrounds⟩

/-- A set that a round leads into itself is left by no number of rounds. -/
theorem mem_of_closed {P : Nat → Prop} (hclosed : ∀ i j, P i → R i j → P j)
    (h : Rounds R n i j) (hi : P i) : P j := by
  induction n generalizing i with
  | zero => exact h ▸ hi
  | succ n ih =>
    obtain ⟨k, hk, hrest⟩ := h
    exact ih hrest (hclosed i k hi hk)

end Rounds

section Repetition

variable {R : Nat → Nat → Prop} {step : Nat → Nat}
variable (hstep : ∀ positions j, (step positions).testBit j ↔ ∃ i, positions.testBit i ∧ R i j)
include hstep

theorem testBit_rounds (n : Nat) :
    (rounds step n positions).testBit j ↔ ∃ i, positions.testBit i ∧ Rounds R n i j := by
  induction n generalizing positions with
  | zero => simp [rounds, Rounds]
  | succ n ih =>
    have hall : (∃ i, positions.testBit i ∧ Rounds R (n + 1) i j) ↔
        ∃ i, (step positions).testBit i ∧ Rounds R n i j := by
      constructor
      · rintro ⟨i, hi, k, hk, hrest⟩
        exact ⟨k, (hstep _ _).2 ⟨i, hi, hk⟩, hrest⟩
      · rintro ⟨k, hk, hrest⟩
        obtain ⟨i, hi, hik⟩ := (hstep _ _).1 hk
        exact ⟨i, hi, k, hik, hrest⟩
    rw [hall, rounds]
    split
    · rename_i hfixed
      -- Where a round changes nothing, no number of rounds does.
      have hrounds : rounds step n positions = positions := by
        cases n with
        | zero => rfl
        | succ n => rw [rounds, if_pos hfixed]
      rw [← ih, hfixed, hrounds]
    · exact ih

theorem testBit_roundsUpTo (n : Nat) :
    (roundsUpTo step n positions).testBit j ↔
      ∃ m ≤ n, ∃ i, positions.testBit i ∧ Rounds R m i j := by
  induction n generalizing positions with
  | zero => simp [roundsUpTo, Rounds]
  | succ n ih =>
    rw [roundsUpTo]
    split
    · rename_i hfixed
      have hclosed : ∀ i j, positions.testBit i → R i j → positions.testBit j := by
        intro i j hi hij
        rw [← hfixed, Nat.testBit_or, Bool.or_eq_true]
        exact Or.inr ((hstep _ _).2 ⟨i, hi, hij⟩)
      constructor
      · exact fun hj => ⟨0, Nat.zero_le _, j, hj, rfl⟩
      · rintro ⟨m, -, i, hi, hrounds⟩
        exact hrounds.mem_of_closed hclosed hi
    · rw [ih]
      constructor
      · rintro ⟨m, hm, i, hi, hrounds⟩
        rw [Nat.testBit_or, Bool.or_eq_true] at hi
        rcases hi with hi | hi
        · exact ⟨m, Nat.le_succ_of_le hm, i, hi, hrounds⟩
        · obtain ⟨k, hk, hki⟩ := (hstep _ _).1 hi
          exact ⟨m + 1, Nat.succ_le_succ hm, k, hk, i, hki, hrounds⟩
      · rintro ⟨m, hm, i, hi, hrounds⟩
        cases m with
        | zero =>
          refine ⟨0, Nat.zero_le _, i, ?_, hrounds⟩
          rw [Nat.testBit_or, hi, Bool.true_or]
        | succ m =>
          obtain ⟨k, hik, hrest⟩ := hrounds
          refine ⟨m, Nat.le_of_succ_le_succ hm, k, ?_, hrest⟩
          rw [Nat.testBit_or, Bool.or_eq_true]
          exact Or.inr ((hstep _ _).2 ⟨i, hi, hik⟩)

end Repetition

/-- A match stays where it starts, or goes on inside the text. -/
theorem Matches.eq_or_lt (h : Matches text r i j) : i = j ∨ i < j ∧ j ≤ text.length := by
  have htrans : ∀ {i j k : Nat}, (i = j ∨ i < j ∧ j ≤ text.length) →
      (j = k ∨ j < k ∧ k ≤ text.length) → (i = k ∨ i < k ∧ k ≤ text.length) := by omega
  induction r generalizing i j with
  | empty => exact Or.inl h
  | one s =>
    obtain ⟨c, hc, -, rfl⟩ := h
    exact Or.inr ⟨Nat.lt_succ_self i, (List.getElem?_eq_some_iff.1 hc).1⟩
  | look l => exact Or.inl h.1
  | seq r s ihr ihs =>
    obtain ⟨k, hr, hs⟩ := h
    exact htrans (ihr hr) (ihs hs)
  | alt r s ihr ihs => exact h.elim ihr ihs
  | repeated r least most ih =>
    obtain ⟨further, -, hrounds⟩ := h
    generalize least + further = n at hrounds
    induction n generalizing i with
    | zero => exact Or.inl hrounds
    | succ n ihn =>
      obtain ⟨k, hk, hrest⟩ := hrounds
      exact htrans (ih hk) (ihn hrest)

/-- The image of a set holds the positions where matches stop that start in the set. -/
theorem testBit_image (text : List Nat) (r : Regex) (positions j : Nat) :
    (image text r positions).testBit j ↔ ∃ i, positions.testBit i ∧ Matches text r i j := by
  induction r generalizing positions j with
  | empty => simp [image, Matches]
  | one s => exact testBit_advance s.mem
  | look l =>
    rw [image, testBit_restrict]
    constructor
    · exact fun ⟨hj, hle, hl⟩ => ⟨j, hj, rfl, hle, hl⟩
    · rintro ⟨_, hj, rfl, hle, hl⟩
      exact ⟨hj, hle, hl⟩
  | seq r s ihr ihs =>
    simp only [image, ihs, ihr, Matches]
    constructor
    · rintro ⟨k, ⟨i, hi, hr⟩, hs⟩
      exact ⟨i, hi, k, hr, hs⟩
    · rintro ⟨i, hi, k, hr, hs⟩
      exact ⟨k, ⟨i, hi, hr⟩, hs⟩
  | alt r s ihr ihs =>
    simp only [image, Nat.testBit_or, Bool.or_eq_true, ihs, ihr, Matches, and_or_left, exists_or]
  | repeated r least most ih =>
    rw [image.eq_def, testBit_roundsUpTo ih]
    constructor
    · rintro ⟨further, hfurther, k, hk, hlast⟩
      obtain ⟨i, hi, hfirst⟩ := (testBit_rounds ih least).1 hk
      refine ⟨i, hi, further, ?_, Rounds.add.2 ⟨k, hfirst, hlast⟩⟩
      rintro m rfl
      exact hfurther
    · rintro ⟨i, hi, further, hmost, hrounds⟩
      obtain ⟨k, hfirst, hlast⟩ := Rounds.add.1 hrounds
      have hk := (testBit_rounds ih least).2 ⟨i, hi, hfirst⟩
      cases most with
      | some most => exact ⟨further, hmost most rfl, k, hk, hlast⟩
      | none =>
        obtain ⟨m, hm, hshort⟩ := hlast.shorten fun _ _ h => h.eq_or_lt
        exact ⟨m, Nat.le_trans hm (Nat.sub_le _ _), k, hk, hshort⟩

/-- An expression matches in a text when it matches one of its stretches. -/
theorem matchesIn_iff (r : Regex) (text : List Nat) :
    r.matchesIn text ↔ ∃ i ≤ text.length, ∃ j, Matches text r i j := by
  have heverywhere : ∀ i, (everywhere text).testBit i ↔ i ≤ text.length := by
    intro i
    rw [everywhere, Nat.one_shiftLeft, Nat.testBit_two_pow_sub_one, decide_eq_true_eq,
      Nat.lt_succ_iff]
  rw [matchesIn, bne_iff_ne]
  constructor
  · intro hne
    obtain ⟨j, hj⟩ := Nat.exists_testBit_of_ne_zero hne
    obtain ⟨i, hi, hmatch⟩ := (testBit_image text r _ j).1 hj
    exact ⟨i, (heverywhere i).1 hi, j, hmatch⟩
  · rintro ⟨i, hi, j, hmatch⟩ hzero
    have hj := (testBit_image text r _ j).2 ⟨i, (heverywhere i).2 hi, hmatch⟩
    rw [hzero, Nat.zero_testBit] at hj
    exact absurd hj nofun

@[simp] theorem matches_symbol {n : Nat} :
    Matches text (symbol n) i j ↔ text[i]? = some n ∧ j = i + 1 := by
  simp only [symbol, Matches, CodeSet.mem_single, decide_eq_true_eq]
  constructor
  · rintro ⟨c, hc, rfl, hj⟩
    exact ⟨hc, hj⟩
  · rintro ⟨hc, hj⟩
    exact ⟨n, hc, rfl, hj⟩

/-- The start of the text is at its first position alone. -/
theorem matches_textStart : Matches text (look .textStart) i j ↔ i = 0 ∧ j = 0 := by
  constructor
  · rintro ⟨rfl, hle, hholds⟩
    cases i with
    | zero => exact ⟨rfl, rfl⟩
    | succ i =>
      have hsome : text[i]? ≠ none := by
        rw [ne_eq, List.getElem?_eq_none_iff]
        omega
      exact absurd (Option.isNone_iff_eq_none.1 hholds) hsome
  · rintro ⟨rfl, rfl⟩
    exact ⟨rfl, Nat.zero_le _, rfl⟩

/-- The end of the text is at its last position alone. -/
theorem matches_textEnd :
    Matches text (look .textEnd) i j ↔ i = text.length ∧ j = text.length := by
  constructor
  · rintro ⟨rfl, hle, hholds⟩
    have hlast : text.length ≤ i := List.getElem?_eq_none_iff.1 (Option.isNone_iff_eq_none.1 hholds)
    exact ⟨Nat.le_antisymm hle hlast, Nat.le_antisymm hle hlast⟩
  · rintro ⟨rfl, rfl⟩
    refine ⟨rfl, Nat.le_refl _, ?_⟩
    rw [List.getElem?_length]
    rfl

theorem matches_seqs_cons {rs : List Regex} :
    Matches text (seqs (r :: rs)) i j ↔
      ∃ k, Matches text r i k ∧ Matches text (seqs rs) k j := by
  cases rs with
  | nil => simp [seqs, Matches]
  | cons s rs => rfl

/-- A choice matches what one of its branches does. -/
theorem matches_alts {rs : List Regex} :
    Matches text (alts rs) i j ↔ ∃ r ∈ rs, Matches text r i j := by
  induction rs with
  | nil => simp [alts, Matches]
  | cons r rs ih =>
    cases rs with
    | nil => simp [alts]
    | cons s rs =>
      rw [List.exists_mem_cons_iff, ← ih]
      rfl

/-- Symbols one after another match where the text goes on with them. -/
theorem matches_symbols {ns : List Nat} :
    Matches text (seqs (ns.map symbol)) i j ↔ ns <+: text.drop i ∧ j = i + ns.length := by
  induction ns generalizing i with
  | nil => simp [seqs, Matches, eq_comm]
  | cons n ns ih =>
    rw [List.map_cons, matches_seqs_cons]
    constructor
    · rintro ⟨k, hk, hrest⟩
      obtain ⟨hn, rfl⟩ := matches_symbol.1 hk
      obtain ⟨hfront, rfl⟩ := ih.1 hrest
      obtain ⟨hi, rfl⟩ := List.getElem?_eq_some_iff.1 hn
      refine ⟨?_, by rw [List.length_cons]; omega⟩
      rw [List.drop_eq_getElem_cons hi]
      exact List.cons_prefix_cons.2 ⟨rfl, hfront⟩
    · rintro ⟨hfront, rfl⟩
      cases hdrop : text.drop i with
      | nil =>
        rw [hdrop] at hfront
        exact absurd (List.prefix_nil.1 hfront) nofun
      | cons c cs =>
        rw [hdrop, List.cons_prefix_cons] at hfront
        obtain ⟨rfl, hrest⟩ := hfront
        have hi : text[i]? = some n := by
          rw [← List.head?_drop, hdrop]
          rfl
        have htail : text.drop (i + 1) = cs := by
          rw [← List.tail_drop, hdrop]
          rfl
        refine ⟨i + 1, matches_symbol.2 ⟨hi, rfl⟩, ih.2 ⟨htail ▸ hrest, ?_⟩⟩
        rw [List.length_cons]
        omega

/-- An expression after the start of the text and one of some texts matches what starts with one of
them and goes on with a match of the expression. -/
theorem matchesIn_texts {texts : List (List Char)} :
    (seqs [look .textStart, alts (texts.map fun cs => seqs ((cs.map Char.toNat).map symbol)),
        r]).matchesIn text ↔
      ∃ cs ∈ texts, cs.map Char.toNat <+: text ∧ ∃ j, Matches text r cs.length j := by
  rw [matchesIn_iff]
  constructor
  · rintro ⟨i, -, j, hmatch⟩
    obtain ⟨k, hlook, hrest⟩ := matches_seqs_cons.1 hmatch
    obtain ⟨rfl, rfl⟩ := matches_textStart.1 hlook
    obtain ⟨l, htexts, hlast⟩ := matches_seqs_cons.1 hrest
    obtain ⟨_, hmem, htext⟩ := matches_alts.1 htexts
    obtain ⟨cs, hcs, rfl⟩ := List.mem_map.1 hmem
    obtain ⟨hfront, rfl⟩ := matches_symbols.1 htext
    exact ⟨cs, hcs, by simpa using hfront, j, by simpa [seqs] using hlast⟩
  · rintro ⟨cs, hcs, hfront, j, hlast⟩
    have htext : Matches text (seqs ((cs.map Char.toNat).map symbol)) 0 cs.length :=
      matches_symbols.2 ⟨by simpa using hfront, by simp⟩
    refine ⟨0, Nat.zero_le _, j, matches_seqs_cons.2 ⟨0, ?_, ?_⟩⟩
    · exact matches_textStart.2 ⟨rfl, rfl⟩
    · refine matches_seqs_cons.2 ⟨cs.length, ?_, hlast⟩
      exact matches_alts.2 ⟨_, List.mem_map.2 ⟨cs, hcs, rfl⟩, htext⟩

end SymbolIndex.Regex
