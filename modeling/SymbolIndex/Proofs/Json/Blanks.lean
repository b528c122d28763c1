import SymbolIndex.Proofs.Json.Extent
import SymbolIndex.Proofs.Json.Grammar
import SymbolIndex.Text.Blank

/-!
# Blanks before a value

The blanks of the grammar may stand before a value without changing what is read. The other
characters of white space may not: no value starts with one of them, so a text that does holds no
value.

A reader's bound on the nesting is the length of the whole text, blanks included. So the first part
shows that a bound makes no difference as long as it allows for one array or object to each
character.
-/

namespace SymbolIndex.Json

open Text (isBlankChar isDigit)

variable {cs blanks : List Char} {c : Char}

/-! ## The bound on the nesting -/

theorem takes_readValue (fuel : Nat) : Takes (readValue fuel) := by
  intro cs v rest h
  obtain ⟨length, hle, hfits⟩ := fits_of_readValue h
  exact Nat.le_trans (Nat.add_le_add_right hfits.self _) hle

section Lists

variable {element element' : List Char → Option (Json × List Char)} {bound : Nat}

/-- Readers of values that agree on short texts read the same items from them. -/
theorem readItems_congr (htakes : Takes element)
    (h : ∀ cs, cs.length ≤ bound → element cs = element' cs) (fuel : Nat)
    (hbound : cs.length ≤ bound) : readItems element fuel cs = readItems element' fuel cs := by
  induction fuel generalizing cs with
  | zero => rfl
  | succ fuel ih =>
    rw [readItems, readItems, ← h cs hbound]
    cases hv : element cs with
    | none => rfl
    | some p =>
      obtain ⟨v, after⟩ := p
      have hvalue := htakes cs v after hv
      simp only [Option.bind_eq_bind, Option.bind_some]
      split
      · rename_i tail htail
        have hcomma := length_lt_of_skipSpace htail
        rw [ih (by omega)]
      · rfl
      · rfl

theorem readMembers_congr (htakes : Takes element)
    (h : ∀ cs, cs.length ≤ bound → element cs = element' cs) (fuel : Nat)
    (hbound : cs.length ≤ bound) : readMembers element fuel cs = readMembers element' fuel cs := by
  induction fuel generalizing cs with
  | zero => rfl
  | succ fuel ih =>
    rw [readMembers, readMembers]
    split
    · rename_i label hlabel
      have hstart := length_lt_of_skipSpace hlabel
      cases hunits : readUnits label with
      | none => rfl
      | some p =>
        obtain ⟨units, between⟩ := p
        have hname := length_of_readUnits hunits
        simp only [Option.bind_eq_bind, Option.bind_some]
        split
        · rename_i value hcolon
          have hvalue := length_lt_of_skipSpace hcolon
          rw [← h value (by omega)]
          cases hv : element value with
          | none => rfl
          | some q =>
            obtain ⟨v, after⟩ := q
            have hle := htakes value v after hv
            simp only [Option.bind_some]
            split
            · rename_i tail htail
              have hcomma := length_lt_of_skipSpace htail
              rw [ih (by omega)]
            · rfl
            · rfl
        · rfl
    · rfl

end Lists

theorem readValue_nil (fuel : Nat) : readValue fuel [] = none := by
  rw [readValue.eq_def]
  rfl

/-- A bound that allows for as much nesting as a text has characters makes no difference. -/
theorem readValue_congr {fuel fuel' : Nat} (h : cs.length ≤ fuel) (h' : cs.length ≤ fuel') :
    readValue fuel cs = readValue fuel' cs := by
  induction fuel generalizing cs fuel' with
  | zero =>
    obtain rfl : cs = [] := List.length_eq_zero_iff.1 (Nat.le_zero.1 h)
    rw [readValue_nil, readValue_nil]
  | succ fuel ih =>
    cases fuel' with
    | zero =>
      obtain rfl : cs = [] := List.length_eq_zero_iff.1 (Nat.le_zero.1 h')
      rw [readValue_nil, readValue_nil]
    | succ fuel' =>
      rw [readValue.eq_def, readValue.eq_def (fuel' + 1)]
      dsimp only
      split
      case h_2 tail htail =>
        have hbracket := length_lt_of_skipSpace htail
        have hinside : ∀ cs, cs.length ≤ tail.length → readValue fuel cs = readValue fuel' cs :=
          fun cs hcs => ih (by omega) (by omega)
        split
        · rfl
        · rw [readItems_congr (takes_readValue fuel) hinside _ (length_skipSpace_le tail)]
      case h_3 tail htail =>
        have hbrace := length_lt_of_skipSpace htail
        have hinside : ∀ cs, cs.length ≤ tail.length → readValue fuel cs = readValue fuel' cs :=
          fun cs hcs => ih (by omega) (by omega)
        split
        · rfl
        · rw [readMembers_congr (takes_readValue fuel) hinside _ (length_skipSpace_le tail)]
      -- Nothing else nests.
      all_goals rfl

/-! ## Blanks and other white space -/

instance (cs : List Char) : Decidable (IsSpace cs) :=
  decidable_of_iff (cs.all isSpace) List.all_eq_true

/-- The blanks of the grammar are white space. -/
theorem isBlankChar_of_isSpace (h : isSpace c) : isBlankChar c := by
  simp only [isSpace, Bool.or_eq_true, beq_iff_eq] at h
  rcases h with ((rfl | rfl) | rfl) | rfl <;> decide

/-- Blanks before a value do not count. -/
theorem parse_append (h : IsSpace blanks) (cs : List Char) :
    parse (.ofList (blanks ++ cs)) = parse (.ofList cs) := by
  have hlength : cs.length ≤ (blanks ++ cs).length := by simp
  rw [parse, parse, String.toList_ofList, String.toList_ofList, readValue_append h,
    readValue_congr hlength (Nat.le_refl cs.length)]

theorem isDigit_of_isBlankChar (h : isBlankChar c) : isDigit c = false := by
  rw [Bool.eq_false_iff]
  intro hdigit
  rw [isDigit, Bool.and_eq_true, decide_eq_true_eq, decide_eq_true_eq] at hdigit
  have hlow : 0x30 ≤ c.toNat := hdigit.1
  have hhigh : c.toNat ≤ 0x39 := hdigit.2
  simp only [isBlankChar, Text.whiteSpaceTable, Text.RangeTable.contains, List.any_cons,
    List.any_nil, Bool.or_false, Bool.or_eq_true, Bool.and_eq_true, decide_eq_true_eq] at h
  omega

theorem readNumber_of_isBlankChar (h : isBlankChar c) (cs : List Char) :
    readNumber (c :: cs) = none := by
  have hinteger : readInteger (c :: cs) = none := by
    rw [readInteger.eq_def]
    split
    · rename_i heq
      cases heq
      exact absurd h (by decide)
    · rename_i heq
      cases heq
      rw [if_neg (by simp [isDigit_of_isBlankChar h])]
    · rfl
  rw [readNumber.eq_def]
  split
  rename_i negative tail hsign
  split at hsign
  · rename_i heq
    cases heq
    exact absurd h (by decide)
  · cases hsign
    rw [hinteger]
    rfl

/-- No value starts with white space that is no blank. -/
theorem readValue_of_isBlankChar (hblank : isBlankChar c) (hspace : isSpace c = false) (fuel : Nat)
    (cs : List Char) : readValue fuel (c :: cs) = none := by
  rw [readValue.eq_def]
  dsimp only
  rw [skipSpace_cons hspace]
  split
  case h_7 =>
    rw [readNumber_of_isBlankChar hblank]
    rfl
  -- The other values start with a character that is no white space.
  all_goals
    rename_i heq
    cases heq
    exact absurd hblank (by decide)

theorem readValue_eq_none (hblanks : ∀ c ∈ blanks, isBlankChar c) (hspace : ¬ IsSpace blanks)
    (fuel : Nat) (cs : List Char) : readValue fuel (blanks ++ cs) = none := by
  induction blanks with
  | nil => exact absurd isSpace_nil hspace
  | cons c blanks ih =>
    rw [List.forall_mem_cons] at hblanks
    cases hc : isSpace c with
    | false => exact readValue_of_isBlankChar hblanks.1 hc fuel _
    | true =>
      have hfirst : IsSpace [c] := List.forall_mem_singleton.2 hc
      have hrest : ¬ IsSpace blanks := fun hrest => hspace (List.forall_mem_cons.2 ⟨hc, hrest⟩)
      rw [← List.singleton_append, List.append_assoc, readValue_append hfirst, ih hblanks.2 hrest]

/-- A text holds no value behind white space that is not all blanks. -/
theorem parse_eq_none (hblanks : ∀ c ∈ blanks, isBlankChar c) (hspace : ¬ IsSpace blanks)
    (cs : List Char) : parse (.ofList (blanks ++ cs)) = none := by
  rw [parse, String.toList_ofList, readValue_eq_none hblanks hspace]

end SymbolIndex.Json
