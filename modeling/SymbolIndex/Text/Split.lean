/-!
# Cutting a text at a delimiter

`splitOn` gives the pieces between the occurrences of a delimiter and `cut` the two sides of the
first one. Joining the pieces with the delimiter gives the text back, so cutting loses nothing,
and no piece holds the delimiter.
-/

namespace SymbolIndex.Text

/-- The pieces of a text between the occurrences of `d`; a text without `d` is its own only
piece, the empty text too. -/
def splitOn (d : Char) : List Char → List (List Char)
  | [] => [[]]
  | c :: cs => if c = d then [] :: splitOn d cs else (splitOn d cs).modifyHead (c :: ·)

/-- The text before the first `d` and the text after it. -/
def cut (d : Char) : List Char → Option (List Char × List Char)
  | [] => none
  | c :: cs => if c = d then some ([], cs) else (cut d cs).map fun s => (c :: s.1, s.2)

/-- The pieces that hold at least one character. -/
def nonemptyPieces (d : Char) (cs : List Char) : List (List Char) :=
  (splitOn d cs).filter fun p => !p.isEmpty

@[simp] theorem splitOn_nil (d : Char) : splitOn d [] = [[]] := rfl

@[simp] theorem splitOn_cons_self (d : Char) (cs : List Char) :
    splitOn d (d :: cs) = [] :: splitOn d cs := by
  simp [splitOn]

theorem splitOn_cons_of_ne {d c : Char} (h : c ≠ d) (cs : List Char) :
    splitOn d (c :: cs) = (splitOn d cs).modifyHead (c :: ·) := by
  simp [splitOn, h]

@[simp] theorem splitOn_ne_nil (d : Char) (cs : List Char) : splitOn d cs ≠ [] := by
  induction cs with
  | nil => simp
  | cons c cs ih =>
    by_cases h : c = d
    · simp [splitOn, h]
    · simp [splitOn, h, ih]

/-- A text without the delimiter is one piece. -/
theorem splitOn_of_notMem {d : Char} {cs : List Char} (h : d ∉ cs) : splitOn d cs = [cs] := by
  induction cs with
  | nil => rfl
  | cons c cs ih =>
    rw [List.mem_cons, not_or] at h
    rw [splitOn_cons_of_ne (Ne.symm h.1), ih h.2]
    rfl

/-- The first piece ends at the first delimiter. -/
theorem splitOn_append_cons {d : Char} {before : List Char} (h : d ∉ before) (after : List Char) :
    splitOn d (before ++ d :: after) = before :: splitOn d after := by
  induction before with
  | nil => simp
  | cons c cs ih =>
    rw [List.mem_cons, not_or] at h
    rw [List.cons_append, splitOn_cons_of_ne (Ne.symm h.1), ih h.2]
    rfl

/-- Joining the pieces gives the text back. -/
theorem intercalate_splitOn (d : Char) (cs : List Char) :
    [d].intercalate (splitOn d cs) = cs := by
  induction cs with
  | nil => rfl
  | cons c cs ih =>
    cases hs : splitOn d cs with
    | nil => exact absurd hs (splitOn_ne_nil d cs)
    | cons p ps =>
      rw [hs] at ih
      by_cases h : c = d
      · subst h
        rw [splitOn_cons_self, hs]
        simpa [List.intercalate] using ih
      · rw [splitOn_cons_of_ne h, hs]
        cases ps <;> simpa [List.intercalate, List.modifyHead] using ih

/-- Pieces without the delimiter come back from the text that they are joined to. -/
theorem splitOn_intercalate {d : Char} {pieces : List (List Char)} (hne : pieces ≠ [])
    (h : ∀ p ∈ pieces, d ∉ p) : splitOn d ([d].intercalate pieces) = pieces := by
  induction pieces with
  | nil => exact absurd rfl hne
  | cons p ps ih =>
    rw [List.forall_mem_cons] at h
    cases ps with
    | nil => rw [List.intercalate_singleton, splitOn_of_notMem h.1]
    | cons q qs =>
      rw [List.intercalate_cons_cons, List.append_assoc, List.singleton_append,
        splitOn_append_cons h.1, ih (List.cons_ne_nil q qs) h.2]

/-- Nonempty pieces come back even where there are none of them. -/
theorem nonemptyPieces_intercalate {d : Char} {pieces : List (List Char)}
    (h : ∀ p ∈ pieces, p ≠ [] ∧ d ∉ p) : nonemptyPieces d ([d].intercalate pieces) = pieces := by
  by_cases hne : pieces = []
  · subst hne
    rfl
  · rw [nonemptyPieces, splitOn_intercalate hne fun p hp => (h p hp).2, List.filter_eq_self]
    intro p hp
    simpa using (h p hp).1

/-- Joining adds no character but the delimiter. -/
theorem notMem_intercalate {c d : Char} {pieces : List (List Char)} (hne : c ≠ d)
    (h : ∀ p ∈ pieces, c ∉ p) : c ∉ [d].intercalate pieces := by
  induction pieces with
  | nil => exact List.not_mem_nil
  | cons p ps ih =>
    rw [List.forall_mem_cons] at h
    cases ps with
    | nil => exact List.intercalate_singleton ▸ h.1
    | cons q qs =>
      rw [List.intercalate_cons_cons, List.mem_append, List.mem_append, List.mem_singleton]
      exact fun hc => hc.elim (fun hc => hc.elim h.1 hne) (ih h.2)

/-- No piece holds the delimiter. -/
theorem notMem_of_mem_splitOn {d : Char} {cs p : List Char} (h : p ∈ splitOn d cs) : d ∉ p := by
  induction cs generalizing p with
  | nil => simp_all
  | cons c cs ih =>
    by_cases hc : c = d
    · subst hc
      rw [splitOn_cons_self, List.mem_cons] at h
      rcases h with rfl | h
      · simp
      · exact ih h
    · rw [splitOn_cons_of_ne hc] at h
      cases hs : splitOn d cs with
      | nil => exact absurd hs (splitOn_ne_nil d cs)
      | cons q qs =>
        rw [hs] at h ih
        rcases List.mem_cons.1 h with rfl | h
        · have := ih (p := q) (by simp)
          simp [this, Ne.symm hc]
        · exact ih (by simp [h])

/-- A piece has no characters but those of the text. -/
theorem subset_of_mem_splitOn {d : Char} {cs p : List Char} (h : p ∈ splitOn d cs) : p ⊆ cs := by
  induction cs generalizing p with
  | nil => simp_all
  | cons c cs ih =>
    by_cases hc : c = d
    · subst hc
      rw [splitOn_cons_self, List.mem_cons] at h
      rcases h with rfl | h
      · exact List.nil_subset _
      · exact List.subset_cons_of_subset c (ih h)
    · rw [splitOn_cons_of_ne hc] at h
      cases hs : splitOn d cs with
      | nil => exact absurd hs (splitOn_ne_nil d cs)
      | cons q qs =>
        rw [hs] at h ih
        rcases List.mem_cons.1 h with rfl | h
        · exact List.cons_subset_cons c (ih List.mem_cons_self)
        · exact List.subset_cons_of_subset c (ih (List.mem_cons_of_mem q h))

theorem mem_nonemptyPieces {d : Char} {cs piece : List Char} :
    piece ∈ nonemptyPieces d cs ↔ piece ≠ [] ∧ piece ∈ splitOn d cs := by
  simp [nonemptyPieces, and_comm]

/-- No piece holds the delimiter, and neither does the empty text in place of a missing one. -/
theorem notMem_getD_splitOn (d : Char) (cs : List Char) (i : Nat) :
    d ∉ (splitOn d cs).getD i [] := by
  rw [List.getD_eq_getElem?_getD]
  cases hp : (splitOn d cs)[i]? with
  | none => exact List.not_mem_nil
  | some p => exact notMem_of_mem_splitOn (List.mem_of_getElem? hp)

theorem cut_append_cons {d : Char} {before : List Char} (h : d ∉ before) (after : List Char) :
    cut d (before ++ d :: after) = some (before, after) := by
  induction before with
  | nil => simp [cut]
  | cons c cs ih =>
    rw [List.mem_cons, not_or] at h
    simp [cut, Ne.symm h.1, ih h.2]

/-- A text is cut exactly where it is put together again. -/
theorem cut_eq_some_iff {d : Char} {cs before after : List Char} :
    cut d cs = some (before, after) ↔ cs = before ++ d :: after ∧ d ∉ before := by
  constructor
  · intro h
    induction cs generalizing before with
    | nil => simp [cut] at h
    | cons c cs ih =>
      by_cases hc : c = d
      · subst hc
        simp only [cut, if_true, Option.some.injEq, Prod.mk.injEq] at h
        obtain ⟨rfl, rfl⟩ := h
        simp
      · simp only [cut, if_neg hc, Option.map_eq_some_iff] at h
        obtain ⟨⟨b, a⟩, hs, he⟩ := h
        simp only [Prod.mk.injEq] at he
        obtain ⟨rfl, rfl⟩ := he
        obtain ⟨rfl, hb⟩ := ih hs
        exact ⟨rfl, by simp [Ne.symm hc, hb]⟩
  · rintro ⟨rfl, h⟩
    exact cut_append_cons h after

theorem cut_eq_none_iff {d : Char} {cs : List Char} : cut d cs = none ↔ d ∉ cs := by
  induction cs with
  | nil => simp [cut]
  | cons c cs ih =>
    by_cases h : c = d
    · simp [cut, h]
    · simp [cut, h, ih, Ne.symm h]

/-- The first piece is what stands before the first delimiter. -/
theorem splitOn_of_cut {d : Char} {cs before after : List Char}
    (h : cut d cs = some (before, after)) : splitOn d cs = before :: splitOn d after := by
  obtain ⟨rfl, hbefore⟩ := cut_eq_some_iff.1 h
  exact splitOn_append_cons hbefore after

/-- A text starts with a piece and the delimiter when it is cut after that piece. -/
theorem append_singleton_prefix_iff_cut {d : Char} {piece cs : List Char} (h : d ∉ piece) :
    piece ++ [d] <+: cs ↔ ∃ rest, cut d cs = some (piece, rest) := by
  constructor
  · rintro ⟨rest, rfl⟩
    rw [List.append_assoc]
    exact ⟨rest, cut_append_cons h rest⟩
  · rintro ⟨rest, hcut⟩
    refine ⟨rest, ?_⟩
    rw [(cut_eq_some_iff.1 hcut).1, List.append_assoc]
    rfl

/-! ## Replacing characters

Where no two characters are replaced by the same one, a text is cut at the same places as before. -/

section Replacing

variable {f : Char → Char} (hf : Function.Injective f)
include hf

theorem splitOn_map (d : Char) (cs : List Char) :
    splitOn (f d) (cs.map f) = (splitOn d cs).map (List.map f) := by
  induction cs with
  | nil => rfl
  | cons c cs ih =>
    rw [List.map_cons]
    by_cases hc : c = d
    · subst hc
      rw [splitOn_cons_self, splitOn_cons_self, ih]
      rfl
    · rw [splitOn_cons_of_ne hc, splitOn_cons_of_ne (hf.ne hc), ih]
      cases splitOn d cs <;> rfl

theorem nonemptyPieces_map (d : Char) (cs : List Char) :
    nonemptyPieces (f d) (cs.map f) = (nonemptyPieces d cs).map (List.map f) := by
  rw [nonemptyPieces, splitOn_map hf, List.filter_map, nonemptyPieces]
  congr 2
  funext p
  exact congrArg (!·) List.isEmpty_map

theorem cut_map (d : Char) (cs : List Char) :
    cut (f d) (cs.map f) = (cut d cs).map (Prod.map (List.map f) (List.map f)) := by
  induction cs with
  | nil => rfl
  | cons c cs ih =>
    rw [List.map_cons]
    by_cases hc : c = d
    · simp [cut, hc]
    · rw [cut, if_neg (hf.ne hc), ih, cut, if_neg hc, Option.map_map, Option.map_map]
      rfl

end Replacing

theorem intercalate_map (f : Char → Char) (d : Char) (pieces : List (List Char)) :
    [f d].intercalate (pieces.map (List.map f)) = ([d].intercalate pieces).map f := by
  induction pieces with
  | nil => rfl
  | cons p ps ih =>
    cases ps with
    | nil => simp
    | cons q qs =>
      rw [List.map_cons] at ih
      simp [List.intercalate_cons_cons, ih]

end SymbolIndex.Text
