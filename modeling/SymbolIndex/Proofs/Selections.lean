import Mathlib.Data.List.Perm.Basic

/-!
# Selections from a list

A lookup selects from the records of an index, and some lookups select from the same records in two
ways. Two selections of which one is part of the other are equal when nothing is left over.
Selecting by several keys at once finds what selecting by each of them does, in the same order where
the list is ordered by the key. A mapping that may fail selects all or nothing.
-/

namespace SymbolIndex.Selections

variable {α β : Type}

/-- A selection from a list equals one that it is part of when both select from the same
elements. -/
theorem filterMap_eq_filterMap_iff {f g : α → Option β} {l : List α}
    (h : ∀ a ∈ l, ∀ b, f a = some b → g a = some b) :
    l.filterMap f = l.filterMap g ↔ ∀ a ∈ l, ∀ b, g a = some b → f a = some b := by
  have hle : ∀ l : List α, (∀ a ∈ l, ∀ b, f a = some b → g a = some b) →
      (l.filterMap f).length ≤ (l.filterMap g).length := by
    intro l h
    rw [List.length_filterMap_eq_countP, List.length_filterMap_eq_countP]
    refine List.countP_mono_left ?_
    intro a ha hsome
    obtain ⟨b, hb⟩ := Option.isSome_iff_exists.1 hsome
    rw [h a ha b hb, Option.isSome_some]
  induction l with
  | nil => simp
  | cons a l ih =>
    obtain ⟨hhead, htail⟩ := List.forall_mem_cons.1 h
    rw [List.forall_mem_cons, ← propext (ih htail)]
    cases hf : f a with
    | some b => simp [hf, hhead b hf]
    | none =>
      cases hg : g a with
      | none => simp [hf, hg]
      | some b =>
        rw [List.filterMap_cons_none hf, List.filterMap_cons_some hg]
        constructor
        · intro heq
          have hlength := hle l htail
          rw [heq, List.length_cons] at hlength
          omega
        · rintro ⟨hnone, -⟩
          exact absurd (hnone b rfl) nofun

/-- The elements with one of several different keys are those of each key put together. -/
theorem perm_flatMap_filter [BEq β] [LawfulBEq β] (key : α → β) {keys : List β}
    (hnodup : keys.Nodup) (l : List α) :
    (l.filter fun a => keys.contains (key a)).Perm
      (keys.flatMap fun k => l.filter fun a => key a == k) := by
  induction keys with
  | nil => simp
  | cons k keys ih =>
    obtain ⟨hk, hkeys⟩ := List.nodup_cons.1 hnodup
    -- Among the elements with one of the keys those with the first one are set apart.
    have hfirst : ∀ a ∈ l, (key a == k && (k :: keys).contains (key a)) = (key a == k) := by
      intro a _
      by_cases h : key a = k <;> simp [h]
    have hrest : ∀ a ∈ l, (!(key a == k) && (k :: keys).contains (key a)) =
        keys.contains (key a) := by
      intro a _
      by_cases h : key a = k
      · simp [h, hk]
      · simp [h]
    have hsplit := List.filter_append_perm (fun a => key a == k)
      (l.filter fun a => (k :: keys).contains (key a))
    rw [List.filter_filter, List.filter_filter, List.filter_congr hfirst,
      List.filter_congr hrest] at hsplit
    rw [List.flatMap_cons]
    exact hsplit.symm.trans (.append_left _ (ih hkeys))

/-- A list that is ordered by a key starts with the elements of the least key. -/
private theorem eq_filter_append_filter {key : α → Nat} {l : List α} {k : Nat}
    (hl : l.Pairwise fun a b => key a ≤ key b) (hk : ∀ a ∈ l, k ≤ key a) :
    l = (l.filter fun a => key a == k) ++ l.filter fun a => !(key a == k) := by
  induction l with
  | nil => rfl
  | cons a l ih =>
    obtain ⟨ha, hl⟩ := List.pairwise_cons.1 hl
    obtain ⟨hka, hkl⟩ := List.forall_mem_cons.1 hk
    by_cases h : key a = k
    · rw [List.filter_cons_of_pos (by simpa using h), List.filter_cons_of_neg (by simpa using h),
        List.cons_append, ← ih hl hkl]
    · have hnone : ∀ b ∈ a :: l, (key b == k) = false := by
        refine List.forall_mem_cons.2 ⟨by simpa using h, fun b hb => ?_⟩
        have hlt := Nat.lt_of_lt_of_le (Nat.lt_of_le_of_ne hka (Ne.symm h)) (ha b hb)
        simpa using Nat.ne_of_gt hlt
      rw [List.filter_eq_nil_iff.2 fun b hb => by simp [hnone b hb], List.nil_append,
        List.filter_eq_self.2 fun b hb => by simp [hnone b hb]]

/-- A list that is ordered by a key consists of the elements of each key, one key after another. -/
theorem eq_flatMap_filter {key : α → Nat} {l : List α} {ks : List Nat}
    (hl : l.Pairwise fun a b => key a ≤ key b) (hks : ks.Pairwise (· < ·))
    (hmem : ∀ a ∈ l, key a ∈ ks) : l = ks.flatMap fun k => l.filter fun a => key a == k := by
  induction ks generalizing l with
  | nil => exact List.eq_nil_iff_forall_not_mem.2 fun a ha => List.not_mem_nil (hmem a ha)
  | cons k ks ih =>
    obtain ⟨hk, hks⟩ := List.pairwise_cons.1 hks
    have hleast : ∀ a ∈ l, k ≤ key a := by
      intro a ha
      rcases List.mem_cons.1 (hmem a ha) with h | h
      · exact Nat.le_of_eq h.symm
      · exact Nat.le_of_lt (hk _ h)
    have hrest : ∀ a ∈ l.filter fun a => !(key a == k), key a ∈ ks := by
      intro a ha
      obtain ⟨ha, hne⟩ := List.mem_filter.1 ha
      exact (List.mem_cons.1 (hmem a ha)).resolve_left (by simpa using hne)
    have hgroups := ih (hl.sublist List.filter_sublist) hks hrest
    have hsame : (ks.flatMap fun k' =>
        (l.filter fun a => !(key a == k)).filter fun a => key a == k') =
          ks.flatMap fun k' => l.filter fun a => key a == k' := by
      refine List.flatMap_congr fun k' hk' => ?_
      rw [List.filter_filter]
      refine List.filter_congr fun a _ => ?_
      have hne := Nat.ne_of_gt (hk k' hk')
      by_cases h : key a = k' <;> simp [h, hne]
    rw [List.flatMap_cons, ← hsame, ← hgroups]
    exact eq_filter_append_filter hl hleast

/-- A list is mapped exactly if each of its elements is. -/
theorem mapM_eq_some_iff {f : α → Option β} {as : List α} {bs : List β} :
    as.mapM f = some bs ↔ as.map f = bs.map some := by
  induction as generalizing bs with
  | nil => cases bs <;> simp
  | cons a as ih =>
    simp only [List.mapM_cons, List.map_cons, Option.bind_eq_bind, Option.bind_eq_some_iff, ih,
      Option.pure_def, Option.some.injEq]
    cases bs with
    | nil => simp
    | cons b bs => simp [and_comm]

/-- What a list is mapped to comes from its elements. -/
theorem exists_of_mapM_eq_some {f : α → Option β} {as : List α} {bs : List β}
    (h : as.mapM f = some bs) : ∀ b ∈ bs, ∃ a ∈ as, f a = some b := by
  intro b hb
  have hmem : some b ∈ as.map f := mapM_eq_some_iff.1 h ▸ List.mem_map_of_mem hb
  exact List.mem_map.1 hmem

end SymbolIndex.Selections
