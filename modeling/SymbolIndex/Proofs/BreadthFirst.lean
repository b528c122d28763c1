import Mathlib.Data.List.Induction
import Mathlib.Data.List.Nodup
import Mathlib.Data.List.Perm.Subperm
import Mathlib.Data.Prod.Lex
import Mathlib.Order.Lattice.Nat
import SymbolIndex.Reader

/-!
# Breadth-first order

Names lead to other names, and walks follow them. `BreadthFirst` says that a list holds what can be
reached from a name, each name once and the nearest first, in the order in which the names come up
when they are visited one after another.

A visit keeps to one equation: what it has listed is what the visited names lead to, in order and
without repeats. `Exploring` is that invariant, and at the end of a visit, where every name that is
listed has been visited, it makes the listing breadth-first.
-/

namespace SymbolIndex

/-- A walk of a number of steps from a name, each to a name that the one before leads to. -/
inductive Walk (next : String → List String) (start : String) : Nat → String → Prop
  | stay : Walk next start 0 start
  | step {n : Nat} {x y : String} :
    Walk next start n x → y ∈ next x → Walk next start (n + 1) y

/-- The length of a shortest walk to a name, which there has to be. -/
noncomputable def distance (next : String → List String) (start x : String) : Nat :=
  sInf {n | Walk next start n x}

/-- Where a name comes up: the place of the first name in a list that leads to it, and its own first
place among what that name leads to. -/
def origin (next : String → List String) (listing : List String) (x : String) : Nat × Nat :=
  (listing.findIdx fun y => (next y).contains x,
    ((listing.find? fun y => (next y).contains x).elim [] next).idxOf x)

/-- The names are those that can be reached from another one, the nearest first. Those that are
equally near, too, are in the order in which they come up among that name and themselves. -/
structure BreadthFirst (next : String → List String) (start : String) (names : List String) :
    Prop where
  nodup : names.Nodup
  start_notMem : start ∉ names
  mem_iff : ∀ x, x ∈ names ↔ x ≠ start ∧ ∃ n, Walk next start (n + 1) x
  distances : names.Pairwise fun x y => distance next start x ≤ distance next start y
  origins : names.Pairwise fun x y =>
    Prod.Lex (· < ·) (· < ·) (origin next (start :: names) x) (origin next (start :: names) y)

/-- Some name leads to each of the names. -/
theorem BreadthFirst.exists_mem_next {next : String → List String} {start : String}
    {names : List String} (h : BreadthFirst next start names) {x : String} (hx : x ∈ names) :
    ∃ y, x ∈ next y := by
  obtain ⟨-, n, hwalk⟩ := (h.mem_iff x).1 hx
  cases hwalk with
  | step _ hnext => exact ⟨_, hnext⟩

namespace Reader

variable {seen other names : List String} {x y : String}

theorem mem_unseen : x ∈ unseen seen names ↔ x ∈ names ∧ x ∉ seen := by
  induction names generalizing seen with
  | nil => simp [unseen]
  | cons name names ih =>
    rw [unseen]
    split
    · rename_i hseen
      rw [List.contains_iff_mem] at hseen
      rw [ih, List.mem_cons]
      constructor
      · exact fun h => ⟨.inr h.1, h.2⟩
      · rintro ⟨rfl | hx, hnot⟩
        · exact absurd hseen hnot
        · exact ⟨hx, hnot⟩
    · rename_i hseen
      rw [List.contains_iff_mem] at hseen
      by_cases hx : x = name
      · subst hx
        simp [hseen]
      · simp [ih, hx]

theorem nodup_unseen : (unseen seen names).Nodup := by
  induction names generalizing seen with
  | nil => exact List.nodup_nil
  | cons name names ih =>
    rw [unseen]
    split
    · exact ih
    · refine List.nodup_cons.2 ⟨?_, ih⟩
      rw [mem_unseen]
      exact fun h => h.2 List.mem_cons_self

/-- Only the members of what has been seen count, not their order. -/
theorem unseen_congr (h : ∀ x, x ∈ seen ↔ x ∈ other) : unseen seen names = unseen other names := by
  induction names generalizing seen other with
  | nil => rfl
  | cons name names ih =>
    have hname : seen.contains name = other.contains name := by
      rw [Bool.eq_iff_iff, List.contains_iff_mem, List.contains_iff_mem, h]
    have hcons : ∀ x, x ∈ name :: seen ↔ x ∈ name :: other := fun x => by
      rw [List.mem_cons, List.mem_cons, h]
    rw [unseen, unseen, hname, ih h, ih hcons]

/-- What the first names show is seen when the others are gone through. -/
theorem unseen_append (more : List String) :
    unseen seen (names ++ more) =
      unseen seen names ++ unseen (seen ++ unseen seen names) more := by
  induction names generalizing seen with
  | nil => simp [unseen]
  | cons name names ih =>
    rw [List.cons_append, unseen, unseen]
    split
    · exact ih
    · rw [ih, List.cons_append]
      refine congrArg (name :: unseen (name :: seen) names ++ ·) (unseen_congr fun x => ?_)
      simp only [List.mem_append, List.mem_cons]
      exact or_left_comm

/-- The unseen names keep the order in which they come up. -/
theorem pairwise_idxOf_unseen :
    (unseen seen names).Pairwise fun x y => names.idxOf x < names.idxOf y := by
  induction names generalizing seen with
  | nil => exact List.Pairwise.nil
  | cons name names ih =>
    have hlater : ∀ {seen x}, x ∈ unseen seen names → name ∈ seen →
        (name :: names).idxOf x = names.idxOf x + 1 := fun hx hname =>
      List.idxOf_cons_ne _ fun heq => (mem_unseen.1 hx).2 (heq ▸ hname)
    have hstep : ∀ {seen}, name ∈ seen → (unseen seen names).Pairwise fun x y =>
        (name :: names).idxOf x < (name :: names).idxOf y := by
      intro seen hname
      refine ih.imp_of_mem fun hx hy hlt => ?_
      rw [hlater hx hname, hlater hy hname]
      exact Nat.succ_lt_succ hlt
    rw [unseen]
    split
    · rename_i hseen
      exact hstep (List.contains_iff_mem.1 hseen)
    · refine List.pairwise_cons.2 ⟨fun y hy => ?_, hstep List.mem_cons_self⟩
      rw [hlater hy List.mem_cons_self, List.idxOf_cons_self]
      exact Nat.succ_pos _

end Reader

variable {next : String → List String} {start x y : String} {listing names : List String}

/-- Among the walks to a name there is one of its distance. -/
theorem walk_distance {n : Nat} (h : Walk next start n x) :
    Walk next start (distance next start x) x :=
  Nat.sInf_mem (s := {n | Walk next start n x}) ⟨n, h⟩

theorem origin_cons_of_mem (h : x ∈ next y) :
    origin next (y :: listing) x = (0, (next y).idxOf x) := by
  simp [origin, List.findIdx_cons, h]

theorem origin_cons_of_notMem (h : x ∉ next y) :
    origin next (y :: listing) x = ((origin next listing x).1 + 1, (origin next listing x).2) := by
  simp [origin, List.findIdx_cons, h]

/-- What a list of names leads to is in the order of the origins. -/
theorem origin_lt_of_idxOf_lt (hx : x ∈ listing.flatMap next) (hy : y ∈ listing.flatMap next)
    (hlt : (listing.flatMap next).idxOf x < (listing.flatMap next).idxOf y) :
    Prod.Lex (· < ·) (· < ·) (origin next listing x) (origin next listing y) := by
  induction listing with
  | nil => simp at hx
  | cons z listing ih =>
    rw [List.flatMap_cons] at hx hy hlt
    by_cases hzx : x ∈ next z
    · rw [origin_cons_of_mem hzx]
      by_cases hzy : y ∈ next z
      · rw [origin_cons_of_mem hzy]
        rw [List.idxOf_append_of_mem hzx, List.idxOf_append_of_mem hzy] at hlt
        exact .right _ hlt
      · rw [origin_cons_of_notMem hzy]
        exact .left _ _ (Nat.succ_pos _)
    · have hx' : x ∈ listing.flatMap next := (List.mem_append.1 hx).resolve_left hzx
      rw [List.idxOf_append_of_notMem hzx] at hlt
      by_cases hzy : y ∈ next z
      · rw [List.idxOf_append_of_mem hzy] at hlt
        have hbound := List.idxOf_lt_length_iff.2 hzy
        omega
      · have hy' : y ∈ listing.flatMap next := (List.mem_append.1 hy).resolve_left hzy
        rw [List.idxOf_append_of_notMem hzy, Nat.add_lt_add_iff_left] at hlt
        rw [origin_cons_of_notMem hzx, origin_cons_of_notMem hzy]
        rcases Prod.lex_def.1 (ih hx' hy' hlt) with hfirst | ⟨hfirst, hsecond⟩
        · exact .left _ _ (Nat.succ_lt_succ hfirst)
        · exact Prod.lex_def.2 (.inr ⟨congrArg (· + 1) hfirst, hsecond⟩)

/-- A name comes up no later than at any name that leads to it. -/
theorem origin_fst_le (h : x ∈ next y) : (origin next listing x).1 ≤ listing.idxOf y := by
  refine List.findIdx_le_findIdx fun z _ hz => ?_
  rw [beq_iff_eq.1 hz]
  exact List.contains_iff_mem.2 h

/-- The name at which another one comes up leads to it. -/
theorem exists_mem_next (hnodup : listing.Nodup) (h : ∃ y ∈ listing, x ∈ next y) :
    ∃ y ∈ listing, x ∈ next y ∧ listing.idxOf y = (origin next listing x).1 := by
  have hlt : (origin next listing x).1 < listing.length := by
    obtain ⟨y, hy, hx⟩ := h
    exact List.findIdx_lt_length_of_exists ⟨y, hy, List.contains_iff_mem.2 hx⟩
  exact ⟨listing[(origin next listing x).1], List.getElem_mem hlt,
    List.contains_iff_mem.1 (List.findIdx_getElem (w := hlt)), hnodup.idxOf_getElem _ hlt⟩

/-- Members of a list are related as their places say. -/
private theorem rel_of_idxOf_lt {R : String → String → Prop} (hrel : names.Pairwise R)
    (hy : y ∈ names) (hlt : names.idxOf x < names.idxOf y) : R x y := by
  have hylt := List.idxOf_lt_length_iff.2 hy
  have hplaces := List.pairwise_iff_getElem.1 hrel _ _ (Nat.lt_trans hlt hylt) hylt hlt
  rwa [List.getElem_idxOf, List.getElem_idxOf] at hplaces

/-- A visit in progress: the names that have been listed are the first one and what the visited
names lead to, and all of them can be reached. -/
structure Exploring (next : String → List String) (start : String)
    (visited pending : List String) : Prop where
  listed : visited ++ pending = start :: Reader.unseen [start] (visited.flatMap next)
  reached : ∀ x ∈ visited ++ pending, ∃ n, Walk next start n x

namespace Exploring

open Reader

variable {visited pending : List String}

theorem initial (next : String → List String) (start : String) :
    Exploring next start [] [start] where
  listed := rfl
  reached := by
    intro x hx
    rw [List.nil_append, List.mem_singleton] at hx
    exact ⟨0, hx ▸ .stay⟩

/-- A visit goes on with a name by listing what it leads to. -/
theorem visit (h : Exploring next start visited (x :: pending)) :
    Exploring next start (visited ++ [x])
      (pending ++ unseen (visited ++ x :: pending) (next x)) where
  listed := by
    have hrest : (visited ++ [x]) ++ (pending ++ unseen (visited ++ x :: pending) (next x)) =
        (visited ++ x :: pending) ++ unseen (visited ++ x :: pending) (next x) := by
      simp
    have hlisted := h.listed
    rw [hrest, List.flatMap_append, List.flatMap_singleton, unseen_append, hlisted]
    rfl
  reached := by
    intro y hy
    rw [List.append_assoc, List.singleton_append, ← List.cons_append, ← List.append_assoc,
      List.mem_append] at hy
    rcases hy with hold | hnew
    · exact h.reached y hold
    · obtain ⟨n, hwalk⟩ := h.reached x (List.mem_append_right _ List.mem_cons_self)
      exact ⟨n + 1, hwalk.step (mem_unseen.1 hnew).1⟩

theorem nodup (h : Exploring next start visited pending) : (visited ++ pending).Nodup := by
  rw [h.listed]
  refine List.nodup_cons.2 ⟨?_, nodup_unseen⟩
  rw [mem_unseen]
  exact fun hmem => hmem.2 (List.mem_singleton_self start)

/-- No more names are listed than there are besides the first one. -/
theorem length_le {bound : List String} (h : Exploring next start visited pending)
    (hnext : ∀ x, next x ⊆ bound) : (visited ++ pending).length ≤ bound.length + 1 := by
  have hsub : visited ++ pending ⊆ start :: bound := by
    intro x hx
    rw [h.listed] at hx
    rcases List.mem_cons.1 hx with rfl | hx
    · exact List.mem_cons_self
    · obtain ⟨y, -, hy⟩ := List.mem_flatMap.1 (mem_unseen.1 hx).1
      exact List.mem_cons_of_mem _ (hnext y hy)
  exact (h.nodup.subperm hsub).length_le

section Finished

variable (h : Exploring next start (start :: names) [])
include h

/-- At the end everything is listed that a listed name leads to. -/
theorem names_eq : names = unseen [start] ((start :: names).flatMap next) := by
  have hlisted := h.listed
  rwa [List.append_nil, List.cons_inj_right] at hlisted

theorem mem_names : x ∈ names ↔ x ≠ start ∧ ∃ y ∈ start :: names, x ∈ next y := by
  have hmem : x ∈ names ↔ x ∈ unseen [start] ((start :: names).flatMap next) :=
    iff_of_eq (congrArg (x ∈ ·) h.names_eq)
  rw [hmem, mem_unseen, List.mem_singleton, List.mem_flatMap, and_comm]

theorem mem_of_walk {n : Nat} (hwalk : Walk next start n x) : x ∈ start :: names := by
  induction hwalk with
  | stay => exact List.mem_cons_self
  | @step n x y _ hy ih =>
    by_cases hstart : y = start
    · exact hstart ▸ List.mem_cons_self
    · exact List.mem_cons_of_mem _ (h.mem_names.2 ⟨hstart, x, ih, hy⟩)

theorem pairwise_origin : names.Pairwise fun x y =>
    Prod.Lex (· < ·) (· < ·) (origin next (start :: names) x)
      (origin next (start :: names) y) := by
  have hpairs : names.Pairwise fun x y =>
      ((start :: names).flatMap next).idxOf x < ((start :: names).flatMap next).idxOf y := by
    have hunseen : (unseen [start] ((start :: names).flatMap next)).Pairwise fun x y =>
        ((start :: names).flatMap next).idxOf x < ((start :: names).flatMap next).idxOf y :=
      pairwise_idxOf_unseen
    rwa [← h.names_eq] at hunseen
  refine hpairs.imp_of_mem fun hx hy hlt => ?_
  exact origin_lt_of_idxOf_lt (List.mem_flatMap.2 (h.mem_names.1 hx).2)
    (List.mem_flatMap.2 (h.mem_names.1 hy).2) hlt

/-- The origins of the names are in the order of the names. -/
theorem origin_fst_mono (hx : x ∈ names) (hy : y ∈ names)
    (hle : (start :: names).idxOf x ≤ (start :: names).idxOf y) :
    (origin next (start :: names) x).1 ≤ (origin next (start :: names) y).1 := by
  rcases Nat.lt_or_eq_of_le hle with hlt | heq
  · have hstart : ∀ {z}, z ∈ names → start ≠ z := fun hz heq =>
      (h.mem_names.1 hz).1 heq.symm
    rw [List.idxOf_cons_ne _ (hstart hx), List.idxOf_cons_ne _ (hstart hy)] at hlt
    have horigin := rel_of_idxOf_lt h.pairwise_origin hy (Nat.lt_of_succ_lt_succ hlt)
    rcases Prod.lex_def.1 horigin with hfirst | ⟨hfirst, -⟩
    · exact Nat.le_of_lt hfirst
    · exact Nat.le_of_eq hfirst
  · rw [(List.idxOf_inj (List.mem_cons_of_mem start hx)).1 heq]

omit h in
/-- Only the first name stands at its own place. -/
private theorem eq_start_of_idxOf_le (hx : x ∈ start :: names)
    (hle : (start :: names).idxOf x ≤ (start :: names).idxOf start) : x = start := by
  rw [List.idxOf_cons_self, Nat.le_zero] at hle
  exact (List.idxOf_inj hx).1 (hle.trans List.idxOf_cons_self.symm)

/-- No name stands before a nearer one. -/
theorem exists_walk_le {n : Nat} (hwalk : Walk next start n y) :
    ∀ x ∈ start :: names, (start :: names).idxOf x ≤ (start :: names).idxOf y →
      ∃ m ≤ n, Walk next start m x := by
  -- By induction on the walk. The name at which `x` comes up stands no later than the one at which
  -- `y` does, and so no later than the last name of the walk before `y`.
  induction hwalk with
  | stay =>
    intro x hx hle
    exact ⟨0, Nat.le_refl 0, eq_start_of_idxOf_le hx hle ▸ .stay⟩
  | @step n q y hq hyq ih =>
    intro x hx hle
    by_cases hxstart : x = start
    · exact ⟨0, Nat.zero_le _, hxstart ▸ .stay⟩
    · have hystart : y ≠ start := fun heq => hxstart (eq_start_of_idxOf_le hx (heq ▸ hle))
      have hxmem : x ∈ names := (List.mem_cons.1 hx).resolve_left hxstart
      have hymem : y ∈ names :=
        (List.mem_cons.1 (h.mem_of_walk (hq.step hyq))).resolve_left hystart
      have hnodup : (start :: names).Nodup := by simpa using h.nodup
      obtain ⟨p, hp, hxp, hplace⟩ := exists_mem_next hnodup (h.mem_names.1 hxmem).2
      have hpq : (start :: names).idxOf p ≤ (start :: names).idxOf q :=
        calc (start :: names).idxOf p
          _ = (origin next (start :: names) x).1 := hplace
          _ ≤ (origin next (start :: names) y).1 := h.origin_fst_mono hxmem hymem hle
          _ ≤ (start :: names).idxOf q := origin_fst_le hyq
      obtain ⟨m, hm, hwalk⟩ := ih p hp hpq
      exact ⟨m + 1, Nat.succ_le_succ hm, hwalk.step hxp⟩

/-- A finished visit lists the names in breadth-first order. -/
theorem breadthFirst : BreadthFirst next start names where
  nodup := h.names_eq ▸ nodup_unseen
  start_notMem := fun hmem => (h.mem_names.1 hmem).1 rfl
  mem_iff := by
    intro x
    constructor
    · intro hx
      obtain ⟨hne, y, hy, hxy⟩ := h.mem_names.1 hx
      obtain ⟨n, hwalk⟩ := h.reached y (by simpa using hy)
      exact ⟨hne, n, hwalk.step hxy⟩
    · rintro ⟨hne, n, hwalk⟩
      exact (List.mem_cons.1 (h.mem_of_walk hwalk)).resolve_left hne
  distances := by
    have hnodup : (start :: names).Nodup := by simpa using h.nodup
    have hall : (start :: names).Pairwise fun x y =>
        distance next start x ≤ distance next start y := by
      refine List.pairwise_iff_getElem.2 fun i j hi hj hij => ?_
      have hle : (start :: names).idxOf (start :: names)[i] ≤
          (start :: names).idxOf (start :: names)[j] := by
        rw [hnodup.idxOf_getElem, hnodup.idxOf_getElem]
        exact Nat.le_of_lt hij
      obtain ⟨n, hn⟩ := h.reached (start :: names)[j] (by simp)
      obtain ⟨m, hm, hwalk⟩ :=
        h.exists_walk_le (walk_distance hn) _ (List.getElem_mem hi) hle
      exact Nat.le_trans (Nat.sInf_le hwalk) hm
    exact (List.pairwise_cons.1 hall).2
  origins := h.pairwise_origin

end Finished

end Exploring

end SymbolIndex
