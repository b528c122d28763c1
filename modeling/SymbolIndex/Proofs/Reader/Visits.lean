import SymbolIndex.Proofs.Reader.Spelling
import SymbolIndex.Proofs.Reader.Supertypes

/-!
# The end of a visit

A visit of supertypes comes to an end with whatever answers its calls, as long as there are finitely
many parents to name. The names that wait to be visited may become more, but those that have not
been visited become fewer with each step. The answers need not go together: a server may name other
parents each time it is asked.

Each name is asked about once, and a blank one not at all.
-/

namespace SymbolIndex

open Text

namespace Reader

variable (r : Reader) {σ : Type} {serve : Server σ} {s s' : σ} {n : Nat} {name : String}
  {visited pending known parents : List String} {failure : Failure} {rs : List Record}

/-- The parents that types of the given records name. -/
def parentsIn (rs : List Record) : List String := (r.types rs).flatMap (·.parents)

/-- Whether a server never describes a type with other parents than the given ones. -/
def NamesParents (serve : Server σ) (parents : List String) : Prop :=
  ∀ s q rs, (serve s ⟨[.type], q⟩).1 = .ok rs → r.parentsIn rs ⊆ parents

/-- How a visit ends that may go on for some number of steps or more: with a failure, or with a
listing that adds to the names so far. In the latter case it has asked about each name that was
still to be visited. -/
def VisitEnds (serve : Server σ) (s : σ) (n : Nat) (visited pending : List String) : Prop :=
  ∃ (result : Except Failure (List String)) (calls : List Call),
    (∀ limit, n ≤ limit →
      (r.visit limit pending (visited ++ pending)).runOver serve s = ⟨result.map some, calls⟩) ∧
    ∀ listing, result = .ok listing → ∃ later, listing = visited ++ (pending ++ later) ∧
      listing.Nodup ∧ calls = ((pending ++ later).filter (!isBlank ·)).map r.namedCall

namespace VisitEnds

variable {r}

theorem nil (h : visited.Nodup) : r.VisitEnds serve s n visited [] := by
  refine ⟨.ok visited, [], fun limit _ => ?_, ?_⟩
  · rw [visit_nil, List.append_nil]
    rfl
  · rintro _ ⟨⟩
    exact ⟨[], by simp, h, rfl⟩

/-- A blank name has no parents, so only the other names are left. -/
theorem cons_blank (hblank : isBlank name) (h : r.VisitEnds serve s n (visited ++ [name]) pending) :
    r.VisitEnds serve s (n + 1) visited (name :: pending) := by
  obtain ⟨result, calls, hrun, hresult⟩ := h
  refine ⟨result, calls, fun limit hlimit => ?_, fun listing hlisting => ?_⟩
  · obtain ⟨limit, rfl⟩ := Nat.exists_eq_add_of_le' (Nat.one_le_of_lt hlimit)
    rw [visit_cons, r.parentsOf_of_blank hblank, ← hrun limit (Nat.le_of_succ_le_succ hlimit)]
    simp [unseen]
  · obtain ⟨later, rfl, hnodup, rfl⟩ := hresult listing hlisting
    exact ⟨later, by simp, hnodup, by simp [hblank]⟩

theorem cons_error (hname : ¬ isBlank name)
    (hcall : serve s (r.namedCall name) = (.error failure, s')) :
    r.VisitEnds serve s (n + 1) visited (name :: pending) := by
  refine ⟨.error failure, [r.namedCall name], fun limit hlimit => ?_, nofun⟩
  obtain ⟨limit, rfl⟩ := Nat.exists_eq_add_of_le' (Nat.one_le_of_lt hlimit)
  rw [visit_cons, r.parentsOf_of_not_blank hname, Lookup.ask_bind]
  exact Lookup.runOver_ask_error hcall _

/-- The parents that have not been seen are left besides the other names. -/
theorem cons_ok (hname : ¬ isBlank name) (hcall : serve s (r.namedCall name) = (.ok rs, s'))
    (h : r.VisitEnds serve s' n (visited ++ [name])
      (pending ++ unseen (visited ++ name :: pending) (parentNames (r.types rs)))) :
    r.VisitEnds serve s (n + 1) visited (name :: pending) := by
  obtain ⟨result, calls, hrun, hresult⟩ := h
  refine ⟨result, r.namedCall name :: calls, fun limit hlimit => ?_, fun listing hlisting => ?_⟩
  · obtain ⟨limit, rfl⟩ := Nat.exists_eq_add_of_le' (Nat.one_le_of_lt hlimit)
    have hrest := hrun limit (Nat.le_of_succ_le_succ hlimit)
    simp only [List.append_assoc, List.singleton_append] at hrest
    rw [visit_cons, r.parentsOf_of_not_blank hname, Lookup.ask_bind,
      Lookup.runOver_ask_ok hcall, Lookup.done_bind, List.append_assoc, List.cons_append, hrest]
  · obtain ⟨later, rfl, hnodup, rfl⟩ := hresult listing hlisting
    exact ⟨unseen (visited ++ name :: pending) (parentNames (r.types rs)) ++ later, by simp, hnodup,
      by simp [hname]⟩

end VisitEnds

theorem nodup_append_unseen {seen names : List String} (h : seen.Nodup) :
    (seen ++ unseen seen names).Nodup :=
  h.append nodup_unseen fun _ hx hmem => (mem_unseen.1 hmem).2 hx

theorem append_unseen_subset {seen names : List String} (hseen : seen ⊆ known)
    (hnames : names ⊆ known) : seen ++ unseen seen names ⊆ known :=
  List.append_subset.2 ⟨hseen, fun _ hx => hnames (mem_unseen.1 hx).1⟩

/-- Each step visits one of the known names, and all that it adds to the others is known. -/
theorem visitEnds (h : r.NamesParents serve parents) (hparents : parents.map bareTypeName ⊆ known)
    (hnodup : (visited ++ pending).Nodup) (hknown : visited ++ pending ⊆ known)
    (hn : known.length ≤ visited.length + n) (s : σ) : r.VisitEnds serve s n visited pending := by
  induction n generalizing visited pending s with
  | zero =>
    have hlength := (hnodup.subperm hknown).length_le
    rw [List.length_append] at hlength
    obtain rfl : pending = [] := List.eq_nil_of_length_eq_zero (by omega)
    exact .nil (by simpa using hnodup)
  | succ n ih =>
    cases pending with
    | nil => exact .nil (by simpa using hnodup)
    | cons name pending =>
      have hn' : known.length ≤ (visited ++ [name]).length + n := by
        rw [List.length_append, List.length_singleton]
        omega
      by_cases hname : isBlank name
      · refine .cons_blank hname (ih ?_ ?_ hn' s)
        · simpa using hnodup
        · simpa using hknown
      · rcases hcall : serve s (r.namedCall name) with ⟨failure | rs, s'⟩
        · exact .cons_error hname hcall
        · have hrs : parentNames (r.types rs) ⊆ known :=
            List.Subset.trans (List.map_subset _ (h s _ rs (congrArg Prod.fst hcall))) hparents
          have hmoved (found : List String) :
              visited ++ [name] ++ (pending ++ found) = (visited ++ name :: pending) ++ found := by
            simp
          refine .cons_ok hname hcall (ih ?_ ?_ hn' s')
          · rw [hmoved]
            exact nodup_append_unseen hnodup
          · rw [hmoved]
            exact append_unseen_subset hknown hrs

theorem parentsIn_subset {rs rs' : List Record} (h : rs ⊆ rs') :
    r.parentsIn rs ⊆ r.parentsIn rs' := by
  intro parent hparent
  obtain ⟨t, ht, hmem⟩ := List.mem_flatMap.1 hparent
  obtain ⟨record, hrecord, htype⟩ := List.mem_filterMap.1 ht
  exact List.mem_flatMap.2 ⟨t, List.mem_filterMap.2 ⟨record, h hrecord, htype⟩, hmem⟩

theorem namesParents_memory [Regex.Limit] (s : MemoryStore) :
    r.NamesParents s.engine.server (r.parentsIn (s.records [.type])) :=
  fun _ _ _ hrs => r.parentsIn_subset (MemoryStore.answer_subset hrs)

theorem namesParents_database [Regex.Limit] (db : Database) :
    r.NamesParents db.engine.server (r.parentsIn (db.records [.type])) :=
  fun _ q rs hrs =>
    r.parentsIn_subset (Database.answer_subset (show db.answer ⟨[.type], q⟩ = .ok rs from hrs))

/-- A visit of the supertypes of a type comes to an end, whatever answers its calls, if that names
finitely many parents: the visit is the same for every limit from some number on. Every index in
memory and every database names finitely many. If no call fails, the calls are one for the types of
each name that is not blank, first the one that the visit starts with and then the supertypes in
their order, which are all different. -/
theorem supertypes?_ends [Regex.Limit] (r : Reader) (name : String) :
    (∀ {σ : Type} (serve : Server σ) (parents : List String), r.NamesParents serve parents →
      ∀ s, ∃ (result : Except Failure (List String)) (calls : List Call),
        (∀ limit, parents.length + 1 ≤ limit →
          (r.supertypes? limit name).runOver serve s = ⟨result.map some, calls⟩) ∧
        ∀ names, result = .ok names → (bareTypeName name :: names).Nodup ∧
          calls = ((bareTypeName name :: names).filter (!isBlank ·)).map r.namedCall) ∧
    (∀ s : MemoryStore, r.NamesParents s.engine.server (r.parentsIn (s.records [.type]))) ∧
    ∀ db : Database, r.NamesParents db.engine.server (r.parentsIn (db.records [.type])) := by
  refine ⟨fun serve parents h s => ?_, r.namesParents_memory, r.namesParents_database⟩
  by_cases hname : isBlank name
  · refine ⟨.ok [], [], fun limit _ => ?_, ?_⟩
    · rw [supertypes?, if_pos hname]
      rfl
    · rintro _ ⟨⟩
      simp [hname]
  · have hvisit : r.VisitEnds serve s (parents.length + 1) [] [bareTypeName name] :=
      r.visitEnds h (List.subset_cons_self (bareTypeName name) _) (List.nodup_singleton _)
        (List.cons_subset_cons _ (List.nil_subset _)) (by simp) s
    obtain ⟨result, calls, hrun, hresult⟩ := hvisit
    refine ⟨result.map List.tail, calls, fun limit hlimit => ?_, fun names hnames => ?_⟩
    · rw [supertypes?, if_neg hname]
      refine (Lookup.runOver_map _ _ _ _).trans ?_
      refine (congrArg (Lookup.Outcome.map (Option.map List.tail)) (hrun limit hlimit)).trans ?_
      cases result <;> rfl
    · cases result with
      | error failure => cases hnames
      | ok listing =>
        cases hnames
        obtain ⟨later, rfl, hnodup, hcalls⟩ := hresult listing rfl
        exact ⟨hnodup, hcalls⟩

/-- A server that answers the first call with one type and every later one with another, whatever it
is asked. The two have each other for supertypes. -/
theorem supertypes?_ends_widget :
    let r : Reader := {}
    let serve : Server Nat := fun made _ =>
      (.ok (if made = 0 then [⟨"Button\x00Widget\x00", ["b.js"]⟩] else
        [⟨"Widget\x00Button\x00", ["w.js"]⟩]), made + 1)
    r.NamesParents serve ["Widget", "Button"] ∧
      ((r.supertypes? 3 "Button").runOver serve 0).result = .ok (some ["Widget"]) ∧
      ((r.supertypes? 3 "Button").runOver serve 0).calls =
        [r.namedCall "Button", r.namedCall "Widget"] := by
  intro r serve
  have hparents : r.NamesParents serve ["Widget", "Button"] := by
    intro made q rs hrs
    cases hrs
    split <;> decide +kernel
  have hresult : ((r.supertypes? 3 "Button").runOver serve 0).result = .ok (some ["Widget"]) := by
    decide +kernel
  obtain ⟨result, calls, hrun, hnames⟩ :=
    (@supertypes?_ends .unlimited r "Button").1 serve _ hparents 0
  refine ⟨hparents, hresult, ?_⟩
  rw [hrun 3 (by decide)] at hresult ⊢
  cases result with
  | error failure => cases hresult
  | ok names =>
    cases hresult
    exact (hnames _ rfl).2.trans (by decide)

end Reader

end SymbolIndex
