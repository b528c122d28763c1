import SymbolIndex.Proofs.BreadthFirst
import SymbolIndex.Proofs.Reader.Types
import SymbolIndex.Proofs.Record.Type

/-!
# The supertypes of a type

Supertypes are listed in breadth-first order along the parents of types, whatever the records say:
types may be their own supertypes, have several records, or have parents without a record. The
number of visits that a reader allows itself is never used up before all of them are listed.
-/

namespace SymbolIndex

open Text

namespace Reader

variable {e : Engine} {es : Entries}

/-- The parents of types, as records spell them. -/
def parentNames (types : List TypeSymbol) : List String :=
  (types.flatMap (·.parents)).map bareTypeName

/-- The call for the types of a name. -/
def namedCall (r : Reader) (name : String) : Call := ⟨[.type], .typeNamed r.delimiters name⟩

theorem parentsOf_of_blank (r : Reader) {name : String} (h : isBlank name) :
    r.parentsOf name = .done [] := by
  rw [parentsOf, typesNamed, if_pos h]
  rfl

theorem parentsOf_of_not_blank (r : Reader) {name : String} (h : ¬ isBlank name) :
    r.parentsOf name = .ask (r.namedCall name) fun rs => .done (parentNames (r.types rs)) := by
  rw [parentsOf, typesNamed, if_neg h, Lookup.records_bind, Lookup.ask_bind]
  rfl

theorem run_parentsOf [Regex.Limit] (r : Reader) (hs : Serving e es) (name : String) (made : Nat) :
    ((r.parentsOf name).run e made).result = .ok (parentNames (r.typesIn es name)) :=
  Lookup.result_map_of_ok (r.run_typesNamed hs name made) parentNames

/-- The parents that records of types name, all together. -/
def knownParents (r : Reader) (es : Entries) : List String :=
  parentNames (r.types (es.records [.type]))

theorem parentNames_subset_knownParents (r : Reader) (es : Entries) (name : String) :
    parentNames (r.typesIn es name) ⊆ r.knownParents es :=
  List.map_subset _ fun _ hx =>
    have ⟨t, ht, hparent⟩ := List.mem_flatMap.1 hx
    List.mem_flatMap.2 ⟨t, r.typesIn_subset es name ht, hparent⟩

theorem visitLimit_eq (r : Reader) (es : Entries) :
    r.visitLimit (es.records [.type]) = (r.knownParents es).length + 1 := by
  rw [visitLimit, knownParents, parentNames, List.length_map]

@[simp] theorem visit_nil (r : Reader) (limit : Nat) (seen : List String) :
    r.visit limit [] seen = .done (some seen) := by
  cases limit <;> rfl

theorem visit_cons (r : Reader) (limit : Nat) (name : String) (pending seen : List String) :
    r.visit (limit + 1) (name :: pending) seen = r.parentsOf name >>= fun parents =>
      r.visit limit (pending ++ unseen seen parents) (seen ++ unseen seen parents) := rfl

/-- A visit in progress comes to its end if it may go on for as long as there are parents. -/
theorem run_visit [Regex.Limit] (r : Reader) (hs : Serving e es) {start : String} {limit : Nat}
    {visited pending : List String}
    (h : Exploring (fun name => parentNames (r.typesIn es name)) start visited pending)
    (hlimit : r.visitLimit (es.records [.type]) ≤ visited.length + limit) (made : Nat) :
    ∃ listing, ((r.visit limit pending (visited ++ pending)).run e made).result =
        .ok (some listing) ∧
      Exploring (fun name => parentNames (r.typesIn es name)) start listing [] := by
  induction limit generalizing visited pending made with
  | zero =>
    cases pending with
    | nil => exact ⟨visited, by simp, h⟩
    | cons name pending =>
      have hlength := h.length_le (r.parentNames_subset_knownParents es)
      rw [visitLimit_eq] at hlimit
      simp only [List.length_append, List.length_cons] at hlength
      omega
  | succ limit ih =>
    cases pending with
    | nil => exact ⟨visited, by simp, h⟩
    | cons name pending =>
      have hvisit := h.visit
      rw [visit_cons, Lookup.result_bind_of_ok (r.run_parentsOf hs name made)]
      obtain ⟨listing, hrun, hlisting⟩ := ih hvisit
        (by simpa [Nat.add_assoc, Nat.add_comm 1] using hlimit)
        (made + ((r.parentsOf name).run e made).calls.length)
      refine ⟨listing, ?_, hlisting⟩
      rw [← hrun]
      simp

/-- The parents of types that records describe come from names without delimiters. -/
theorem exists_of_mem_parentNames (r : Reader) (es : Entries) {name x : String}
    (hx : x ∈ parentNames (r.typesIn es name)) :
    ∃ parent, r.delimiters.primary ∉ parent.toList ∧ bareTypeName parent = x := by
  obtain ⟨parent, hparent, rfl⟩ := List.mem_map.1 hx
  obtain ⟨t, ht, hmem⟩ := List.mem_flatMap.1 hparent
  obtain ⟨record, -, hrecord⟩ := List.mem_filterMap.1 (r.typesIn_subset es name ht)
  exact ⟨parent, Record.notMem_of_mem_parents hrecord hmem, rfl⟩

/-- Whenever the supertypes of a type are looked up, these are the names in breadth-first order. -/
theorem run_supertypes? [Regex.Limit] (r : Reader) (hs : Serving e es) {name : String}
    (hname : ¬ isBlank name) {limit : Nat}
    (hlimit : r.visitLimit (es.records [.type]) ≤ limit) :
    ∃ names, (∀ made, ((r.supertypes? limit name).run e made).result = .ok (some names)) ∧
      BreadthFirst (fun x => parentNames (r.typesIn es x)) (bareTypeName name) names := by
  obtain ⟨listing, hrun, hlisting⟩ := r.run_visit hs
    (Exploring.initial (fun x => parentNames (r.typesIn es x)) (bareTypeName name))
    (by simpa using hlimit) 0
  -- The listing starts with the type itself, which is no supertype.
  obtain ⟨names, rfl⟩ : ∃ names, listing = bareTypeName name :: names :=
    ⟨_, by simpa using hlisting.listed⟩
  refine ⟨names, ?_, hlisting.breadthFirst⟩
  intro made
  rw [hs.run_eq (r.asks_supertypes? limit name) made 0, supertypes?, if_neg hname]
  exact Lookup.result_map_of_ok hrun (Option.map List.tail)

/-- The supertypes of a type are what the parents of types lead to from it, the nearest first. -/
theorem run_supertypes?_breadthFirst [Regex.Limit] (r : Reader) (hs : Serving e es) {name : String}
    (hname : ¬ isBlank name) {limit : Nat}
    (hlimit : r.visitLimit (es.records [.type]) ≤ limit) (made : Nat) :
    ∃ types : String → List TypeSymbol,
      (∀ x made, ((r.typesNamed x false).run e made).result = .ok (types x)) ∧
      ∃ names, ((r.supertypes? limit name).run e made).result = .ok (some names) ∧
        BreadthFirst (fun x => parentNames (types x)) (bareTypeName name) names := by
  obtain ⟨names, hrun, hnames⟩ := r.run_supertypes? hs hname hlimit
  exact ⟨r.typesIn es, r.run_typesNamed hs, names, hrun made, hnames⟩

/-- A type with two records, one of them with a supertype that has the type for its own. -/
theorem run_supertypes?_breadthFirst_button :
    let _ : Regex.Limit := .unlimited
    let h : List Change := [.add .type "Button\x00Widget\x00" "b.js",
      .add .type "Button\x00Clickable\x00" "c.js", .add .type "Widget\x00Object\x00" "w.js",
      .add .type "Clickable\x00Button\x00" "c.js"]
    let e := (MemoryStore.empty.run h).2.engine
    ∃ types : String → List TypeSymbol,
      (∀ x made, ((({} : Reader).typesNamed x false).run e made).result = .ok (types x)) ∧
      BreadthFirst (fun x => parentNames (types x)) "Button" ["Widget", "Clickable", "Object"] := by
  intro limit h e
  have hname : ¬ isBlank "Button" := by decide
  have hlimit : ({} : Reader).visitLimit ((Entries.ofHistory h).records [.type]) ≤ 5 := by decide
  obtain ⟨types, htypes, names, hrun, hnames⟩ :=
    run_supertypes?_breadthFirst {} (.memory h) hname hlimit 0
  have hlist : ((({} : Reader).supertypes? 5 "Button").run e 0).result =
      .ok (some ["Widget", "Clickable", "Object"]) := by
    have hentries : (({} : Reader).supertypes? 5 "Button").run e 0 =
        (({} : Reader).supertypes? 5 "Button").run (fun _ => (Entries.ofHistory h).answer) 0 :=
      Lookup.run_congr (asks_supertypes? {} 5 "Button")
        (fun made c hc => (Serving.memory h).answer hc made) 0
    rw [hentries]
    decide +kernel
  rw [hrun, Except.ok.injEq, Option.some.injEq] at hlist
  exact ⟨types, htypes, hlist ▸ hnames⟩

end Reader

end SymbolIndex
