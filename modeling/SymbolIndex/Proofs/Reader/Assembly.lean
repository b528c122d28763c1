import Mathlib.Data.List.Forall2
import Mathlib.Data.List.Perm.Subperm
import SymbolIndex.Proofs.Reader.Listings
import SymbolIndex.Proofs.Record.Type
import SymbolIndex.Proofs.Selections
import SymbolIndex.Proofs.SideBySide

/-!
# The order in which a listing is assembled

A long listing may assemble its types in any order, and several of them at a time. From an index
that does not change, none of this shows: two types that are assembled one after another can change
places, since neither place nor time matters to what is attached to a type.
-/

namespace SymbolIndex

open Text

namespace Reader

variable (r : Reader) {answer : Call → Except Failure (List Record)} {t : TypeSymbol}

/-- The calls for the members of a type, which a blank type has none of. -/
def assemblyCalls (t : TypeSymbol) : List Call :=
  if isBlank t.name then [] else r.memberCalls t.name

theorem plans_assemble (t : TypeSymbol) : (r.assemble t).Plans (r.assemblyCalls t) := by
  rw [← List.append_nil (r.assemblyCalls t), assemblyCalls]
  refine Lookup.Plans.bind ?_ fun _ => rfl
  split
  · rename_i hblank
    rw [attachMembers, if_pos hblank]
    rfl
  · rename_i hname
    exact r.plans_attachMembers hname

/-- Each place is assembled once, so the types that are still to come are those of the listing. -/
theorem plans_assembleAt {places : List Nat} (hplaces : places.Nodup) (types : List TypeSymbol) :
    (r.assembleAt places types).Plans
      ((places.filterMap (types[·]?)).flatMap r.assemblyCalls) := by
  induction places generalizing types with
  | nil => rfl
  | cons i places ih =>
    obtain ⟨hi, hplaces⟩ := List.nodup_cons.1 hplaces
    cases h : types[i]? with
    | none => simpa [assembleAt, h] using ih hplaces types
    | some t =>
      simp only [assembleAt, h, List.filterMap_cons, List.flatMap_cons]
      refine (r.plans_assemble t).bind fun t' => ?_
      have hrest : places.filterMap (types[·]?) = places.filterMap ((types.set i t')[·]?) := by
        refine List.filterMap_congr fun j hj => ?_
        rw [List.getElem?_set_ne]
        exact fun heq => hi (heq ▸ hj)
      rw [hrest]
      exact ih hplaces _

/-- Two types that are assembled one after another can change places. -/
theorem value?_assembleAt_perm {places places' : List Nat} (h : places.Perm places')
    (types : List TypeSymbol) :
    (r.assembleAt places types).value? answer = (r.assembleAt places' types).value? answer := by
  induction h generalizing types with
  | nil => rfl
  | cons i _ ih =>
    rw [assembleAt, assembleAt]
    cases types[i]? with
    | none => exact ih types
    | some t => simp only [Lookup.value?_bind, ih]
  | swap i j places =>
    by_cases hij : i = j
    · rw [hij]
    · cases hi : types[i]? <;> cases hj : types[j]? <;>
        simp only [assembleAt, hi, hj, Lookup.value?_bind, List.getElem?_set_ne hij,
          List.getElem?_set_ne (Ne.symm hij)]
      rw [Option.bind_comm]
      simp only [List.set_comm _ _ hij]
  | trans _ _ ih ih' => exact (ih types).trans (ih' types)

/-- Assembling the rest of a listing in its order leaves what comes before. -/
theorem assembleAt_range' (before types : List TypeSymbol) :
    r.assembleAt (List.range' before.length types.length) (before ++ types) =
      types.mapM r.assemble >>= fun assembled => .done (before ++ assembled) := by
  induction types generalizing before with
  | nil => rfl
  | cons t types ih =>
    have hget : (before ++ t :: types)[before.length]? = some t := by simp
    have hrest (t' : TypeSymbol) :
        r.assembleAt (List.range' (before.length + 1) types.length)
            ((before ++ t :: types).set before.length t') =
          types.mapM r.assemble >>= fun assembled => .done (before ++ t' :: assembled) := by
      simpa using ih (before ++ [t'])
    simp only [List.length_cons, List.range'_succ, assembleAt, hget, hrest, List.mapM_cons,
      bind_assoc, pure_bind]

theorem assembleAt_range (types : List TypeSymbol) :
    r.assembleAt (List.range types.length) types = types.mapM r.assemble := by
  rw [List.range_eq_range']
  exact (r.assembleAt_range' [] types).trans (bind_pure _)

/-- What is attached to a type is what is attached to a new one of the same name. -/
theorem attachMembers_eq_bind (t : TypeSymbol) :
    r.attachMembers t = r.attachMembers { name := t.name } >>= fun a => .done
      { t with properties := t.properties ++ a.properties, events := t.events ++ a.events } := by
  by_cases hblank : isBlank t.name
  · simp [attachMembers, hblank]
  · rw [r.attachMembers_of_not_blank hblank, r.attachMembers_of_not_blank (t := { name := t.name })
      hblank]
    simp

/-- Whether a type is another one as a listing completes it: with the members that are attached to a
new type of its name. -/
def Completes (answer : Call → Except Failure (List Record)) (t t' : TypeSymbol) : Prop :=
  ∃ a, ((r.attachMembers { name := t.name }).run (.constant answer) 0).result = .ok a ∧
    t' = { t with properties := a.properties, events := a.events, assembled := true }

theorem completes_iff {t' : TypeSymbol} :
    r.Completes answer t t' ↔
      ((r.attachMembers { name := t.name }).value? answer).map (fun a =>
        { t with properties := a.properties, events := a.events, assembled := true }) =
          some t' := by
  simp only [Completes, Lookup.result_eq_ok_iff, Option.map_eq_some_iff, eq_comm (b := t')]

/-- Nothing is attached to a blank type. -/
theorem Completes.of_blank {r : Reader} {t' : TypeSymbol} (h : r.Completes answer t t')
    (hblank : isBlank t'.name) : t'.properties = [] ∧ t'.events = [] := by
  obtain ⟨a, ha, rfl⟩ := h
  rw [attachMembers, if_pos hblank] at ha
  cases ha
  exact ⟨rfl, rfl⟩

theorem value?_assemble (hproperties : t.properties = []) (hevents : t.events = []) :
    (r.assemble t).value? answer = ((r.attachMembers { name := t.name }).value? answer).map fun a =>
      { t with properties := a.properties, events := a.events, assembled := true } := by
  rw [assemble, attachMembers_eq_bind, Lookup.value?_bind, Lookup.value?_bind, hproperties, hevents]
  cases (r.attachMembers { name := t.name }).value? answer <;> rfl

section Listing

variable {places : List Nat} {types listed : List TypeSymbol}

theorem filterMap_range_getElem? (types : List TypeSymbol) :
    (List.range types.length).filterMap (types[·]?) = types := by
  have hmap : (List.range types.length).map (types[·]?) = types.map some :=
    List.ext_getElem (by simp) (by simp)
  simpa [List.filterMap_map] using congrArg (List.filterMap id) hmap

/-- The calls of an assembly are those for each type, in the order of the assembly. -/
theorem exists_plans_assembleAt (hplaces : places.Perm (List.range types.length)) :
    ∃ calls, calls.Perm (types.flatMap r.assemblyCalls) ∧
      (r.assembleAt places types).Plans calls := by
  refine ⟨_, ?_, r.plans_assembleAt (hplaces.nodup_iff.2 List.nodup_range) types⟩
  have hperm := (hplaces.filterMap (types[·]?)).flatMap_right r.assemblyCalls
  rwa [filterMap_range_getElem?] at hperm

theorem value?_assembleAt_eq_some_iff (hplaces : places.Perm (List.range types.length)) :
    (r.assembleAt places types).value? answer = some listed ↔
      (types.map r.assemble).map (·.value? answer) = listed.map some := by
  rw [r.value?_assembleAt_perm hplaces, assembleAt_range, Lookup.value?_mapM,
    Selections.mapM_eq_some_iff, List.map_map]
  rfl

theorem map_value?_assemble_iff
    (htypes : ∀ t ∈ types, t.properties = [] ∧ t.events = []) :
    (types.map r.assemble).map (·.value? answer) = listed.map some ↔
      List.Forall₂ (r.Completes answer) types listed := by
  rw [List.map_map, Function.comp_def,
    List.map_congr_left fun t ht => r.value?_assemble (htypes t ht).1 (htypes t ht).2,
    ← List.forall₂_eq_eq_eq, List.forall₂_map_left_iff, List.forall₂_map_right_iff]
  simp only [← completes_iff]

theorem members_of_blank {r : Reader} (h : List.Forall₂ (r.Completes answer) types listed) :
    ∀ t ∈ listed, isBlank t.name → t.properties = [] ∧ t.events = [] := by
  induction h with
  | nil => exact nofun
  | cons hhead _ ih => exact List.forall_mem_cons.2 ⟨hhead.of_blank, ih⟩

theorem forall_mem_assemblyCalls {p : Call → Prop} :
    (∀ c ∈ types.flatMap r.assemblyCalls, p c) ↔
      ∀ t ∈ types, ¬ isBlank t.name → ∀ c ∈ r.memberCalls t.name, p c := by
  simp only [List.mem_flatMap, forall_exists_index, and_imp]
  rw [forall_comm]
  refine forall_congr' fun t => ⟨fun h ht hname c hc => ?_, fun h c ht hc => ?_⟩
  · refine h c ht ?_
    rwa [assemblyCalls, if_neg hname]
  · rw [assemblyCalls] at hc
    split at hc
    · cases hc
    · rename_i hname
      exact h ht hname c hc

end Listing

/-- The call for all types. -/
def typeCall : Call := ⟨[.type], .everything⟩

/-- The threshold decides on the order of a listing and on nothing else. -/
theorem assembleAt_threshold (threshold : Nat) (places : List Nat) (types : List TypeSymbol) :
    { r with parallelThreshold := threshold }.assembleAt places types =
      r.assembleAt places types := by
  induction places generalizing types with
  | nil => rfl
  | cons i places ih =>
    rw [assembleAt, assembleAt]
    cases types[i]? with
    | none => exact ih types
    | some t => exact congrArg (r.assemble t >>= ·) (funext fun t' => ih _)

/-- A listing with members is an assembly, in some order, after the call for all types. -/
theorem exists_allTypes {schedule : Nat → List Nat}
    (hschedule : ∀ n, (schedule n).Perm (List.range n)) (threshold : Nat) {rs : List Record}
    {e : Engine} {made : Nat} (h : e made typeCall = .ok rs) :
    ∃ places, places.Perm (List.range (r.types rs).length) ∧
      ({ r with parallelThreshold := threshold }.allTypes schedule true).run e made =
        ⟨((r.assembleAt places (r.types rs)).run e (made + 1)).result,
          typeCall :: ((r.assembleAt places (r.types rs)).run e (made + 1)).calls⟩ := by
  refine ⟨(if (r.types rs).length ≤ threshold then List.range else schedule) (r.types rs).length,
    ?_, ?_⟩
  · split
    · exact List.Perm.refl _
    · exact hschedule _
  · rw [← r.assembleAt_threshold threshold, allTypes, Lookup.records_bind]
    exact Lookup.run_ask_ok h _

/-- Types come without members. -/
theorem members_of_mem_types (rs : List Record) :
    ∀ t ∈ r.types rs, t.properties = [] ∧ t.events = [] := by
  intro t ht
  obtain ⟨record, -, hrecord⟩ := List.mem_filterMap.1 ht
  exact ⟨Record.properties_of_toType? hrecord, Record.events_of_toType? hrecord⟩

/-- From an index that does not change, a listing with members does not depend on the threshold, nor
on the order in which a long one is assembled, nor on whether types are assembled side by side. It
fails exactly if the call for all types fails, or one for the members of a type that is not blank.
Otherwise it is the listing without members, type by type, each with what is attached to a new type
of its name; for a blank name that is nothing, and there are no calls for it. -/
theorem allTypes_in_any_order (r : Reader) (threshold : Nat)
    (answer : Call → Except Failure (List Record)) {schedule : Nat → List Nat}
    (hschedule : ∀ n, (schedule n).Perm (List.range n)) (made : Nat) :
    let plain := (r.allTypes schedule false).run (.constant answer) made
    let full :=
      ({ r with parallelThreshold := threshold }.allTypes schedule true).run (.constant answer) made
    ((∃ listed, full.result = .ok listed) ↔
      ∃ rs, answer typeCall = .ok rs ∧ ∀ t ∈ r.types rs, ¬ isBlank t.name →
        ∀ c ∈ r.memberCalls t.name, ∃ found, answer c = .ok found) ∧
    (∀ listed, full.result = .ok listed ↔
      ∃ types, plain.result = .ok types ∧ List.Forall₂ (r.Completes answer) types listed) ∧
    (∀ listed, full.result = .ok listed →
      ∀ t ∈ listed, isBlank t.name → t.properties = [] ∧ t.events = []) ∧
    ∀ types, plain.result = .ok types →
      full.calls.Subperm (typeCall :: types.flatMap r.assemblyCalls) ∧
      (∀ listed, full.result = .ok listed →
        full.calls.Perm (typeCall :: types.flatMap r.assemblyCalls)) ∧
      (∃ result, SideBySide answer (types.map r.assemble) result) ∧
      ∀ result, SideBySide answer (types.map r.assemble) result →
        ∀ listed, result = .ok listed ↔ full.result = .ok listed := by
  intro plain full
  cases h : answer typeCall with
  | error failure =>
    have hfails (r : Reader) (schedule : Nat → List Nat) (withMembers : Bool) :
        (r.allTypes schedule withMembers).run (.constant answer) made =
          ⟨.error failure, [typeCall]⟩ := by
      rw [allTypes, Lookup.records_bind]
      exact Lookup.run_ask_error h _
    simp [plain, full, hfails]
  | ok rs =>
    have hplain : plain.result = .ok (r.types rs) :=
      (r.result_allTypes _ made schedule).trans (congrArg (Except.map r.types) h)
    obtain ⟨places, hplaces, hfull⟩ :=
      r.exists_allTypes (e := .constant answer) hschedule threshold h
    have hresult : full.result =
        ((r.assembleAt places (r.types rs)).run (.constant answer) (made + 1)).result :=
      congrArg (·.result) hfull
    have hmade : full.calls = typeCall ::
        ((r.assembleAt places (r.types rs)).run (.constant answer) (made + 1)).calls :=
      congrArg (·.calls) hfull
    obtain ⟨calls, hcalls, hplans⟩ := r.exists_plans_assembleAt hplaces
    have hvalue (listed) : full.result = .ok listed ↔
        (r.assembleAt places (r.types rs)).value? answer = some listed := by
      rw [hresult, Lookup.result_eq_ok_iff]
    have hlisted (listed) : full.result = .ok listed ↔
        List.Forall₂ (r.Completes answer) (r.types rs) listed := by
      rw [hvalue, r.value?_assembleAt_eq_some_iff hplaces,
        r.map_value?_assemble_iff (r.members_of_mem_types rs)]
    refine ⟨?_, ?_, fun listed hok => members_of_blank ((hlisted listed).1 hok), ?_⟩
    · simp only [hvalue, hplans.exists_value?_iff, hcalls.mem_iff, r.forall_mem_assemblyCalls,
        Except.ok.injEq, exists_eq_left']
    · simp only [hlisted, hplain, Except.ok.injEq, exists_eq_left', implies_true]
    · rintro types htypes
      obtain rfl : r.types rs = types := Except.ok.inj (hplain.symm.trans htypes)
      refine ⟨?_, fun listed hok => ?_, SideBySide.exists_result _ _, fun result hside listed => ?_⟩
      · rw [hmade, List.subperm_cons]
        exact hplans.calls_prefix.sublist.subperm.trans hcalls.subperm
      · rw [hmade, hplans.calls_of_result_ok (hresult ▸ hok)]
        exact hcalls.cons _
      · rw [hside.eq_ok_iff, hvalue, r.value?_assembleAt_eq_some_iff hplaces]

/-- Three types are assembled from the last to the first: a blank one and two of the same name. -/
theorem allTypes_in_any_order_reversed :
    let backwards : Nat → List Nat := fun n => (List.range n).reverse
    let visible : MemberSymbol :=
      { name := "visible", owner := "Widget", documents := ["w.js"], details := .property {} }
    let answer : Call → Except Failure (List Record) := fun c => .ok <|
      if c.categories = [.type] then
        [⟨"Widget\x00", ["a.js"]⟩, ⟨" \x00", ["b.js"]⟩, ⟨"Widget\x00", ["c.js"]⟩]
      else if c.categories = [.property] then [⟨"Widget\x00visible", ["w.js"]⟩] else []
    (∀ n, (backwards n).Perm (List.range n)) ∧
      ((({ parallelThreshold := 0 } : Reader).allTypes backwards true).run
          (.constant answer) 0).result = .ok
        [{ name := "Widget", documents := ["a.js"], properties := [visible], assembled := true },
          { name := " ", documents := ["b.js"], assembled := true },
          { name := "Widget", documents := ["c.js"], properties := [visible], assembled := true }
        ] := by
  intro backwards visible answer
  have hbackwards (n) : (backwards n).Perm (List.range n) := List.reverse_perm _
  have hplain : ((({} : Reader).allTypes backwards false).run (.constant answer) 0).result = .ok
      [{ name := "Widget", documents := ["a.js"] }, { name := " ", documents := ["b.js"] },
        { name := "Widget", documents := ["c.js"] }] := by
    decide +kernel
  have hwidget : ((({} : Reader).attachMembers { name := "Widget" }).run
      (.constant answer) 0).result = .ok { name := "Widget", properties := [visible] } := by
    decide +kernel
  obtain ⟨-, hlisted, -⟩ := allTypes_in_any_order {} 0 answer hbackwards 0
  refine ⟨hbackwards, (hlisted _).2 ⟨_, hplain, ?_⟩⟩
  exact .cons ⟨_, hwidget, rfl⟩ (.cons ⟨_, rfl, rfl⟩ (.cons ⟨_, hwidget, rfl⟩ .nil))

end Reader

end SymbolIndex
