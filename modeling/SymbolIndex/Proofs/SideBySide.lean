import SymbolIndex.Proofs.Reader.InPlace

/-!
# Lookups side by side

What a lookup gives from an index that does not change does not depend on when it is made. Lookups
that are made side by side therefore give what they give one by one, in whatever order their calls
come.

Orders do differ in the failure that ends the lookups. `Lookup.value?` forgets which one it was.
-/

namespace SymbolIndex

namespace Lookup

variable {α β : Type} {answer : Call → Except Failure (List Record)} {m : Lookup α}
  {e : Engine} {made : Nat} {calls : List Call}

/-- What a lookup gives if an index that does not change answers all of its calls. -/
def value? (answer : Call → Except Failure (List Record)) : Lookup α → Option α
  | done a => some a
  | fail _ => none
  | call c next => (next (answer c)).value? answer

theorem value?_bind (m : Lookup α) (f : α → Lookup β) :
    (m >>= f).value? answer = (m.value? answer).bind fun a => (f a).value? answer := by
  induction m with
  | done a => rfl
  | fail failure => rfl
  | call c next ih => exact ih (answer c)

theorem value?_mapM (f : α → Lookup β) (as : List α) :
    (as.mapM f).value? answer = as.mapM fun a => (f a).value? answer := by
  induction as with
  | nil => rfl
  | cons a as ih =>
    simp only [List.mapM_cons, value?_bind, ih]
    rfl

theorem result_eq_ok_iff {a : α} :
    (m.run (.constant answer) made).result = .ok a ↔ m.value? answer = some a := by
  induction m generalizing made with
  | done b => simp [value?]
  | fail failure => simp [value?]
  | call c next ih => exact ih (answer c)

/-! ### Planned calls -/

theorem Plans.bind {f : α → Lookup β} {calls' : List Call} (hm : m.Plans calls)
    (hf : ∀ a, (f a).Plans calls') : (m >>= f).Plans (calls ++ calls') := by
  induction m generalizing calls with
  | done a =>
    obtain rfl : calls = [] := hm
    exact hf a
  | fail failure => exact hm.elim
  | call c next ih =>
    obtain ⟨rest, rfl, herror, hrest⟩ := hm
    refine ⟨rest ++ calls', rfl, fun failure => ?_, fun rs => ih (.ok rs) (hrest rs)⟩
    exact congrArg (· >>= f) (herror failure)

/-- A failure cuts off the calls that were planned after it. -/
theorem Plans.calls_prefix (hm : m.Plans calls) : (m.run e made).calls <+: calls := by
  induction m generalizing made calls with
  | done a => exact List.nil_prefix
  | fail failure => exact hm.elim
  | call c next ih =>
    obtain ⟨rest, rfl, herror, hrest⟩ := hm
    refine List.prefix_cons_inj c |>.2 ?_
    cases e made c with
    | error failure =>
      rw [herror]
      exact List.nil_prefix
    | ok rs => exact ih (.ok rs) (hrest rs)

theorem Plans.calls_of_result_ok (hm : m.Plans calls) {a : α}
    (h : (m.run e made).result = .ok a) : (m.run e made).calls = calls := by
  induction m generalizing made calls with
  | done a =>
    obtain rfl : calls = [] := hm
    rfl
  | fail failure => exact hm.elim
  | call c next ih =>
    obtain ⟨rest, rfl, herror, hrest⟩ := hm
    rw [run] at h ⊢
    cases hc : e made c with
    | error failure =>
      rw [hc, herror] at h
      cases h
    | ok rs =>
      rw [hc] at h
      exact congrArg (c :: ·) (ih (.ok rs) (hrest rs) h)

/-- From an index that does not change, a lookup gives something exactly if all of the calls that it
plans are answered. -/
theorem Plans.exists_value?_iff (hm : m.Plans calls) :
    (∃ a, m.value? answer = some a) ↔ ∀ c ∈ calls, ∃ rs, answer c = .ok rs := by
  induction m generalizing calls with
  | done a =>
    obtain rfl : calls = [] := hm
    exact iff_of_true ⟨a, rfl⟩ nofun
  | fail failure => exact hm.elim
  | call c next ih =>
    obtain ⟨rest, rfl, herror, hrest⟩ := hm
    cases h : answer c with
    | error failure => simp [value?, herror, h]
    | ok rs => simp [value?, h, ih (.ok rs) (hrest rs)]

end Lookup

/-- How lookups end that are made side by side from an index that does not change: any of them that
has not ended makes the next call, until all are done or one has failed. -/
inductive SideBySide (answer : Call → Except Failure (List Record)) {α : Type} :
    List (Lookup α) → Except Failure (List α) → Prop where
  | done (as : List α) : SideBySide answer (as.map .done) (.ok as)
  | failed {ms : List (Lookup α)} {failure : Failure} (hmem : .fail failure ∈ ms) :
    SideBySide answer ms (.error failure)
  | step {ms : List (Lookup α)} {i : Nat} {c : Call}
    {next : Except Failure (List Record) → Lookup α} {result : Except Failure (List α)}
    (hi : ms[i]? = some (.call c next))
    (hrest : SideBySide answer (ms.set i (next (answer c))) result) :
    SideBySide answer ms result

namespace SideBySide

variable {α : Type} {answer : Call → Except Failure (List Record)} {ms : List (Lookup α)}
  {result : Except Failure (List α)}

/-- A call changes nothing about what the lookups give. -/
theorem map_value?_set {i : Nat} {c : Call} {next : Except Failure (List Record) → Lookup α}
    (hi : ms[i]? = some (.call c next)) :
    (ms.set i (next (answer c))).map (·.value? answer) = ms.map (·.value? answer) := by
  obtain ⟨hlt, hget⟩ := List.getElem?_eq_some_iff.1 hi
  have hvalue : (next (answer c)).value? answer = ms[i].value? answer := by
    rw [hget]
    rfl
  rw [List.map_set, hvalue]
  conv_rhs => rw [← List.set_getElem_self hlt, List.map_set]

/-- Side by side, lookups give what they give one by one. -/
theorem eq_ok_iff (h : SideBySide answer ms result) {as : List α} :
    result = .ok as ↔ ms.map (·.value? answer) = as.map some := by
  induction h with
  | done bs =>
    rw [Except.ok.injEq, List.map_map]
    exact (List.map_injective_iff.2 fun _ _ => Option.some.inj).eq_iff.symm
  | failed hmem =>
    refine iff_of_false nofun fun hall => ?_
    have hnone : none ∈ as.map some := hall ▸ List.mem_map.2 ⟨_, hmem, rfl⟩
    simp at hnone
  | step hi _ ih => rw [ih, map_value?_set hi]

/-- Lookups that are made side by side come to an end. -/
theorem exists_result (answer : Call → Except Failure (List Record)) (ms : List (Lookup α)) :
    ∃ result, SideBySide answer ms result := by
  suffices h : ∀ as : List α, ∃ result, SideBySide answer (as.map .done ++ ms) result from h []
  induction ms with
  | nil =>
    intro as
    rw [List.append_nil]
    exact ⟨_, done as⟩
  | cons m ms ih =>
    intro as
    induction m with
    | done a =>
      obtain ⟨result, hresult⟩ := ih (as ++ [a])
      rw [List.map_append, List.append_assoc] at hresult
      exact ⟨result, hresult⟩
    | fail failure => exact ⟨_, failed (List.mem_append_right _ List.mem_cons_self)⟩
    | call c next hnext =>
      have hplace : (as.map .done ++ .call c next :: ms)[as.length]? = some (.call c next) := by
        simp
      obtain ⟨result, hresult⟩ := hnext (answer c)
      refine ⟨result, step hplace ?_⟩
      simpa using hresult

end SideBySide

end SymbolIndex
