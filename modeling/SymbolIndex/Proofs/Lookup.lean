import SymbolIndex.Lookup

/-!
# The calls of a lookup

What a lookup does about a failed call is up to it: it could go on, make the call again, or fail for
a reason of its own. `Lookup.Asks` rules this out. It says that a lookup is put together from
`Lookup.ask`, so that the first failed call is its end, and bounds the calls, whatever they are
answered. Two engines that answer those calls alike give one outcome.
-/

namespace SymbolIndex

namespace Lookup

variable {α β : Type} {P : Call → Prop} {m : Lookup α}

/-- Whether all calls satisfy a condition, whatever they are answered, and a failed one ends the
lookup with its failure. There is no other way to fail. -/
def Asks (P : Call → Prop) : Lookup α → Prop
  | done _ => True
  | fail _ => False
  | call c next =>
    P c ∧ (∀ failure, next (.error failure) = fail failure) ∧ ∀ rs, (next (.ok rs)).Asks P

@[simp] theorem asks_done (a : α) : (done a).Asks P := trivial

theorem asks_ask {c : Call} {next : List Record → Lookup α} (hc : P c)
    (hnext : ∀ rs, (next rs).Asks P) : (ask c next).Asks P :=
  ⟨hc, fun _ => rfl, hnext⟩

theorem Asks.bind {f : α → Lookup β} (hm : m.Asks P)
    (hf : ∀ a, (f a).Asks P) : (m >>= f).Asks P := by
  induction m with
  | done a => exact hf a
  | fail failure => exact hm.elim
  | call c next ih =>
    obtain ⟨hc, herror, hok⟩ := hm
    refine ⟨hc, fun failure => ?_, fun rs => ih (.ok rs) (hok rs)⟩
    exact congrArg (· >>= f) (herror failure)

/-- A lookup that only adjusts the result makes no further call. -/
theorem Asks.map (f : α → β) (hm : m.Asks P) :
    (m >>= fun a => done (f a)).Asks P :=
  hm.bind fun _ => asks_done _

theorem Asks.mapM {f : α → Lookup β} (hf : ∀ a, (f a).Asks P) (as : List α) :
    (as.mapM f).Asks P := by
  induction as with
  | nil => exact asks_done _
  | cons a as ih =>
    rw [List.mapM_cons]
    exact (hf a).bind fun _ => ih.bind fun _ => asks_done _

theorem asks_records {category : Category} {q : Query} (h : P ⟨[category], q⟩) :
    (records category q).Asks P :=
  asks_ask h fun _ => asks_done _

/-- Engines that answer the calls of a lookup alike lead to one outcome. -/
theorem run_congr {e e' : Engine} (hm : m.Asks P) (he : ∀ made c, P c → e made c = e' made c)
    (made : Nat) : m.run e made = m.run e' made := by
  induction m generalizing made with
  | done a => rfl
  | fail failure => rfl
  | call c next ih =>
    obtain ⟨hc, herror, hok⟩ := hm
    rw [run, run, ← he made c hc]
    cases e made c with
    | error failure => rw [herror, run_fail, run_fail]
    | ok rs => rw [ih (.ok rs) (hok rs)]

/-- An engine that does not change gives a lookup one outcome whenever it starts. -/
theorem run_constant (answer : Call → Except Failure (List Record)) (m : Lookup α)
    (made made' : Nat) : m.run (.constant answer) made = m.run (.constant answer) made' := by
  induction m generalizing made made' with
  | done a => rfl
  | fail failure => rfl
  | call c next ih =>
    rw [run, run, Engine.constant_apply, Engine.constant_apply,
      ih (answer c) (made + 1) (made' + 1)]

/-- After a lookup that gives a result the next one goes on with it. -/
theorem result_bind_of_ok {e : Engine} {made : Nat} {a : α} (h : (m.run e made).result = .ok a)
    (f : α → Lookup β) :
    ((m >>= f).run e made).result =
      ((f a).run e (made + (m.run e made).calls.length)).result := by
  rw [run_bind, h]

/-- A lookup in two parts that gives a result has given one after its first part. -/
theorem exists_of_result_bind {e : Engine} {made : Nat} {f : α → Lookup β} {b : β}
    (h : ((m >>= f).run e made).result = .ok b) :
    ∃ a, (m.run e made).result = .ok a ∧ ∃ made', ((f a).run e made').result = .ok b := by
  rw [run_bind] at h
  cases ha : (m.run e made).result with
  | error failure =>
    rw [ha] at h
    cases h
  | ok a =>
    rw [ha] at h
    exact ⟨a, rfl, _, h⟩

/-- What a row of lookups gives has come from each of them. -/
theorem exists_of_result_mapM {e : Engine} {made : Nat} {f : α → Lookup β} {as : List α}
    {bs : List β} (h : ((as.mapM f).run e made).result = .ok bs) :
    ∀ b ∈ bs, ∃ a ∈ as, ∃ made', ((f a).run e made').result = .ok b := by
  induction as generalizing made bs with
  | nil =>
    cases h
    exact nofun
  | cons a as ih =>
    rw [List.mapM_cons] at h
    obtain ⟨b, hb, made', hrest⟩ := exists_of_result_bind h
    obtain ⟨bs', hbs', _, hlast⟩ := exists_of_result_bind hrest
    cases hlast
    refine List.forall_mem_cons.2 ⟨⟨a, List.mem_cons_self, made, hb⟩, ?_⟩
    intro b' hb'
    obtain ⟨a', ha', hrun⟩ := ih hbs' b' hb'
    exact ⟨a', List.mem_cons_of_mem a ha', hrun⟩

/-- Where a lookup fails nothing goes on. -/
theorem result_bind_of_error {e : Engine} {made : Nat} {failure : Failure}
    (h : (m.run e made).result = .error failure) (f : α → Lookup β) :
    ((m >>= f).run e made).result = .error failure := by
  rw [run_bind, h]

/-- A lookup that only adjusts the result ends as the one before, with the adjusted result. -/
theorem result_map (e : Engine) (made : Nat) (m : Lookup α) (f : α → β) :
    ((m >>= fun a => done (f a)).run e made).result = (m.run e made).result.map f := by
  rw [run_bind]
  cases (m.run e made).result <;> rfl

/-- A query ends as its only call does. -/
theorem result_records (e : Engine) (made : Nat) (category : Category) (q : Query) :
    ((records category q).run e made).result = e made ⟨[category], q⟩ := by
  cases h : e made ⟨[category], q⟩ with
  | error failure => rw [records, run_ask_error h]
  | ok rs => rw [records, run_ask_ok h, run_done]

/-- A lookup that only adjusts the result gives the adjusted one. -/
theorem result_map_of_ok {e : Engine} {made : Nat} {a : α} (h : (m.run e made).result = .ok a)
    (f : α → β) : ((m >>= fun a => done (f a)).run e made).result = .ok (f a) :=
  result_bind_of_ok h _

end Lookup

end SymbolIndex
