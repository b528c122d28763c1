import SymbolIndex.Category
import SymbolIndex.Failure
import SymbolIndex.Query.Basic
import SymbolIndex.Record.Basic

/-!
# Lookups

A lookup asks an index for records, goes on with the answer, and ends with a result or a failure. It
says which calls are made and what is done with the answers, and leaves open who answers:
`Lookup.run` puts an engine behind it. An answer is records or a failure, and what a failed call
means is up to the lookup. `Lookup.ask` hands the failure on.
-/

namespace SymbolIndex

/-- A call to an index: the records of the given categories that satisfy the query. -/
structure Call where
  categories : List Category
  query : Query
  deriving Repr, DecidableEq

/-- What answers calls. The calls are counted from zero, so an engine may change over time. -/
abbrev Engine := Nat → Call → Except Failure (List Record)

namespace Engine

/-- The engine that answers every call in the same way at all times. -/
def constant (answer : Call → Except Failure (List Record)) : Engine := fun _ c => answer c

@[simp] theorem constant_apply (answer : Call → Except Failure (List Record)) (made : Nat)
    (c : Call) : constant answer made c = answer c := rfl

/-- An engine that fails from the `n`-th call on. -/
def failingFrom (n : Nat) (f : Failure) (e : Engine) : Engine :=
  fun i c => if n ≤ i then .error f else e i c

end Engine

inductive Lookup (α : Type) where
  | done (result : α)
  | fail (failure : Failure)
  /-- Makes a call and goes on with the answer, whether there are records or not. -/
  | call (c : Call) (next : Except Failure (List Record) → Lookup α)

namespace Lookup

/-- Goes on after a lookup, unless that fails. -/
def bind : Lookup α → (α → Lookup β) → Lookup β
  | done a, f => f a
  | fail failure, _ => fail failure
  | call c next, f => call c fun answer => (next answer).bind f

instance : Monad Lookup where
  pure := done
  bind := bind

@[simp] theorem pure_eq (a : α) : (pure a : Lookup α) = done a := rfl

@[simp] theorem done_bind (a : α) (f : α → Lookup β) : done a >>= f = f a := rfl

@[simp] theorem fail_bind (failure : Failure) (f : α → Lookup β) :
    fail failure >>= f = fail failure := rfl

@[simp] theorem call_bind (c : Call) (next : Except Failure (List Record) → Lookup α)
    (f : α → Lookup β) : call c next >>= f = call c fun answer => next answer >>= f := rfl

theorem bind_done (m : Lookup α) : m >>= done = m := by
  induction m with
  | done a => rfl
  | fail failure => rfl
  | call c next ih => exact congrArg (call c) (funext ih)

theorem bind_assoc (m : Lookup α) (f : α → Lookup β) (g : β → Lookup γ) :
    m >>= f >>= g = m >>= fun a => f a >>= g := by
  induction m with
  | done a => rfl
  | fail failure => rfl
  | call c next ih => exact congrArg (call c) (funext ih)

instance : LawfulMonad Lookup := .mk' Lookup bind_done (fun _ _ => rfl) bind_assoc

/-- Makes a call and goes on with the records. A failure of the call is one of the lookup. -/
def ask (c : Call) (next : List Record → Lookup α) : Lookup α :=
  call c fun
    | .ok rs => next rs
    | .error failure => fail failure

@[simp] theorem ask_bind (c : Call) (next : List Record → Lookup α) (f : α → Lookup β) :
    ask c next >>= f = ask c fun rs => next rs >>= f := by
  refine congrArg (call c) (funext fun answer => ?_)
  cases answer <;> rfl

/-- The records that satisfy one query in one category. -/
def records (category : Category) (q : Query) : Lookup (List Record) := ask ⟨[category], q⟩ done

@[simp] theorem records_bind (category : Category) (q : Query) (f : List Record → Lookup α) :
    records category q >>= f = ask ⟨[category], q⟩ f := ask_bind _ done f

/-- How a lookup ended, and the calls that it made. -/
structure Outcome (α : Type) where
  result : Except Failure α
  calls : List Call

/-- Runs a lookup. `made` calls have been made before. -/
def run (e : Engine) : (made : Nat) → Lookup α → Outcome α
  | _, done a => ⟨.ok a, []⟩
  | _, fail failure => ⟨.error failure, []⟩
  | made, call c next =>
    let rest := (next (e made c)).run e (made + 1)
    ⟨rest.result, c :: rest.calls⟩

@[simp] theorem run_done (e : Engine) (made : Nat) (a : α) : (done a).run e made = ⟨.ok a, []⟩ :=
  rfl

@[simp] theorem run_fail (e : Engine) (made : Nat) (failure : Failure) :
    (fail failure : Lookup α).run e made = ⟨.error failure, []⟩ := rfl

theorem run_ask_error {e : Engine} {made : Nat} {c : Call} {f : Failure}
    (h : e made c = .error f) (next : List Record → Lookup α) :
    (ask c next).run e made = ⟨.error f, [c]⟩ := by
  simp [ask, run, h]

theorem run_ask_ok {e : Engine} {made : Nat} {c : Call} {rs : List Record}
    (h : e made c = .ok rs) (next : List Record → Lookup α) :
    (ask c next).run e made =
      ⟨((next rs).run e (made + 1)).result, c :: ((next rs).run e (made + 1)).calls⟩ := by
  simp [ask, run, h]

/-- A lookup in two parts makes the calls of the first part and then those of the second one. -/
theorem run_bind (e : Engine) (m : Lookup α) (f : α → Lookup β) (made : Nat) :
    (m >>= f).run e made =
      match (m.run e made).result with
      | .error failure => ⟨.error failure, (m.run e made).calls⟩
      | .ok a =>
        let rest := (f a).run e (made + (m.run e made).calls.length)
        ⟨rest.result, (m.run e made).calls ++ rest.calls⟩ := by
  induction m generalizing made with
  | done a => simp
  | fail failure => rfl
  | call c next ih =>
    rw [call_bind, run, run, ih (e made c) (made + 1)]
    cases ((next (e made c)).run e (made + 1)).result with
    | error failure => rfl
    | ok a => simp [Nat.add_comm 1, Nat.add_assoc]

end Lookup

end SymbolIndex
