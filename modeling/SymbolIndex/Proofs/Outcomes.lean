import SymbolIndex.Proofs.Requests

/-!
# How requests end

A request ends with a failure exactly if one of its calls fails: with the failure of that call,
which is the last one. Whatever records the other calls are answered with, they are no reason to
fail. A request for something blank makes no call at all and finds nothing. The first part is no law
of lookups, which may make of a failure what they like: it comes from how each operation is put
together, and so rests on `Reader.asks_lookup`.

It holds of whatever answers the calls. A `Server` keeps a state and may answer by all that it has
been asked before; an engine is a server that counts the calls.
-/

namespace SymbolIndex

/-- What answers a call by its state, and changes its state with it. -/
abbrev Server (σ : Type) := σ → Call → Except Failure (List Record) × σ

/-- The answers of a server to calls that are made one after another. -/
def Server.answers {σ : Type} (serve : Server σ) : σ → List Call →
    List (Except Failure (List Record))
  | _, [] => []
  | s, c :: calls => (serve s c).1 :: serve.answers (serve s c).2 calls

/-- An engine as a server whose state is the number of the calls so far. -/
def Engine.server (e : Engine) : Server Nat := fun made c => (e made c, made + 1)

namespace Lookup

variable {α σ : Type} {serve : Server σ} {s : σ} {failure : Failure}

/-- Runs a lookup over a server. -/
def runOver (serve : Server σ) : σ → Lookup α → Outcome α
  | _, done a => ⟨.ok a, []⟩
  | _, fail failure => ⟨.error failure, []⟩
  | s, call c next =>
    let rest := (next (serve s c).1).runOver serve (serve s c).2
    ⟨rest.result, c :: rest.calls⟩

theorem runOver_call {s' : σ} {c : Call} {answer : Except Failure (List Record)}
    (h : serve s c = (answer, s')) (next : Except Failure (List Record) → Lookup α) :
    (call c next).runOver serve s =
      ⟨((next answer).runOver serve s').result, c :: ((next answer).runOver serve s').calls⟩ := by
  simp [runOver, h]

theorem runOver_ask_error {s' : σ} {c : Call} (h : serve s c = (.error failure, s'))
    (next : List Record → Lookup α) : (ask c next).runOver serve s = ⟨.error failure, [c]⟩ :=
  runOver_call h _

theorem runOver_ask_ok {s' : σ} {c : Call} {rs : List Record} (h : serve s c = (.ok rs, s'))
    (next : List Record → Lookup α) :
    (ask c next).runOver serve s =
      ⟨((next rs).runOver serve s').result, c :: ((next rs).runOver serve s').calls⟩ :=
  runOver_call h _

/-- A run with an engine is one over the server that counts the calls. -/
theorem run_eq_runOver (e : Engine) (m : Lookup α) (made : Nat) :
    m.run e made = m.runOver e.server made := by
  induction m generalizing made with
  | done a => rfl
  | fail failure => rfl
  | call c next ih =>
    have hserver : e.server made c = (e made c, made + 1) := rfl
    rw [run, runOver_call hserver, ih (e made c)]

section Asks

variable {m : Lookup α} {P : Call → Prop}

/-- A lookup gives a result after answers to all of its calls, or fails with the failure of its last
call after answers to all others. -/
theorem Asks.exists_answers (hm : m.Asks P) (serve : Server σ) (s : σ) :
    ∃ found : List (List Record),
      (∃ a, (m.runOver serve s).result = .ok a ∧
        serve.answers s (m.runOver serve s).calls = found.map .ok) ∨
      ∃ failure, (m.runOver serve s).result = .error failure ∧
        serve.answers s (m.runOver serve s).calls = found.map .ok ++ [.error failure] := by
  induction m generalizing s with
  | done a => exact ⟨[], .inl ⟨a, rfl, rfl⟩⟩
  | fail failure => exact hm.elim
  | call c next ih =>
    obtain ⟨-, herror, hok⟩ := hm
    rcases hc : serve s c with ⟨failure | rs, s'⟩
    · refine ⟨[], .inr ⟨failure, ?_, ?_⟩⟩
      · rw [runOver_call hc, herror]
        rfl
      · rw [runOver_call hc, herror, Server.answers, hc]
        rfl
    · rw [runOver_call hc, Server.answers, hc]
      obtain ⟨found, ⟨a, hresult, hanswers⟩ | ⟨failure, hresult, hanswers⟩⟩ :=
        ih (.ok rs) (hok rs) s'
      · exact ⟨rs :: found, .inl ⟨a, hresult, congrArg (.ok rs :: ·) hanswers⟩⟩
      · exact ⟨rs :: found, .inr ⟨failure, hresult, congrArg (.ok rs :: ·) hanswers⟩⟩

/-- A lookup gives a result exactly if all of its calls are answered. -/
theorem Asks.result_ok_iff (hm : m.Asks P) :
    (∃ a, (m.runOver serve s).result = .ok a) ↔
      ∀ answer ∈ serve.answers s (m.runOver serve s).calls, ∃ rs, answer = .ok rs := by
  obtain ⟨found, ⟨a, hresult, hanswers⟩ | ⟨failure, hresult, hanswers⟩⟩ :=
    hm.exists_answers serve s
  · simp [hresult, hanswers]
  · simp [hresult, hanswers]

/-- A lookup fails exactly if its last call does and no other, and in the same way. -/
theorem Asks.result_error_iff (hm : m.Asks P) :
    (m.runOver serve s).result = .error failure ↔
      ∃ found : List (List Record),
        serve.answers s (m.runOver serve s).calls = found.map .ok ++ [.error failure] := by
  obtain ⟨found, ⟨a, hresult, hanswers⟩ | ⟨failure', hresult, hanswers⟩⟩ :=
    hm.exists_answers serve s
  · rw [hresult, hanswers]
    refine ⟨nofun, ?_⟩
    rintro ⟨found', hfound'⟩
    have hmem : Except.error failure ∈ found.map (Except.ok (ε := Failure)) := by simp [hfound']
    simp at hmem
  · rw [hresult, hanswers, Except.error.injEq]
    constructor
    · rintro rfl
      exact ⟨found, rfl⟩
    · rintro ⟨found', hfound'⟩
      have hlast := congrArg List.getLast? hfound'
      simpa only [List.getLast?_concat, Option.some.injEq, Except.error.injEq] using hlast

/-- A lookup that is no chain of `ask` may have a result although its call fails. -/
example (c : Call) :
    ((call c fun _ => done ()).runOver (fun s _ => (.error failure, s)) s).result = .ok () := rfl

end Asks

end Lookup

namespace Request

open Text

/-- Whether what is asked about is blank. -/
def IsBlank : Request → Prop
  | membersOf _ owners | propertiesOf owners => ∀ owner ∈ owners, isBlank owner
  | membersNamed _ owner name => isBlank owner ∨ isBlank name
  | requiredModules document => isBlank document
  | attachMembers t => isBlank t.name
  | typesNamed name _ | supertypes _ name | inheritedMembers _ name => isBlank name
  | allTypes .. | typeNames => False

/-- The answer that finds nothing: an empty list, and for a type the type as it is. -/
def nothing : (q : Request) → q.Result
  | membersOf .. | membersNamed .. | propertiesOf .. | requiredModules .. | typesNamed ..
  | allTypes .. | typeNames => []
  | attachMembers t => t
  | supertypes .. | inheritedMembers .. => some []

end Request

namespace Reader

open Text

variable (r : Reader)

theorem membersOf_of_blank (category : Category) {owners : List String}
    (h : ∀ owner ∈ owners, isBlank owner) : r.membersOf category owners = .done [] := by
  have hnone : owners.filter (!isBlank ·) = [] := by
    simpa [List.filter_eq_nil_iff] using h
  rw [membersOf, hnone]
  rfl

/-- A request for something blank is answered at once. -/
theorem lookup_of_blank {q : Request} (h : q.IsBlank) : q.lookup r = .done q.nothing := by
  cases q with
  | membersOf category owners => exact r.membersOf_of_blank category h
  | membersNamed category owner name =>
    have hblank : (isBlank owner || isBlank name) = true := by
      rw [Bool.or_eq_true]
      exact h
    exact if_pos hblank
  | propertiesOf owners =>
    rw [Request.lookup, propertiesOf, r.membersOf_of_blank .property h,
      r.membersOf_of_blank .function h]
    rfl
  | requiredModules document => exact if_pos h
  | attachMembers t => exact if_pos h
  | typesNamed name withMembers => exact if_pos h
  | allTypes schedule withMembers => exact h.elim
  | typeNames => exact h.elim
  | supertypes limit name => exact if_pos h
  | inheritedMembers limit name => exact if_pos h

/-- How a request ends, whatever answers its calls; an engine is a case of it. There is a result
exactly if every call is answered, and a failure exactly if the last call ends with it and all
others are answered. A request for something blank makes no call and finds nothing. -/
theorem run_lookup_outcome (q : Request) :
    (∀ (e : Engine) (made : Nat),
      (q.lookup r).run e made = (q.lookup r).runOver e.server made) ∧
    ∀ {σ : Type} (serve : Server σ) (s : σ),
      ((∃ a, ((q.lookup r).runOver serve s).result = .ok a) ↔
        ∀ answer ∈ serve.answers s ((q.lookup r).runOver serve s).calls, ∃ rs, answer = .ok rs) ∧
      (∀ failure, ((q.lookup r).runOver serve s).result = .error failure ↔
        ∃ found : List (List Record),
          serve.answers s ((q.lookup r).runOver serve s).calls =
            found.map .ok ++ [.error failure]) ∧
      (q.IsBlank → (q.lookup r).runOver serve s = ⟨.ok q.nothing, []⟩) := by
  refine ⟨fun e made => Lookup.run_eq_runOver e _ made, fun serve s => ⟨?_, ?_, ?_⟩⟩
  · exact (r.asks_lookup q).result_ok_iff
  · exact fun failure => (r.asks_lookup q).result_error_iff
  · intro hblank
    rw [r.lookup_of_blank hblank]
    rfl

end Reader

end SymbolIndex
