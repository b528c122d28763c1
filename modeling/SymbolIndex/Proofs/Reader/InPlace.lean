import SymbolIndex.Proofs.Outcomes

/-!
# Attaching members in place

A program that attaches members changes a type that it has been given, and what it has changed stays
changed when a call fails later. `InPlace.attach` is such a program. It makes all of its calls
before it changes anything, so that it attaches all members or none, and ends as
`Reader.attachMembers` does. What it attaches does not depend on the members that a type has, so
that attaching again repeats the members.
-/

namespace SymbolIndex

open Text

/-- The state of a server after calls. -/
def Server.after {σ : Type} (serve : Server σ) : σ → List Call → σ
  | s, [] => s
  | s, c :: calls => serve.after (serve s c).2 calls

namespace Lookup

variable {α β σ : Type} {serve : Server σ} {s : σ} {failure : Failure}

/-- Whether a lookup makes these calls, one after another, whatever records they are answered with,
and ends with the failure of the first one that fails. -/
def Plans : Lookup α → List Call → Prop
  | done _, calls => calls = []
  | fail _, _ => False
  | call c next, calls => ∃ rest, calls = c :: rest ∧
    (∀ failure, next (.error failure) = fail failure) ∧ ∀ rs, (next (.ok rs)).Plans rest

theorem plans_ask {c : Call} {next : List Record → Lookup α} {rest : List Call}
    (h : ∀ rs, (next rs).Plans rest) : (ask c next).Plans (c :: rest) :=
  ⟨rest, rfl, fun _ => rfl, h⟩

/-- A lookup stops at the first of its calls that fails. -/
theorem Plans.runOver_of_error {m : Lookup α} {calls : List Call} {found : List (List Record)}
    {later : List (Except Failure (List Record))} (hm : m.Plans calls)
    (h : serve.answers s calls = found.map .ok ++ .error failure :: later) :
    m.runOver serve s = ⟨.error failure, calls.take (found.length + 1)⟩ := by
  induction m generalizing s calls found with
  | done a =>
    obtain rfl : calls = [] := hm
    simp [Server.answers] at h
  | fail failure => exact hm.elim
  | call c next ih =>
    obtain ⟨rest, rfl, herror, hrest⟩ := hm
    cases found with
    | nil =>
      obtain ⟨hc, -⟩ := List.cons.inj h
      rw [runOver_call (Prod.ext hc rfl), herror]
      rfl
    | cons rs found =>
      obtain ⟨hc, hlater⟩ := List.cons.inj h
      rw [runOver_call (Prod.ext hc rfl), ih (.ok rs) (hrest rs) hlater]
      rfl

end Lookup

namespace Reader

variable (r : Reader) {t : TypeSymbol}

/-- The call for the members of a type in a category. -/
def memberCall (name : String) (category : Category) : Call :=
  ⟨[category], .membersOf r.delimiters [name]⟩

/-- The members of a category that records describe. -/
def decoded (category : Category) (rs : List Record) : List MemberSymbol :=
  rs.filterMap (·.toMember? r.delimiters category)

theorem membersOf_singleton {name : String} (h : ¬ isBlank name) (category : Category) :
    r.membersOf category [name] =
      .ask (r.memberCall name category) fun rs => .done (r.decoded category rs) := by
  have hkeep : [name].filter (!isBlank ·) = [name] := by simpa using h
  rw [membersOf, hkeep]
  exact Lookup.records_bind _ _ _

/-- Members are attached to a type that is not blank after three calls. -/
theorem attachMembers_of_not_blank (h : ¬ isBlank t.name) :
    r.attachMembers t =
      .ask (r.memberCall t.name .property) fun ps =>
        .ask (r.memberCall t.name .function) fun fs =>
          .ask (r.memberCall t.name .event) fun es => .done
            { t with
              properties := t.properties ++ (r.decoded .property ps ++ r.decoded .function fs)
              events := t.events ++ r.decoded .event es } := by
  rw [attachMembers, if_neg h]
  simp only [propertiesOf, r.membersOf_singleton h, Lookup.ask_bind, Lookup.done_bind,
    Lookup.pure_eq]

/-- The calls for the members of a type. -/
def memberCalls (name : String) : List Call :=
  [r.memberCall name .property, r.memberCall name .function, r.memberCall name .event]

theorem plans_attachMembers (h : ¬ isBlank t.name) :
    (r.attachMembers t).Plans (r.memberCalls t.name) := by
  rw [r.attachMembers_of_not_blank h]
  exact Lookup.plans_ask fun _ => Lookup.plans_ask fun _ => Lookup.plans_ask fun _ => rfl

/-- What three answers attach to a type. -/
theorem runOver_attachMembers_of_ok {σ : Type} {serve : Server σ} {s : σ}
    (h : ¬ isBlank t.name) {ps fs es : List Record}
    (hanswers : serve.answers s (r.memberCalls t.name) = [.ok ps, .ok fs, .ok es]) :
    (r.attachMembers t).runOver serve s = ⟨.ok
      { t with
        properties := t.properties ++ r.decoded .property ps ++ r.decoded .function fs
        events := t.events ++ r.decoded .event es }, r.memberCalls t.name⟩ := by
  simp only [memberCalls, Server.answers, List.cons.injEq, and_true] at hanswers
  obtain ⟨hps, hfs, hes⟩ := hanswers
  rw [r.attachMembers_of_not_blank h, Lookup.runOver_ask_ok (Prod.ext hps rfl),
    Lookup.runOver_ask_ok (Prod.ext hfs rfl), Lookup.runOver_ask_ok (Prod.ext hes rfl),
    ← List.append_assoc]
  rfl

/-- What is attached from an index that does not change is what is looked up by the name. -/
theorem result_attachMembers_of_ok {answer : Call → Except Failure (List Record)}
    {ps es : List MemberSymbol}
    (hps : ((r.propertiesOf [t.name]).run (.constant answer) 0).result = .ok ps)
    (hes : ((r.membersOf .event [t.name]).run (.constant answer) 0).result = .ok es) (made : Nat) :
    ((r.attachMembers t).run (.constant answer) made).result =
      .ok { t with properties := t.properties ++ ps, events := t.events ++ es } := by
  rw [attachMembers]
  split
  · rename_i hblank
    have hall : ∀ owner ∈ [t.name], isBlank owner := fun _ h => List.mem_singleton.1 h ▸ hblank
    rw [propertiesOf, r.membersOf_of_blank .property hall,
      r.membersOf_of_blank .function hall] at hps
    rw [r.membersOf_of_blank .event hall] at hes
    cases hps
    cases hes
    simp
  · rw [Lookup.run_constant answer _ made 0, Lookup.result_bind_of_ok hps,
      Lookup.run_constant answer _ _ 0]
    exact Lookup.result_map_of_ok hes _

end Reader

/-- What a program in place works on: the state of what answers its calls, a type, and the calls so
far. -/
structure Workspace (σ : Type) where
  server : σ
  type : TypeSymbol
  calls : List Call := []

/-- A program that makes calls and changes a type. The changes stay where it fails. -/
abbrev InPlace (σ : Type) := ExceptT Failure (StateM (Workspace σ))

namespace InPlace

variable {α β σ : Type} (serve : Server σ)

/-- Makes a call. A failure of the call is an answer, not one of the program. -/
def call (c : Call) : InPlace σ (Except Failure (List Record)) := fun w =>
  let (answer, server) := serve w.server c
  (.ok answer, { w with server, calls := w.calls ++ [c] })

/-- Makes the calls of a lookup and ends as that does. -/
def lookup : Lookup α → InPlace σ α
  | .done a => return a
  | .fail failure => throw failure
  | .call c next => do lookup (next (← call serve c))

def appendProperties (ms : List MemberSymbol) : InPlace σ Unit :=
  modify fun w => { w with type := { w.type with properties := w.type.properties ++ ms } }

def appendEvents (ms : List MemberSymbol) : InPlace σ Unit :=
  modify fun w => { w with type := { w.type with events := w.type.events ++ ms } }

/-- Attaches members to the type, in place. A blank type gets none. -/
def attach (r : Reader) : InPlace σ Unit := do
  let name := (← get).type.name
  unless isBlank name do
    let properties ← lookup serve (r.membersOf .property [name])
    let functions ← lookup serve (r.membersOf .function [name])
    let events ← lookup serve (r.membersOf .event [name])
    appendProperties properties
    appendProperties functions
    appendEvents events

/-- Attaches members again and again. -/
def attachTimes (r : Reader) : Nat → InPlace σ Unit
  | 0 => return
  | k + 1 => do
    attach serve r
    attachTimes r k

variable {serve} {w w' : Workspace σ} {x : InPlace σ α} {f : α → InPlace σ β}

theorem run_bind_ok {a : α} (h : x.run.run w = (.ok a, w')) :
    (x >>= f).run.run w = (f a).run.run w' := by
  rw [ExceptT.run_bind, StateT.run_bind, h]
  rfl

theorem run_call {s s' : σ} {c : Call} {answer : Except Failure (List Record)}
    (h : serve s c = (answer, s')) (t : TypeSymbol) (calls : List Call) :
    (call serve c).run.run ⟨s, t, calls⟩ = (.ok answer, ⟨s', t, calls ++ [c]⟩) := by
  change (Except.ok (serve s c).1, _) = _
  rw [h]

/-- Whether a program does to a type what a lookup does. It makes the calls of the lookup, ends as
that does, and leaves its result for the type, or the type as it was if the lookup fails. -/
def Commits (serve : Server σ) (t : TypeSymbol) (x : InPlace σ Unit) (m : Lookup TypeSymbol) :
    Prop :=
  ∀ s calls, x.run.run ⟨s, t, calls⟩ =
    ((m.runOver serve s).result.map fun _ => (),
      { server := serve.after s (m.runOver serve s).calls
        type := (m.runOver serve s).result.toOption.getD t
        calls := calls ++ (m.runOver serve s).calls })

namespace Commits

variable {t t' : TypeSymbol} {x : InPlace σ Unit}

theorem done (h : ∀ s calls, x.run.run ⟨s, t, calls⟩ = (.ok (), ⟨s, t', calls⟩)) :
    Commits serve t x (.done t') := by
  intro s calls
  rw [h, Lookup.runOver, List.append_nil]
  rfl

/-- Calls that come first do not change the type. -/
theorem lookup_bind {m : Lookup α} {x : α → InPlace σ Unit} {next : α → Lookup TypeSymbol}
    (h : ∀ a, Commits serve t (x a) (next a)) :
    Commits serve t (lookup serve m >>= x) (m >>= next) := by
  induction m with
  | done a => exact h a
  | fail failure =>
    intro s calls
    rw [Lookup.fail_bind, Lookup.runOver, List.append_nil]
    rfl
  | call c rest ih =>
    intro s calls
    rcases hc : serve s c with ⟨answer, s'⟩
    rw [lookup, bind_assoc, Lookup.call_bind, run_bind_ok (run_call hc t calls), ih,
      Lookup.runOver_call hc]
    simp [Server.after, hc]

/-- Members are attached in place as they are to a type by itself. -/
theorem attach (serve : Server σ) (r : Reader) (t : TypeSymbol) :
    Commits serve t (attach serve r) (r.attachMembers t) := by
  intro s calls
  have hget : (get : InPlace σ (Workspace σ)).run.run ⟨s, t, calls⟩ =
    (.ok ⟨s, t, calls⟩, ⟨s, t, calls⟩) := rfl
  rw [InPlace.attach, run_bind_ok hget]
  by_cases hblank : isBlank t.name
  · have hdone : r.attachMembers t = .done t := if_pos hblank
    simp only [hblank, if_true, hdone]
    exact Commits.done (fun _ _ => rfl) s calls
  · have hbind : r.attachMembers t = do
        let properties ← r.membersOf .property [t.name]
        let functions ← r.membersOf .function [t.name]
        let events ← r.membersOf .event [t.name]
        return { t with
          properties := t.properties ++ properties ++ functions
          events := t.events ++ events } := by
      simp only [Reader.attachMembers, if_neg hblank, Reader.propertiesOf, bind_assoc, pure_bind,
        List.append_assoc]
    rw [if_neg hblank, hbind]
    refine Commits.lookup_bind (fun properties => ?_) s calls
    refine Commits.lookup_bind fun functions => ?_
    exact Commits.lookup_bind fun events => Commits.done fun _ _ => rfl

end Commits

/-- Attaching again and again from an index that does not change repeats what is looked up. -/
theorem run_attachTimes {r : Reader} {answer : Call → Except Failure (List Record)}
    {ps es : List MemberSymbol} {name : String}
    (hps : ((r.propertiesOf [name]).run (.constant answer) 0).result = .ok ps)
    (hes : ((r.membersOf .event [name]).run (.constant answer) 0).result = .ok es) (k s : Nat)
    (calls : List Call) {t : TypeSymbol} (hname : t.name = name) :
    ∃ s' calls', (attachTimes (Engine.constant answer).server r k).run.run ⟨s, t, calls⟩ =
      (.ok (), ⟨s',
        { t with
          properties := t.properties ++ (List.replicate k ps).flatten
          events := t.events ++ (List.replicate k es).flatten }, calls'⟩) := by
  induction k generalizing s calls t with
  | zero =>
    refine ⟨s, calls, ?_⟩
    simp only [attachTimes, List.replicate_zero, List.flatten_nil, List.append_nil]
    rfl
  | succ k ih =>
    subst hname
    have hresult := r.result_attachMembers_of_ok hps hes s
    have hrun := Commits.attach (Engine.constant answer).server r t s calls
    rw [← Lookup.run_eq_runOver, hresult] at hrun
    let t' := { t with properties := t.properties ++ ps, events := t.events ++ es }
    obtain ⟨s', calls', hrest⟩ := ih _ _ (t := t') rfl
    refine ⟨s', calls', ?_⟩
    rw [attachTimes, run_bind_ok hrun]
    refine hrest.trans ?_
    simp only [t', List.replicate_succ, List.flatten_cons, List.append_assoc]

/-- Attaching members in place is all or nothing, whatever answers the calls. A blank type is left
as it is without a call. For another one the calls are those for its properties, its functions and
its events, in this order and up to the first one that fails. If one fails, its failure is the
result and the type is what it was. If none fails, the members that the answers describe follow
those that the type had, functions after properties, and nothing else changes. Attaching `k` times
to a new type from an index that does not change gives `k` copies of what is looked up. -/
theorem attach_atomic (r : Reader) :
    (∀ {σ : Type} (serve : Server σ) (s : σ) (t : TypeSymbol),
      (isBlank t.name → (attach serve r).run.run ⟨s, t, []⟩ = (.ok (), ⟨s, t, []⟩)) ∧
      (¬ isBlank t.name →
        (∀ ps fs es, serve.answers s (r.memberCalls t.name) = [.ok ps, .ok fs, .ok es] →
          (attach serve r).run.run ⟨s, t, []⟩ =
            (.ok (), ⟨serve.after s (r.memberCalls t.name),
              { t with
                properties := t.properties ++ r.decoded .property ps ++ r.decoded .function fs
                events := t.events ++ r.decoded .event es }, r.memberCalls t.name⟩)) ∧
        ∀ (found : List (List Record)) failure later,
          serve.answers s (r.memberCalls t.name) = found.map .ok ++ .error failure :: later →
            let made := (r.memberCalls t.name).take (found.length + 1)
            (attach serve r).run.run ⟨s, t, []⟩ =
              (.error failure, ⟨serve.after s made, t, made⟩)) ∧
      Commits serve t (attach serve r) (r.attachMembers t)) ∧
    ∀ answer name ps es,
      ((r.propertiesOf [name]).run (.constant answer) 0).result = .ok ps →
      ((r.membersOf .event [name]).run (.constant answer) 0).result = .ok es →
      ∀ k, ∃ s calls,
        (attachTimes (Engine.constant answer).server r k).run.run ⟨0, { name }, []⟩ =
          (.ok (), ⟨s, { name
                         properties := (List.replicate k ps).flatten
                         events := (List.replicate k es).flatten }, calls⟩) := by
  refine ⟨fun serve s t => ⟨fun hblank => ?_, fun hname => ⟨?_, ?_⟩, Commits.attach serve r t⟩, ?_⟩
  · have hrun := Commits.attach serve r t s []
    rw [Reader.attachMembers, if_pos hblank] at hrun
    exact hrun
  · intro ps fs es hanswers
    have hrun := Commits.attach serve r t s []
    rw [r.runOver_attachMembers_of_ok hname hanswers] at hrun
    exact hrun
  · intro found failure later hanswers
    have hrun := Commits.attach serve r t s []
    rw [(r.plans_attachMembers hname).runOver_of_error hanswers] at hrun
    exact hrun
  · intro answer name ps es hps hes k
    exact run_attachTimes hps hes k 0 [] rfl

/-- Where the second of the calls fails, the property that the first one has found is not attached.
Attached twice, it is there twice. -/
theorem attach_atomic_widget :
    let visible : MemberSymbol :=
      { name := "visible", owner := "Widget", documents := ["w.js"], details := .property {} }
    let found : List Record := [⟨"Widget\x00visible", ["w.js"]⟩]
    let failure : Failure := .backend "closed"
    let r : Reader := {}
    let widget : TypeSymbol := { name := "Widget", properties := [visible] }
    let closing : Server Nat := fun made _ =>
      (if made = 0 then .ok found else .error failure, made + 1)
    let answer : Call → Except Failure (List Record) := fun c =>
      .ok (if c.categories = [.property] then found else [])
    closing.answers 0 (r.memberCalls "Widget") = [.ok found, .error failure, .error failure] ∧
      (attach closing r).run.run ⟨0, widget, []⟩ = (.error failure,
        ⟨2, widget, [r.memberCall "Widget" .property, r.memberCall "Widget" .function]⟩) ∧
      ∃ s calls,
        (attachTimes (Engine.constant answer).server r 2).run.run ⟨0, { name := "Widget" }, []⟩ =
          (.ok (), ⟨s, { name := "Widget", properties := [visible, visible] }, calls⟩) := by
  intro visible found failure r widget closing answer
  have hname : ¬ isBlank widget.name := by decide
  have hanswers : closing.answers 0 (r.memberCalls "Widget") =
    [.ok found, .error failure, .error failure] := rfl
  have hproperties : ((r.propertiesOf ["Widget"]).run (.constant answer) 0).result =
      .ok [visible] := by
    decide +kernel
  have hevents : ((r.membersOf .event ["Widget"]).run (.constant answer) 0).result = .ok [] := by
    decide +kernel
  obtain ⟨hrun, hrepeat⟩ := attach_atomic r
  refine ⟨hanswers, ?_, hrepeat answer "Widget" _ _ hproperties hevents 2⟩
  exact ((hrun closing 0 widget).2.1 hname).2 [found] failure [.error failure] hanswers

end InPlace

end SymbolIndex
