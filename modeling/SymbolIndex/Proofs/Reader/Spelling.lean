import SymbolIndex.Proofs.Outcomes
import SymbolIndex.Proofs.Reader.Supertypes
import SymbolIndex.Proofs.Record.Respelling

/-!
# How array types are spelled

A generic array and the bare type have the same members, so no lookup tells the two names apart:
whatever answers the calls, the same calls are made and the same is found. Nor does it matter how the
records of types spell their parents. Lookups of supertypes go on in the same way after records that
differ in the spelling of parents only, which `Lookup.Overlooks` says of each answer in turn.
-/

namespace SymbolIndex

open Text

namespace Lookup

variable {α β σ : Type} {m : Lookup α} {R : Call → List Record → List Record → Prop}

/-- An outcome with another result in place of the result. -/
def Outcome.map (f : α → β) (o : Outcome α) : Outcome β := ⟨o.result.map f, o.calls⟩

/-- A lookup that only adjusts the result makes the same calls. -/
theorem runOver_map (serve : Server σ) (s : σ) (m : Lookup α) (f : α → β) :
    (m >>= fun a => done (f a)).runOver serve s = (m.runOver serve s).map f := by
  induction m generalizing s with
  | done a => rfl
  | fail failure => rfl
  | call c next ih =>
    rcases hc : serve s c with ⟨answer, s'⟩
    rw [call_bind, runOver_call hc, runOver_call hc, ih]
    rfl

/-- Whether a lookup goes on in the same way after records that stand in a relation. -/
def Overlooks (R : Call → List Record → List Record → Prop) : Lookup α → Prop
  | done _ | fail _ => True
  | call c next => (∀ rs rs', R c rs rs' → next (.ok rs) = next (.ok rs')) ∧
    ∀ answer, (next answer).Overlooks R

@[simp] theorem overlooks_done (a : α) : (done a).Overlooks R := trivial

theorem overlooks_ask {c : Call} {next : List Record → Lookup α}
    (hR : ∀ rs rs', R c rs rs' → next rs = next rs') (hnext : ∀ rs, (next rs).Overlooks R) :
    (ask c next).Overlooks R := by
  refine ⟨hR, fun answer => ?_⟩
  cases answer with
  | error failure => trivial
  | ok rs => exact hnext rs

theorem Overlooks.bind {f : α → Lookup β} (hm : m.Overlooks R) (hf : ∀ a, (f a).Overlooks R) :
    (m >>= f).Overlooks R := by
  induction m with
  | done a => exact hf a
  | fail failure => trivial
  | call c next ih =>
    refine ⟨?_, fun answer => ih answer (hm.2 answer)⟩
    intro rs rs' hrs
    exact congrArg (· >>= f) (hm.1 rs rs' hrs)

end Lookup

/-- Whether a server answers as another one does, or with records that stand in a relation to those
of the other one, and both go on in the same state. -/
def Server.AgreesUpTo {σ : Type} (R : Call → List Record → List Record → Prop)
    (serve serve' : Server σ) : Prop :=
  ∀ s c, serve' s c = serve s c ∨
    ∃ rs rs' s', serve s c = (.ok rs, s') ∧ serve' s c = (.ok rs', s') ∧ R c rs rs'

/-- What a lookup overlooks changes neither its calls nor its result. -/
theorem Lookup.Overlooks.runOver_eq {α σ : Type} {m : Lookup α}
    {R : Call → List Record → List Record → Prop} (hm : m.Overlooks R) {serve serve' : Server σ}
    (hserve : serve.AgreesUpTo R serve') (s : σ) : m.runOver serve' s = m.runOver serve s := by
  induction m generalizing s with
  | done a => rfl
  | fail failure => rfl
  | call c next ih =>
    obtain ⟨hR, hnext⟩ := hm
    rcases hserve s c with heq | ⟨rs, rs', s', hs, hs', hrs⟩
    · rcases hc : serve s c with ⟨answer, s'⟩
      rw [runOver_call hc, runOver_call (heq.trans hc), ih answer (hnext answer)]
    · rw [runOver_call hs, runOver_call hs', ← hR rs rs' hrs, ih (.ok rs) (hnext _)]

/-- Answers to a call for types that spell the parents differently. -/
def Record.AnswerRespelled (d : Delimiters) (c : Call) (rs rs' : List Record) : Prop :=
  c.categories = [.type] ∧ List.Forall₂ (Record.Respelled d) rs rs'

/-- A type with the properties and the events that have been found for it. -/
def TypeSymbol.attach (t : TypeSymbol) (found : List MemberSymbol × List MemberSymbol) :
    TypeSymbol :=
  { t with properties := t.properties ++ found.1, events := t.events ++ found.2 }

/-- The members of types are queried by the bare names of the types. -/
theorem Query.membersOf_congr {d : Delimiters} {owners owners' : List String}
    (h : owners.map bareTypeName = owners'.map bareTypeName) :
    membersOf d owners = membersOf d owners' := by
  unfold membersOf
  rw [h]

namespace Reader

variable {r : Reader} {category : Category} {owners owners' : List String} {a b : String}

/-- Members are looked up by the bare names of their owners. -/
theorem membersOf_congr (h : owners.map bareTypeName = owners'.map bareTypeName) :
    r.membersOf category owners = r.membersOf category owners' := by
  have hmap : ∀ names : List String, (names.filter (!isBlank ·)).map bareTypeName =
      (names.map bareTypeName).filter (!isBlank ·) := by
    intro names
    rw [List.filter_map]
    simp [Function.comp_def]
  have hnames : (owners.filter (!isBlank ·)).map bareTypeName =
      (owners'.filter (!isBlank ·)).map bareTypeName := by
    rw [hmap, hmap, h]
  have hempty : (owners.filter (!isBlank ·)).isEmpty = (owners'.filter (!isBlank ·)).isEmpty := by
    rw [← List.isEmpty_map (f := bareTypeName), hnames, List.isEmpty_map]
  rw [membersOf, membersOf, hempty, Query.membersOf_congr hnames]

theorem propertiesOf_congr (h : owners.map bareTypeName = owners'.map bareTypeName) :
    r.propertiesOf owners = r.propertiesOf owners' := by
  rw [propertiesOf, membersOf_congr h, membersOf_congr h]
  rfl

theorem isBlank_congr (h : bareTypeName a = bareTypeName b) : isBlank a = isBlank b := by
  rw [← isBlank_bareTypeName a, h, isBlank_bareTypeName]

theorem membersNamed_congr (h : bareTypeName a = bareTypeName b) (name : String) :
    r.membersNamed category a name = r.membersNamed category b name := by
  rw [membersNamed, membersNamed, isBlank_congr h, Query.memberNamed, Query.memberNamed, h]

theorem typesNamed_congr (h : bareTypeName a = bareTypeName b) (withMembers : Bool) :
    r.typesNamed a withMembers = r.typesNamed b withMembers := by
  rw [typesNamed, typesNamed, isBlank_congr h, Query.typeNamed, Query.typeNamed, h]

theorem supertypes?_congr (h : bareTypeName a = bareTypeName b) (limit : Nat) :
    r.supertypes? limit a = r.supertypes? limit b := by
  rw [supertypes?, supertypes?, isBlank_congr h, h]

theorem inheritedMembers?_congr (h : bareTypeName a = bareTypeName b) (limit : Nat) :
    r.inheritedMembers? limit a = r.inheritedMembers? limit b := by
  have hproperties : ∀ supertypes, r.propertiesOf (a :: supertypes) =
      r.propertiesOf (b :: supertypes) := by
    intro supertypes
    exact propertiesOf_congr (by rw [List.map_cons, List.map_cons, h])
  simp only [inheritedMembers?, isBlank_congr h, supertypes?_congr h, hproperties]

/-- The members that are attached to a type of a name. -/
def attachedMembers (r : Reader) (name : String) :
    Lookup (List MemberSymbol × List MemberSymbol) :=
  if isBlank name then pure ([], [])
  else do
    let properties ← r.propertiesOf [name]
    let events ← r.membersOf .event [name]
    return (properties, events)

theorem attachMembers_eq (r : Reader) (t : TypeSymbol) :
    r.attachMembers t = r.attachedMembers t.name >>= fun found => .done (t.attach found) := by
  rw [attachMembers, attachedMembers]
  split
  · simp [TypeSymbol.attach]
  · simp [TypeSymbol.attach]

theorem attachedMembers_congr (h : bareTypeName a = bareTypeName b) :
    r.attachedMembers a = r.attachedMembers b := by
  have hnames : [a].map bareTypeName = [b].map bareTypeName := congrArg ([·]) h
  rw [attachedMembers, attachedMembers, isBlank_congr h, propertiesOf_congr hnames,
    membersOf_congr hnames]

/-- Whether no lookup tells two names of types apart, given what answers its calls. -/
structure Indistinct {σ : Type} (r : Reader) (serve : Server σ) (s : σ) (a b : String) : Prop where
  membersOf : ∀ category before after,
    (r.membersOf category (before ++ a :: after)).runOver serve s =
      (r.membersOf category (before ++ b :: after)).runOver serve s
  membersNamed : ∀ category name,
    (r.membersNamed category a name).runOver serve s =
      (r.membersNamed category b name).runOver serve s
  propertiesOf : ∀ before after,
    (r.propertiesOf (before ++ a :: after)).runOver serve s =
      (r.propertiesOf (before ++ b :: after)).runOver serve s
  typesNamed : ∀ withMembers,
    (r.typesNamed a withMembers).runOver serve s = (r.typesNamed b withMembers).runOver serve s
  supertypes? : ∀ limit,
    (r.supertypes? limit a).runOver serve s = (r.supertypes? limit b).runOver serve s
  inheritedMembers? : ∀ limit,
    (r.inheritedMembers? limit a).runOver serve s = (r.inheritedMembers? limit b).runOver serve s
  /-- Types of either name, whatever else is known of them, get the same members. -/
  attachMembers : ∃ found : Lookup.Outcome (List MemberSymbol × List MemberSymbol),
    ∀ t : TypeSymbol,
      (r.attachMembers { t with name := a }).runOver serve s =
        found.map { t with name := a }.attach ∧
      (r.attachMembers { t with name := b }).runOver serve s =
        found.map { t with name := b }.attach

/-- Names with the same bare name are not told apart. -/
theorem indistinct_of_bareTypeName_eq {σ : Type} (h : bareTypeName a = bareTypeName b)
    (serve : Server σ) (s : σ) : r.Indistinct serve s a b := by
  have hnames : ∀ before after : List String,
      (before ++ a :: after).map bareTypeName = (before ++ b :: after).map bareTypeName := by
    intro before after
    rw [List.map_append, List.map_append, List.map_cons, List.map_cons, h]
  constructor
  case membersOf =>
    intro category before after
    rw [membersOf_congr (hnames before after)]
  case membersNamed =>
    intro category name
    rw [membersNamed_congr h]
  case propertiesOf =>
    intro before after
    rw [propertiesOf_congr (hnames before after)]
  case typesNamed =>
    intro withMembers
    rw [typesNamed_congr h]
  case supertypes? =>
    intro limit
    rw [supertypes?_congr h]
  case inheritedMembers? =>
    intro limit
    rw [inheritedMembers?_congr h]
  case attachMembers =>
    refine ⟨(r.attachedMembers a).runOver serve s, ?_⟩
    intro t
    constructor
    · rw [attachMembers_eq, Lookup.runOver_map]
    · rw [attachMembers_eq, Lookup.runOver_map, ← attachedMembers_congr h]

variable (r : Reader)

theorem overlooks_parentsOf (name : String) :
    (r.parentsOf name).Overlooks (Record.AnswerRespelled r.delimiters) := by
  by_cases hname : isBlank name
  · rw [r.parentsOf_of_blank hname]
    exact Lookup.overlooks_done _
  · rw [r.parentsOf_of_not_blank hname]
    refine Lookup.overlooks_ask ?_ fun rs => Lookup.overlooks_done _
    rintro rs rs' ⟨-, hrs⟩
    exact congrArg Lookup.done (Record.Respelled.bareTypeName_parents hrs).symm

theorem overlooks_visit (limit : Nat) (pending seen : List String) :
    (r.visit limit pending seen).Overlooks (Record.AnswerRespelled r.delimiters) := by
  induction limit generalizing pending seen with
  | zero => cases pending <;> exact Lookup.overlooks_done _
  | succ limit ih =>
    cases pending with
    | nil => exact Lookup.overlooks_done _
    | cons name pending =>
      rw [visit_cons]
      exact (r.overlooks_parentsOf name).bind fun _ => ih _ _

theorem overlooks_supertypes? (limit : Nat) (name : String) :
    (r.supertypes? limit name).Overlooks (Record.AnswerRespelled r.delimiters) := by
  rw [supertypes?]
  split
  · exact Lookup.overlooks_done _
  · exact (r.overlooks_visit _ _ _).bind fun _ => Lookup.overlooks_done _

/-- Members are not looked up among the records of types. -/
theorem overlooks_membersOf {category : Category} (hcategory : category ≠ .type)
    (owners : List String) :
    (r.membersOf category owners).Overlooks (Record.AnswerRespelled r.delimiters) := by
  rw [membersOf]
  split
  · exact Lookup.overlooks_done _
  · refine Lookup.Overlooks.bind ?_ fun _ => Lookup.overlooks_done _
    refine Lookup.overlooks_ask ?_ fun rs => Lookup.overlooks_done _
    rintro rs rs' ⟨htype, -⟩
    exact absurd (List.singleton_inj.1 htype) hcategory

theorem overlooks_propertiesOf (owners : List String) :
    (r.propertiesOf owners).Overlooks (Record.AnswerRespelled r.delimiters) :=
  (r.overlooks_membersOf (by decide) owners).bind fun _ =>
    (r.overlooks_membersOf (by decide) owners).bind fun _ => Lookup.overlooks_done _

theorem overlooks_inheritedMembers? (limit : Nat) (name : String) :
    (r.inheritedMembers? limit name).Overlooks (Record.AnswerRespelled r.delimiters) := by
  rw [inheritedMembers?]
  split
  · exact Lookup.overlooks_done _
  · refine (r.overlooks_supertypes? limit name).bind fun found => ?_
    cases found with
    | none => exact Lookup.overlooks_done _
    | some supertypes =>
      exact (r.overlooks_propertiesOf _).bind fun _ => Lookup.overlooks_done _

/-- Generic arrays are looked up as the bare type, whatever answers the calls, and supertypes alike
however the records of types spell the generic arrays among the parents. -/
theorem arrays_spelled_alike {σ : Type} (serve : Server σ) (s : σ) :
    (∀ parameter, r.Indistinct serve s ("Array<" ++ parameter) "Array") ∧
      ∀ serve' : Server σ, serve.AgreesUpTo (Record.AnswerRespelled r.delimiters) serve' →
        ∀ limit name,
          (r.supertypes? limit name).runOver serve' s =
            (r.supertypes? limit name).runOver serve s ∧
          (r.inheritedMembers? limit name).runOver serve' s =
            (r.inheritedMembers? limit name).runOver serve s := by
  constructor
  · intro parameter
    have hspelled : String.ofList ("Array<".toList ++ parameter.toList) = "Array<" ++ parameter :=
      String.ext_iff.2 (by simp)
    have hbare := (NameRespelled.array parameter.toList).bareTypeName_eq
    rw [hspelled, String.ofList_toList] at hbare
    exact indistinct_of_bareTypeName_eq hbare.symm serve s
  · intro serve' hserve limit name
    exact ⟨(r.overlooks_supertypes? limit name).runOver_eq hserve s,
      (r.overlooks_inheritedMembers? limit name).runOver_eq hserve s⟩

/-- Rows are arrays of numbers, however their record spells that. -/
theorem arrays_spelled_alike_rows :
    let record : Record := ⟨"Rows\x00Array<Number>,Table\x00", ["r.js"]⟩
    let record' : Record := ⟨"Rows\x00Array,Table\x00", ["r.js"]⟩
    let call : Call := ⟨[.type], .typeNamed .standard "Rows"⟩
    let serve (r : Record) : Server Unit := fun s c => (.ok (if c = call then [r] else []), s)
    (serve record).AgreesUpTo (Record.AnswerRespelled .standard) (serve record') ∧
      ((({} : Reader).supertypes? 3 "Rows").runOver (serve record') ()).result =
        .ok (some ["Array", "Table"]) ∧
      (({} : Reader).supertypes? 3 "Rows").runOver (serve record') () =
        (({} : Reader).supertypes? 3 "Rows").runOver (serve record) () := by
  intro record record' call serve
  have hrespelled : record.Respelled .standard record' := by
    have hparents : splitOn ',' (record.parentsField .standard) =
        ["Array<Number>".toList, "Table".toList] := by decide
    have hparents' : splitOn ',' (record'.parentsField .standard) =
        ["Array".toList, "Table".toList] := by decide
    refine ⟨rfl, by decide, ?_⟩
    change List.Forall₂ NameRespelled (splitOn ',' _) (splitOn ',' _)
    rw [hparents, hparents']
    exact .cons (.array "Number>".toList) (.cons (.same _) .nil)
  have hserve : (serve record).AgreesUpTo (Record.AnswerRespelled .standard) (serve record') := by
    intro s c
    by_cases hc : c = call
    · refine Or.inr ⟨[record], [record'], s, ?_, ?_, congrArg Call.categories hc, ?_⟩
      · exact congrArg (fun rs => (Except.ok rs, s)) (if_pos hc)
      · exact congrArg (fun rs => (Except.ok rs, s)) (if_pos hc)
      · exact .cons hrespelled .nil
    · refine Or.inl (congrArg (fun rs => (Except.ok rs, s)) ?_)
      rw [if_neg hc, if_neg hc]
  have halike := (({} : Reader).arrays_spelled_alike (serve record) ()).2 _ hserve 3 "Rows"
  exact ⟨hserve, by decide, halike.1⟩

end Reader

end SymbolIndex
