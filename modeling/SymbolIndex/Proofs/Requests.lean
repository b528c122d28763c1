import SymbolIndex.Proofs.Lookup
import SymbolIndex.Proofs.Store.Answers
import SymbolIndex.Reader

/-!
# Requests to a reader

Everything that a reader looks up is a `Request`. Of each it is shown that the first failed call is
its end, with the failure of that call and no other, and that its calls are uniform, so that the
outcome does not depend on how an index is kept.
-/

namespace SymbolIndex

/-- Something to look up. -/
inductive Request where
  | membersOf (category : Category) (owners : List String)
  | membersNamed (category : Category) (owner name : String)
  | propertiesOf (owners : List String)
  | requiredModules (document : String)
  | attachMembers (t : TypeSymbol)
  | typesNamed (name : String) (withMembers : Bool)
  | allTypes (schedule : Nat → List Nat) (withMembers : Bool)
  | typeNames
  | supertypes (limit : Nat) (name : String)
  | inheritedMembers (limit : Nat) (name : String)

namespace Request

/-- What a request is answered with. -/
def Result : Request → Type
  | membersOf .. | membersNamed .. | propertiesOf .. => List MemberSymbol
  | requiredModules .. | typeNames => List String
  | attachMembers .. => TypeSymbol
  | typesNamed .. | allTypes .. => List TypeSymbol
  | supertypes .. => Option (List String)
  | inheritedMembers .. => Option (List MemberSymbol)

/-- The lookup of a reader for a request. -/
def lookup (r : Reader) : (q : Request) → Lookup q.Result
  | membersOf category owners => r.membersOf category owners
  | membersNamed category owner name => r.membersNamed category owner name
  | propertiesOf owners => r.propertiesOf owners
  | requiredModules document => r.requiredModules document
  | attachMembers t => r.attachMembers t
  | typesNamed name withMembers => r.typesNamed name withMembers
  | allTypes schedule withMembers => r.allTypes schedule withMembers
  | typeNames => r.typeNames
  | supertypes limit name => r.supertypes? limit name
  | inheritedMembers limit name => r.inheritedMembers? limit name

end Request

namespace Query

variable (d : Delimiters)

/-- A query for one category is uniform unless it compares bytes with an empty pattern. -/
theorem uniform_of_comparesBytes_eq_false {category : Category} {q : Query}
    (h : q.mode.comparesBytes = false) : Call.Uniform ⟨[category], q⟩ :=
  ⟨List.cons_ne_nil _ _, fun hbytes => absurd (h.symm.trans hbytes) nofun⟩

theorem uniform_everything (category : Category) : Call.Uniform ⟨[category], everything⟩ :=
  uniform_of_comparesBytes_eq_false rfl

theorem uniform_membersOf (category : Category) (owners : List String) :
    Call.Uniform ⟨[category], membersOf d owners⟩ :=
  uniform_of_comparesBytes_eq_false rfl

theorem uniform_typeNamed (category : Category) (name : String) :
    Call.Uniform ⟨[category], typeNamed d name⟩ :=
  uniform_of_comparesBytes_eq_false rfl

/-- The pattern for a member has delimiters in it. -/
theorem uniform_memberNamed (category : Category) (owner name : String) :
    Call.Uniform ⟨[category], memberNamed d owner name⟩ := by
  refine ⟨List.cons_ne_nil _ _, fun _ hempty => ?_⟩
  have hlist := congrArg String.toList hempty
  simp [memberNamed, Char.toString] at hlist

end Query

namespace Reader

open Lookup

variable (r : Reader)

theorem asks_members {category : Category} {q : Query} (h : Call.Uniform ⟨[category], q⟩) :
    (r.members category q).Asks Call.Uniform :=
  (asks_records h).map _

theorem asks_membersOf (category : Category) (owners : List String) :
    (r.membersOf category owners).Asks Call.Uniform := by
  rw [membersOf]
  split
  · exact asks_done _
  · exact r.asks_members (Query.uniform_membersOf _ _ _)

theorem asks_membersNamed (category : Category) (owner name : String) :
    (r.membersNamed category owner name).Asks Call.Uniform := by
  rw [membersNamed]
  split
  · exact asks_done _
  · exact r.asks_members (Query.uniform_memberNamed _ _ _ _)

theorem asks_propertiesOf (owners : List String) :
    (r.propertiesOf owners).Asks Call.Uniform :=
  (r.asks_membersOf _ _).bind fun _ => (r.asks_membersOf _ _).map _

theorem asks_requiredModules (document : String) :
    (r.requiredModules document).Asks Call.Uniform := by
  rw [requiredModules]
  split
  · exact asks_done _
  · exact (asks_records (Query.uniform_everything _)).map _

theorem asks_attachMembers (t : TypeSymbol) : (r.attachMembers t).Asks Call.Uniform := by
  rw [attachMembers]
  split
  · exact asks_done _
  · exact (r.asks_propertiesOf _).bind fun _ => (r.asks_membersOf _ _).map _

theorem asks_assemble (t : TypeSymbol) : (r.assemble t).Asks Call.Uniform :=
  (r.asks_attachMembers t).map _

theorem asks_typesNamed (name : String) (withMembers : Bool) :
    (r.typesNamed name withMembers).Asks Call.Uniform := by
  rw [typesNamed]
  split
  · exact asks_done _
  · refine (asks_records (Query.uniform_typeNamed _ _ _)).bind fun records => ?_
    cases withMembers with
    | false => exact asks_done _
    | true => exact .mapM r.asks_assemble _

theorem asks_assembleAt (places : List Nat) (types : List TypeSymbol) :
    (r.assembleAt places types).Asks Call.Uniform := by
  induction places generalizing types with
  | nil => exact asks_done _
  | cons i places ih =>
    rw [assembleAt]
    split
    · exact ih types
    · exact (r.asks_assemble _).bind fun _ => ih _

theorem asks_allTypes (schedule : Nat → List Nat) (withMembers : Bool) :
    (r.allTypes schedule withMembers).Asks Call.Uniform := by
  refine (asks_records (Query.uniform_everything _)).bind fun records => ?_
  cases withMembers with
  | false => exact asks_done _
  | true => exact r.asks_assembleAt _ _

theorem asks_typeNames : r.typeNames.Asks Call.Uniform :=
  (asks_records (Query.uniform_everything _)).map _

theorem asks_visit (limit : Nat) (pending seen : List String) :
    (r.visit limit pending seen).Asks Call.Uniform := by
  induction limit generalizing pending seen with
  | zero => cases pending <;> exact asks_done _
  | succ limit ih =>
    cases pending with
    | nil => exact asks_done _
    | cons name pending =>
      have hparents : (r.parentsOf name).Asks Call.Uniform := (r.asks_typesNamed name false).map _
      exact hparents.bind fun _ => ih _ _

theorem asks_supertypes? (limit : Nat) (name : String) :
    (r.supertypes? limit name).Asks Call.Uniform := by
  rw [supertypes?]
  split
  · exact asks_done _
  · exact (r.asks_visit _ _ _).map _

theorem asks_inheritedMembers? (limit : Nat) (name : String) :
    (r.inheritedMembers? limit name).Asks Call.Uniform := by
  rw [inheritedMembers?]
  split
  · exact asks_done _
  · refine (r.asks_supertypes? limit name).bind fun found => ?_
    cases found with
    | none => exact asks_done _
    | some supertypes => exact (r.asks_propertiesOf _).map _

/-- Every request hands on the failure of its first failed call, and makes only calls that all kinds
of indexes answer alike. -/
theorem asks_lookup (q : Request) : (q.lookup r).Asks Call.Uniform := by
  cases q with
  | membersOf category owners => exact r.asks_membersOf category owners
  | membersNamed category owner name => exact r.asks_membersNamed category owner name
  | propertiesOf owners => exact r.asks_propertiesOf owners
  | requiredModules document => exact r.asks_requiredModules document
  | attachMembers t => exact r.asks_attachMembers t
  | typesNamed name withMembers => exact r.asks_typesNamed name withMembers
  | allTypes schedule withMembers => exact r.asks_allTypes schedule withMembers
  | typeNames => exact r.asks_typeNames
  | supertypes limit name => exact r.asks_supertypes? limit name
  | inheritedMembers limit name => exact r.asks_inheritedMembers? limit name

end Reader

end SymbolIndex
