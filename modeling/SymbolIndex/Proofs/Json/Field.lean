import Mathlib.Data.List.Nodup
import SymbolIndex.Proofs.Json.Printer
import SymbolIndex.Symbol.Json

/-!
# Written structures

A structure is written as an object of those fields that say something. `present` selects them from
the list of all fields, which a structure's reader then gets back: those that were left out as
missing ones. The reader of a field takes a missing one for what the writer left out.
-/

namespace SymbolIndex.Json

variable {α : Type} {n : Nat} {name : String} {fields wanted : List (String × Option Json)}

/-- The members of an object for the fields that say something. -/
def present (fields : List (String × Option Json)) : List (String × Json) :=
  fields.filterMap fun f => f.2.map (f.1, ·)

@[simp] theorem present_singleton (name : String) (v : Json) :
    present [(name, some v)] = [(name, v)] := rfl

theorem present_cons_none (name : String) (fields : List (String × Option Json)) :
    present ((name, none) :: fields) = present fields := rfl

theorem present_cons_some (name : String) (v : Json) (fields : List (String × Option Json)) :
    present ((name, some v) :: fields) = (name, v) :: present fields := rfl

theorem present_append (fields wanted : List (String × Option Json)) :
    present (fields ++ wanted) = present fields ++ present wanted :=
  List.filterMap_append

/-- The members of all fields are those of one field after another. -/
@[simp] theorem present_cons_cons (f g : String × Option Json)
    (fields : List (String × Option Json)) :
    present (f :: g :: fields) = present [f] ++ present (g :: fields) :=
  present_append [f] (g :: fields)

/-- Selecting fields by their names selects the members for them. -/
theorem filter_present (p : String → Bool) (fields : List (String × Option Json)) :
    (present fields).filter (fun m => p m.1) = present (fields.filter fun f => p f.1) := by
  rw [present, List.filter_filterMap, present, List.filterMap_filter]
  refine List.filterMap_congr fun f _ => ?_
  cases f.2 <;> cases h : p f.1 <;> simp [h]

theorem names_present_sublist (fields : List (String × Option Json)) :
    ((present fields).map (·.1)).Sublist (fields.map (·.1)) := by
  induction fields with
  | nil => exact .slnil
  | cons f fields ih =>
    obtain ⟨name, field⟩ := f
    cases field with
    | none => exact ih.cons name
    | some v => exact ih.cons_cons name

theorem lookup_present_of_notMem (h : name ∉ fields.map (·.1)) :
    (present fields).lookup name = none := by
  rw [List.lookup_eq_none_iff]
  intro m hm
  have hmem := (names_present_sublist fields).subset (List.mem_map_of_mem (f := (·.1)) hm)
  simpa using ne_of_mem_of_not_mem hmem h |>.symm

/-- A member is found for a field that says something, and none for another. -/
theorem lookup_present (hnames : (fields.map (·.1)).Nodup) {field : Option Json}
    (h : (name, field) ∈ fields) : (present fields).lookup name = field := by
  induction fields with
  | nil => cases h
  | cons f fields ih =>
    obtain ⟨label, first⟩ := f
    rw [List.map_cons, List.nodup_cons] at hnames
    rcases List.mem_cons.1 h with heq | hmem
    · cases heq
      cases field with
      | none =>
        rw [present_cons_none]
        exact lookup_present_of_notMem hnames.1
      | some v => exact List.lookup_cons_self
    · have hlookup := ih hnames.2 hmem
      cases first with
      | none => exact hlookup
      | some v =>
        have hne : (name == label) = false :=
          beq_false_of_ne (ne_of_mem_of_not_mem (List.mem_map_of_mem hmem) hnames.1)
        rw [present_cons_some, List.lookup_cons, hne]
        exact hlookup

/-- A structure's reader gets the fields that are written, in whatever order they were. -/
theorem memberFields?_present (hnames : (fields.map (·.1)).Nodup) (hsubset : wanted ⊆ fields) :
    memberFields? (wanted.map (·.1)) (present fields) = some (wanted.map (·.2)) := by
  have hunique : (wanted.map (·.1)).all
      (fun name => ((present fields).filter (·.1 == name)).length ≤ 1) := by
    rw [List.all_eq_true]
    intro name _
    have hcount := List.nodup_iff_count_le_one.1 (hnames.sublist (names_present_sublist fields)) name
    rw [List.count, List.countP_map, List.countP_eq_length_filter] at hcount
    exact decide_eq_true hcount
  rw [memberFields?, if_pos hunique, List.map_map]
  refine congrArg some (List.map_congr_left fun f hf => ?_)
  exact lookup_present hnames (hsubset hf)

/-- The same for an object that is read as a structure with all of these fields. -/
theorem fields?_present_of_perm {names : List String} (hperm : fields.Perm wanted)
    (hwanted : wanted.map (·.1) = names) (hnames : names.Nodup) :
    (object (present fields)).fields? names = some (wanted.map (·.2)) := by
  subst hwanted
  exact memberFields?_present ((hperm.map (·.1)).nodup_iff.2 hnames) hperm.symm.subset

theorem fields?_present {names : List String} (hfields : fields.map (·.1) = names)
    (hnames : names.Nodup) :
    (object (present fields)).fields? names = some (fields.map (·.2)) :=
  fields?_present_of_perm (.refl fields) hfields hnames

/-! ## Fields -/

/-- What is written of a flag: nothing, unless it is set. -/
def presentFlag (b : Bool) : Option Json := if b then some (bool true) else none

/-- What is written of a list: nothing, unless it has items. -/
def presentList (items : List Json) : Option Json :=
  if items.isEmpty then none else some (array items)

@[simp] theorem memberIf_eq_present (name : String) (b : Bool) :
    memberIf b name (bool true) = present [(name, presentFlag b)] := by
  cases b <;> rfl

@[simp] theorem optionalMember_eq_present (name : String) (s : Option String) :
    optionalMember name s = present [(name, s.map text)] := by
  cases s <;> rfl

@[simp] theorem listMember_eq_present (name : String) (items : List Json) :
    listMember name items = present [(name, presentList items)] := by
  cases items <;> rfl

@[simp] theorem presentFlag_eq_some {b : Bool} {v : Json} :
    presentFlag b = some v ↔ b = true ∧ bool true = v := by
  cases b <;> simp [presentFlag]

@[simp] theorem presentList_eq_some {items : List Json} {v : Json} :
    presentList items = some v ↔ items ≠ [] ∧ array items = v := by
  cases items <;> simp [presentList]

theorem list?_map {read : Json → Option α} {write : α → Json} {as : List α}
    (h : ∀ a ∈ as, read (write a) = some a) : list? read (array (as.map write)) = some as := by
  rw [list?]
  induction as with
  | nil => rfl
  | cons a as ih =>
    rw [List.forall_mem_cons] at h
    rw [List.map_cons, List.mapM_cons, h.1, ih h.2]
    rfl

@[simp] theorem texts?_ofTexts (ss : List String) : texts? (ofTexts ss) = some ss :=
  list?_map fun _ _ => rfl

@[simp] theorem required_text? (s : String) : required text? (some (text s)) = some s := rfl

@[simp] theorem withDefault_texts? (ss : List String) :
    withDefault [] texts? (some (ofTexts ss)) = some ss :=
  texts?_ofTexts ss

@[simp] theorem withDefault_optionalText? (s : Option String) :
    withDefault none optionalText? (s.map text) = some s := by
  cases s <;> rfl

@[simp] theorem withDefault_flag? (b : Bool) :
    withDefault false flag? (presentFlag b) = some b := by
  cases b <;> rfl

theorem withDefault_list? {read : Json → Option α} {write : α → Json} {as : List α}
    (h : ∀ a ∈ as, read (write a) = some a) :
    withDefault [] (list? read) (presentList (as.map write)) = some as := by
  cases as with
  | nil => rfl
  | cons a as => exact list?_map h

@[simp] theorem withDefault_presentTexts? (ss : List String) :
    withDefault [] texts? (presentList (ss.map text)) = some ss :=
  withDefault_list? fun _ _ => rfl

/-! ## Nesting -/

@[simp] theorem shallow_ofTexts (ss : List String) : Shallow (n + 1) (ofTexts ss) := by
  simp [ofTexts]

theorem shallow_present (h : ∀ f ∈ fields, ∀ v ∈ f.2, Shallow n v) :
    ∀ m ∈ present fields, Shallow n m.2 := by
  intro m hm
  obtain ⟨f, hf, hfield⟩ := List.mem_filterMap.1 hm
  obtain ⟨v, hv, rfl⟩ := Option.map_eq_some_iff.1 hfield
  exact h f hf v hv

end SymbolIndex.Json
