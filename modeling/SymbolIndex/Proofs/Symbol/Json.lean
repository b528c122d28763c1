import SymbolIndex.Proofs.Json.Field

/-!
# Reading back symbols

A symbol is read back from what is written of it. For each structure there is the list of its fields
in the order in which they are written: the writer leaves out some, and the reader gets them all.
-/

namespace SymbolIndex

open Json

variable {level : Nat} {all : List (String × Option Json)}

namespace Parameter

/-- All fields, with what is written of them. -/
def jsonFields (p : Parameter) : List (String × Option Json) :=
  [("name", some (text p.name)), ("types", some (ofTexts p.types)), ("usage", p.usage.map text),
    ("description", p.description.map text)]

theorem toJson_eq (p : Parameter) : p.toJson = object (present p.jsonFields) := by
  simp [toJson, jsonFields]

theorem ofJson?_toJson (p : Parameter) : ofJson? p.toJson = some p := by
  have hfields : (object (present p.jsonFields)).fields? ["name", "types", "usage", "description"] =
      some (p.jsonFields.map (·.2)) := fields?_present rfl (by decide)
  rw [toJson_eq, ofJson?, hfields]
  simp [jsonFields]

theorem shallow_toJson (p : Parameter) : Shallow 2 p.toJson := by
  rw [toJson_eq, shallow_object]
  exact shallow_present (by simp [jsonFields])

end Parameter

namespace EventField

/-- All fields, with what is written of them. -/
def jsonFields (f : EventField) : List (String × Option Json) :=
  [("name", some (text f.name)), ("type", f.typeName.map text),
    ("description", f.description.map text)]

theorem toJson_eq (f : EventField) : f.toJson = object (present f.jsonFields) := by
  simp [toJson, jsonFields]

theorem ofJson?_toJson (f : EventField) : ofJson? f.toJson = some f := by
  have hfields : (object (present f.jsonFields)).fields? ["name", "type", "description"] =
      some (f.jsonFields.map (·.2)) := fields?_present rfl (by decide)
  rw [toJson_eq, ofJson?, hfields]
  simp [jsonFields]

theorem shallow_toJson (f : EventField) : Shallow 1 f.toJson := by
  rw [toJson_eq, shallow_object]
  exact shallow_present (by simp [jsonFields])

end EventField

namespace PropertyDetails

/-- All fields, with what is written of them. -/
def jsonFields (p : PropertyDetails) : List (String × Option Json) :=
  [("types", some (ofTexts p.types)), ("is_class_property", presentFlag p.ofClass),
    ("is_instance_property", presentFlag p.ofInstance), ("since", presentList (p.since.map text))]

theorem toMembers_eq (p : PropertyDetails) : p.toMembers = present p.jsonFields := by
  simp [toMembers, jsonFields]

/-- The details of a property are read from any object that has their fields. -/
theorem ofMembers?_present (p : PropertyDetails) (hnames : (all.map (·.1)).Nodup)
    (h : p.jsonFields ⊆ all) : ofMembers? (present all) = some p := by
  have hfields : memberFields? ["types", "is_class_property", "is_instance_property", "since"]
      (present all) = some (p.jsonFields.map (·.2)) := memberFields?_present hnames h
  rw [ofMembers?, hfields]
  simp [jsonFields]

theorem shallow_jsonFields (p : PropertyDetails) : ∀ f ∈ p.jsonFields, ∀ v ∈ f.2, Shallow 3 v := by
  simp [jsonFields]

end PropertyDetails

namespace FunctionDetails

/-- All fields, with what is written of them. -/
def jsonFields (f : FunctionDetails) : List (String × Option Json) :=
  [("return_types", some (ofTexts f.returnTypes)),
    ("parameters", some (array (f.parameters.map (·.toJson)))),
    ("is_constructor", presentFlag f.isConstructor), ("is_method", presentFlag f.isMethod),
    ("is_class_property", presentFlag f.ofClass), ("is_instance_property", presentFlag f.ofInstance),
    ("since", presentList (f.since.map text))]

theorem toMembers_eq (f : FunctionDetails) : f.toMembers = present f.jsonFields := by
  simp [toMembers, jsonFields]

/-- The details of a function are read from any object that has their fields. -/
theorem ofMembers?_present (f : FunctionDetails) (hnames : (all.map (·.1)).Nodup)
    (h : f.jsonFields ⊆ all) : ofMembers? (present all) = some f := by
  have hfields : memberFields? ["return_types", "parameters", "is_constructor", "is_method",
      "is_class_property", "is_instance_property", "since"] (present all) =
        some (f.jsonFields.map (·.2)) := memberFields?_present hnames h
  have hparameters : withDefault [] (list? Parameter.ofJson?)
      (some (array (f.parameters.map (·.toJson)))) = some f.parameters :=
    list?_map fun p _ => p.ofJson?_toJson
  rw [ofMembers?, hfields]
  simp [jsonFields, hparameters]

theorem shallow_jsonFields (f : FunctionDetails) : ∀ g ∈ f.jsonFields, ∀ v ∈ g.2, Shallow 3 v := by
  simp [jsonFields, Parameter.shallow_toJson]

end FunctionDetails

namespace MemberDetails

/-- The kind and the fields that are particular to it, with what is written of them. -/
def jsonFields : MemberDetails → List (String × Option Json)
  | property p => ("kind", some (text "property")) :: p.jsonFields
  | function f => ("kind", some (text "function")) :: f.jsonFields
  | event fs => [("kind", some (text "event")), ("properties", some (array (fs.map (·.toJson))))]

theorem toMembers_eq (d : MemberDetails) : d.toMembers = present d.jsonFields := by
  cases d with
  | property p =>
    rw [toMembers, PropertyDetails.toMembers_eq]
    rfl
  | function f =>
    rw [toMembers, FunctionDetails.toMembers_eq]
    rfl
  | event fs => rfl

theorem memberFields?_kind {tag : String} (hnames : (all.map (·.1)).Nodup)
    (h : ("kind", some (text tag)) ∈ all) :
    memberFields? ["kind"] (present all) = some [some (text tag)] :=
  memberFields?_present hnames (List.cons_subset.2 ⟨h, List.nil_subset all⟩)

/-- The details are read from any object that has their fields. -/
theorem ofMembers?_present (d : MemberDetails) (hnames : (all.map (·.1)).Nodup)
    (h : d.jsonFields ⊆ all) : ofMembers? (present all) = some d := by
  cases d with
  | property p =>
    have hfields := List.cons_subset.1 h
    rw [ofMembers?, memberFields?_kind hnames hfields.1]
    simp [kind?, p.ofMembers?_present hnames hfields.2]
  | function f =>
    have hfields := List.cons_subset.1 h
    rw [ofMembers?, memberFields?_kind hnames hfields.1]
    simp [kind?, f.ofMembers?_present hnames hfields.2]
  | event fs =>
    have hfields := List.cons_subset.1 h
    have hproperties : memberFields? ["properties"] (present all) =
        some [some (array (fs.map (·.toJson)))] := memberFields?_present hnames hfields.2
    have hread : withDefault [] (list? EventField.ofJson?)
        (some (array (fs.map (·.toJson)))) = some fs := list?_map fun f _ => f.ofJson?_toJson
    rw [ofMembers?, memberFields?_kind hnames hfields.1]
    simp [kind?, hproperties, hread]

theorem shallow_jsonFields (d : MemberDetails) : ∀ f ∈ d.jsonFields, ∀ v ∈ f.2, Shallow 3 v := by
  cases d with
  | property p => simpa [jsonFields] using p.shallow_jsonFields
  | function f => simpa [jsonFields] using f.shallow_jsonFields
  | event fs => simp [jsonFields, fun f : EventField => f.shallow_toJson.mono (Nat.le_succ 1)]

end MemberDetails

namespace MemberSymbol

/-- The fields that all members have, with what is written of them. -/
def commonFields (m : MemberSymbol) : List (String × Option Json) :=
  [("name", some (text m.name)), ("owning_type", some (text m.owner)),
    ("description", m.description.map text), ("documents", some (ofTexts m.documents))]

theorem toJson_eq (m : MemberSymbol) :
    m.toJson = object (present (m.commonFields ++ m.details.jsonFields)) := by
  rw [toJson, MemberDetails.toMembers_eq, present_append]
  simp [commonFields]

theorem nodup_names (m : MemberSymbol) :
    ((m.commonFields ++ m.details.jsonFields).map (·.1)).Nodup := by
  cases h : m.details with
  | property p =>
    exact (by decide : ["name", "owning_type", "description", "documents", "kind", "types",
      "is_class_property", "is_instance_property", "since"].Nodup)
  | function f =>
    exact (by decide : ["name", "owning_type", "description", "documents", "kind", "return_types",
      "parameters", "is_constructor", "is_method", "is_class_property", "is_instance_property",
      "since"].Nodup)
  | event fs =>
    exact (by decide : ["name", "owning_type", "description", "documents", "kind",
      "properties"].Nodup)

theorem filter_jsonFields (m : MemberSymbol) :
    (m.commonFields ++ m.details.jsonFields).filter (fun f => !commonNames.contains f.1) =
      m.details.jsonFields := by
  cases h : m.details with
  | property p => rfl
  | function f => rfl
  | event fs => rfl

/-- A member is read back also inside arrays and objects, unless they nest too deeply. -/
theorem ofJson?_toJson (m : MemberSymbol) (hlevel : level + 4 ≤ maxDepth) :
    ofJson? level m.toJson = some m := by
  have hparticular : (present (m.commonFields ++ m.details.jsonFields)).filter
      (fun member => !commonNames.contains member.1) = present m.details.jsonFields := by
    rw [filter_present (fun name => !commonNames.contains name), filter_jsonFields]
  have hcommon : memberFields? commonNames (present (m.commonFields ++ m.details.jsonFields)) =
      some (m.commonFields.map (·.2)) :=
    memberFields?_present m.nodup_names (List.subset_append_left _ _)
  have hall : (present m.details.jsonFields).all
      (fun member => member.2.isReadable && member.2.depth + level + 1 ≤ maxDepth) := by
    rw [List.all_eq_true]
    intro member hmember
    have hshallow := shallow_present m.details.shallow_jsonFields member hmember
    have hdepth := hshallow.depth_le
    simp only [hshallow.isReadable, Bool.true_and, decide_eq_true_eq]
    omega
  have hnames : (m.details.jsonFields.map (·.1)).Nodup :=
    m.nodup_names.sublist ((List.sublist_append_right _ _).map _)
  have hdetails := m.details.ofMembers?_present hnames (List.Subset.refl _)
  rw [toJson_eq, ofJson?]
  simp only [hparticular, hall, if_true, hcommon]
  simp [commonFields, hdetails]

theorem shallow_toJson (m : MemberSymbol) : Shallow 4 m.toJson := by
  have hcommon : ∀ f ∈ m.commonFields, ∀ v ∈ f.2, Shallow 3 v := by simp [commonFields]
  rw [toJson_eq, shallow_object]
  refine shallow_present fun f hf => ?_
  exact (List.mem_append.1 hf).elim (hcommon f) (m.details.shallow_jsonFields f)

end MemberSymbol

namespace TypeSymbol

/-- All fields, with what is written of them. -/
def jsonFields (t : TypeSymbol) : List (String × Option Json) :=
  [("name", some (text t.name)), ("parent_types", presentList (t.parents.map text)),
    ("description", t.description.map text), ("documents", some (ofTexts t.documents)),
    ("properties", presentList (t.properties.map (·.toJson))),
    ("events", presentList (t.events.map (·.toJson))),
    ("serialize_properties", presentFlag t.assembled)]

theorem toJson_eq (t : TypeSymbol) : t.toJson = object (present t.jsonFields) := by
  simp [toJson, jsonFields]

/-- A type is read back also inside arrays and objects, unless they nest too deeply. -/
theorem ofJsonAt?_toJson (t : TypeSymbol) (hlevel : level + 6 ≤ maxDepth) :
    ofJsonAt? level t.toJson = some t := by
  have hfields : (object (present t.jsonFields)).fields? ["name", "parent_types", "description",
      "documents", "properties", "events", "serialize_properties"] = some (t.jsonFields.map (·.2)) :=
    fields?_present rfl (by decide)
  have hmembers (ms : List MemberSymbol) : withDefault [] (list? (MemberSymbol.ofJson? (level + 2)))
      (presentList (ms.map (·.toJson))) = some ms :=
    withDefault_list? fun m _ => m.ofJson?_toJson hlevel
  rw [toJson_eq, ofJsonAt?, hfields]
  simp [jsonFields, hmembers]

theorem shallow_toJson (t : TypeSymbol) : Shallow 6 t.toJson := by
  rw [toJson_eq, shallow_object]
  exact shallow_present (by simp [jsonFields, MemberSymbol.shallow_toJson])

end TypeSymbol

end SymbolIndex
