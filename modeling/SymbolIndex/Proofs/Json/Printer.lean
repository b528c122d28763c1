import SymbolIndex.Json.Printer
import SymbolIndex.Proofs.Json.Grammar

/-!
# Written JSON

Both ways to write a value, over several lines and without blanks, spell the value, so it is read
back from what is written. This holds of values without numbers; `Shallow` bounds in addition how
deeply their arrays and objects nest.
-/

namespace SymbolIndex.Json

variable {α : Type} {n level : Nat}

/-- A value without numbers, with at most `n` arrays and objects around any part of it. -/
inductive Shallow : Nat → Json → Prop where
  | null {n : Nat} : Shallow n null
  | bool {n : Nat} (b : Bool) : Shallow n (bool b)
  | text {n : Nat} (s : String) : Shallow n (text s)
  | array {n : Nat} {items : List Json} : (∀ v ∈ items, Shallow n v) → Shallow (n + 1) (array items)
  | object {n : Nat} {members : List (String × Json)} : (∀ m ∈ members, Shallow n m.2) →
      Shallow (n + 1) (object members)

attribute [simp] Shallow.null Shallow.bool Shallow.text

@[simp] theorem shallow_array {items : List Json} :
    Shallow (n + 1) (array items) ↔ ∀ v ∈ items, Shallow n v :=
  ⟨fun | .array h => h, .array⟩

@[simp] theorem shallow_object {members : List (String × Json)} :
    Shallow (n + 1) (object members) ↔ ∀ m ∈ members, Shallow n m.2 :=
  ⟨fun | .object h => h, .object⟩

theorem itemsDepth_le {items : List Json} (h : ∀ v ∈ items, v.depth ≤ n) :
    itemsDepth items ≤ n := by
  induction items with
  | nil => exact Nat.zero_le n
  | cons v vs ih =>
    rw [List.forall_mem_cons] at h
    exact Nat.max_le.2 ⟨h.1, ih h.2⟩

theorem membersDepth_le {members : List (String × Json)} (h : ∀ m ∈ members, m.2.depth ≤ n) :
    membersDepth members ≤ n := by
  induction members with
  | nil => exact Nat.zero_le n
  | cons m ms ih =>
    rw [List.forall_mem_cons] at h
    exact Nat.max_le.2 ⟨h.1, ih h.2⟩

theorem itemsReadable_eq_all (items : List Json) :
    itemsReadable items = items.all (·.isReadable) := by
  induction items with
  | nil => rfl
  | cons v vs ih => rw [itemsReadable, ih, List.all_cons]

theorem membersReadable_eq_all (members : List (String × Json)) :
    membersReadable members = members.all (·.2.isReadable) := by
  induction members with
  | nil => rfl
  | cons m ms ih => rw [membersReadable, ih, List.all_cons]

namespace Shallow

variable {v : Json}

theorem mono (h : Shallow n v) {m : Nat} (hle : n ≤ m) : Shallow m v := by
  induction h generalizing m with
  | null => exact null
  | bool b => exact bool b
  | text s => exact text s
  | array _ ih =>
    obtain ⟨m, rfl⟩ := Nat.exists_eq_add_of_le' (Nat.le_trans (Nat.le_add_left 1 _) hle)
    exact array fun v hv => ih v hv (Nat.le_of_succ_le_succ hle)
  | object _ ih =>
    obtain ⟨m, rfl⟩ := Nat.exists_eq_add_of_le' (Nat.le_trans (Nat.le_add_left 1 _) hle)
    exact object fun member hm => ih member hm (Nat.le_of_succ_le_succ hle)

theorem depth_le (h : Shallow n v) : v.depth ≤ n := by
  induction h with
  | null => exact Nat.zero_le _
  | bool => exact Nat.zero_le _
  | text => exact Nat.zero_le _
  | array _ ih => exact Nat.succ_le_succ (itemsDepth_le ih)
  | object _ ih => exact Nat.succ_le_succ (membersDepth_le ih)

theorem isReadable (h : Shallow n v) : v.isReadable := by
  induction h with
  | null => rfl
  | bool => rfl
  | text => rfl
  | array _ ih => rwa [Json.isReadable, itemsReadable_eq_all, List.all_eq_true]
  | object _ ih => rwa [Json.isReadable, membersReadable_eq_all, List.all_eq_true]

end Shallow

/-! ## Texts -/

theorem hexUnit_hexDigit :
    ∀ u < 0x20, hexUnit '0' '0' (hexDigit (u / 16)) (hexDigit (u % 16)) = some u := by
  decide

theorem spellsChar_escapeChar (c : Char) : SpellsChar c (escapeChar c) := by
  unfold escapeChar
  split
  case h_8 hquote hslash _ _ _ _ _ =>
    split
    · rename_i hcontrol
      exact .unit (hexUnit_hexDigit _ hcontrol)
    · rename_i hplain
      exact .plain (Nat.le_of_not_lt hplain) hquote hslash
  all_goals exact .short rfl

theorem spellsChars_escapeChar (cs : List Char) : SpellsChars cs (cs.flatMap escapeChar) := by
  induction cs with
  | nil => exact .nil
  | cons c cs ih => exact .cons (spellsChar_escapeChar c) ih

theorem spellsText_writeText (s : String) : SpellsText s (writeText s) :=
  .quoted (spellsChars_escapeChar s.toList)

theorem isSpace_lineBreak (level : Nat) : IsSpace (lineBreak level) := by
  intro c hc
  rcases List.mem_cons.1 hc with rfl | hc
  · rfl
  · rw [List.eq_of_mem_replicate hc]
    rfl

/-! ## Values -/

/-- Items that are written with a comma and blanks between them, and blanks in the end. -/
theorem spellsList_flatMap {P : α → List Char → Prop} {write : α → List Char}
    {between after : List Char} (hbetween : IsSpace between) (hafter : IsSpace after) (a : α)
    (as : List α) (h : ∀ b ∈ a :: as, P b (write b)) :
    SpellsList P (a :: as)
      (write a ++ (as.flatMap (fun b => ',' :: (between ++ write b)) ++ after)) := by
  induction as generalizing a with
  | nil => exact .last (h a List.mem_cons_self) hafter
  | cons b bs ih =>
    have hrest := ih b fun c hc => h c (List.mem_cons_of_mem a hc)
    have hlist := SpellsList.more (h a List.mem_cons_self) isSpace_nil hbetween hrest
    simpa using hlist

theorem writePrettyItems_eq (level : Nat) (vs : List Json) :
    writePrettyItems level vs =
      vs.flatMap fun v => ',' :: (lineBreak level ++ writePretty level v) := by
  induction vs with
  | nil => rfl
  | cons v vs ih =>
    change ',' :: lineBreak level ++ writePretty level v ++ writePrettyItems level vs = _
    rw [ih, List.flatMap_cons]
    rfl

/-- A member over several lines. -/
def writePrettyMember (level : Nat) (m : String × Json) : List Char :=
  writeText m.1 ++ [':', ' '] ++ writePretty level m.2

theorem writePrettyMembers_eq (level : Nat) (ms : List (String × Json)) :
    writePrettyMembers level ms =
      ms.flatMap fun m => ',' :: (lineBreak level ++ writePrettyMember level m) := by
  induction ms with
  | nil => rfl
  | cons m ms ih =>
    change ',' :: lineBreak level ++ writeText m.1 ++ [':', ' '] ++ writePretty level m.2 ++
      writePrettyMembers level ms = _
    rw [ih, List.flatMap_cons]
    simp only [writePrettyMember, List.append_assoc, List.cons_append]

/-- An array that is not empty, over several lines. -/
theorem writePretty_array (level : Nat) (v : Json) (vs : List Json) :
    writePretty level (array (v :: vs)) = '[' :: (lineBreak (level + 1) ++
      (writePretty (level + 1) v ++
        (vs.flatMap (fun w => ',' :: (lineBreak (level + 1) ++ writePretty (level + 1) w)) ++
          lineBreak level)) ++ [']']) := by
  change '[' :: lineBreak (level + 1) ++ writePretty (level + 1) v ++
    writePrettyItems (level + 1) vs ++ lineBreak level ++ [']'] = _
  simp only [writePrettyItems_eq, List.append_assoc, List.cons_append]

/-- An object that is not empty, over several lines. -/
theorem writePretty_object (level : Nat) (m : String × Json) (ms : List (String × Json)) :
    writePretty level (object (m :: ms)) = '\x7b' :: (lineBreak (level + 1) ++
      (writePrettyMember (level + 1) m ++
        (ms.flatMap (fun m => ',' :: (lineBreak (level + 1) ++ writePrettyMember (level + 1) m)) ++
          lineBreak level)) ++ ['\x7d']) := by
  change '\x7b' :: lineBreak (level + 1) ++ writeText m.1 ++ [':', ' '] ++
    writePretty (level + 1) m.2 ++ writePrettyMembers (level + 1) ms ++ lineBreak level ++
      ['\x7d'] = _
  simp only [writePrettyMembers_eq, writePrettyMember, List.append_assoc, List.cons_append]

theorem spellsMember_writePrettyMember {m : String × Json}
    (h : Spells m.2 (writePretty level m.2)) :
    SpellsMember Spells m (writePrettyMember level m) := by
  have hblank : IsSpace [' '] := by simp [IsSpace, isSpace]
  rw [writePrettyMember, List.append_assoc]
  exact .labelled (spellsText_writeText m.1) isSpace_nil hblank h

theorem spells_writePretty {v : Json} (h : Shallow n v) (level : Nat) :
    Spells v (writePretty level v) := by
  induction h generalizing level with
  | null => exact .null
  | bool b =>
    cases b with
    | true => exact .true
    | false => exact .false
  | text s => exact .text (spellsText_writeText s)
  | @array _ items _ ih =>
    cases items with
    | nil => exact .array isSpace_nil .nil
    | cons v vs =>
      rw [writePretty_array]
      exact .array (isSpace_lineBreak _) (spellsList_flatMap (isSpace_lineBreak _)
        (isSpace_lineBreak _) v vs fun w hw => ih w hw (level + 1))
  | @object _ members _ ih =>
    cases members with
    | nil => exact .object isSpace_nil .nil
    | cons m ms =>
      rw [writePretty_object]
      exact .object (isSpace_lineBreak _) (spellsList_flatMap (isSpace_lineBreak _)
        (isSpace_lineBreak _) m ms fun m hm => spellsMember_writePrettyMember (ih m hm (level + 1)))

theorem writeCompactItems_eq (vs : List Json) :
    writeCompactItems vs = vs.flatMap fun v => ',' :: ([] ++ writeCompact v) := by
  induction vs with
  | nil => rfl
  | cons v vs ih =>
    change ',' :: writeCompact v ++ writeCompactItems vs = _
    rw [ih, List.flatMap_cons]
    rfl

/-- A member without blanks. -/
def writeCompactMember (m : String × Json) : List Char := writeText m.1 ++ ':' :: writeCompact m.2

theorem writeCompactMembers_eq (ms : List (String × Json)) :
    writeCompactMembers ms = ms.flatMap fun m => ',' :: ([] ++ writeCompactMember m) := by
  induction ms with
  | nil => rfl
  | cons m ms ih =>
    change ',' :: writeText m.1 ++ ':' :: writeCompact m.2 ++ writeCompactMembers ms = _
    rw [ih, List.flatMap_cons]
    rfl

/-- An array that is not empty, without blanks. -/
theorem writeCompact_array (v : Json) (vs : List Json) :
    writeCompact (array (v :: vs)) = '[' :: ([] ++ (writeCompact v ++
      (vs.flatMap (fun w => ',' :: ([] ++ writeCompact w)) ++ [])) ++ [']']) := by
  change '[' :: writeCompact v ++ writeCompactItems vs ++ [']'] = _
  rw [writeCompactItems_eq, List.append_nil]
  rfl

/-- An object that is not empty, without blanks. -/
theorem writeCompact_object (m : String × Json) (ms : List (String × Json)) :
    writeCompact (object (m :: ms)) = '\x7b' :: ([] ++ (writeCompactMember m ++
      (ms.flatMap (fun m => ',' :: ([] ++ writeCompactMember m)) ++ [])) ++ ['\x7d']) := by
  change '\x7b' :: writeText m.1 ++ ':' :: writeCompact m.2 ++ writeCompactMembers ms ++ ['\x7d'] = _
  simp only [writeCompactMembers_eq, writeCompactMember, List.append_assoc, List.cons_append,
    List.nil_append, List.append_nil]

theorem spellsMember_writeCompactMember {m : String × Json} (h : Spells m.2 (writeCompact m.2)) :
    SpellsMember Spells m (writeCompactMember m) :=
  .labelled (spellsText_writeText m.1) isSpace_nil isSpace_nil h

theorem spells_writeCompact {v : Json} (h : Shallow n v) : Spells v (writeCompact v) := by
  induction h with
  | null => exact .null
  | bool b =>
    cases b with
    | true => exact .true
    | false => exact .false
  | text s => exact .text (spellsText_writeText s)
  | @array _ items _ ih =>
    cases items with
    | nil => exact .array isSpace_nil .nil
    | cons v vs =>
      rw [writeCompact_array]
      exact .array isSpace_nil (spellsList_flatMap isSpace_nil isSpace_nil v vs ih)
  | @object _ members _ ih =>
    cases members with
    | nil => exact .object isSpace_nil .nil
    | cons m ms =>
      rw [writeCompact_object]
      exact .object isSpace_nil (spellsList_flatMap isSpace_nil isSpace_nil m ms
        fun m hm => spellsMember_writeCompactMember (ih m hm))

/-- What is written over several lines is read back, also with blanks after it. -/
theorem parse_pretty_append {v : Json} (h : Shallow n v) {after : List Char}
    (hafter : IsSpace after) : parse (v.pretty ++ .ofList after) = some v := by
  rw [pretty, ← String.ofList_append]
  have hparse := parse_of_spells (spells_writePretty h 0) isSpace_nil hafter
  rwa [List.nil_append] at hparse

theorem parse_pretty {v : Json} (h : Shallow n v) : parse v.pretty = some v := by
  have hparse := parse_pretty_append h isSpace_nil
  rwa [String.ofList_nil, String.append_empty] at hparse

/-- What is written without blanks is read back. -/
theorem parse_compact {v : Json} (h : Shallow n v) : parse v.compact = some v := by
  have hparse := parse_of_spells (spells_writeCompact h) isSpace_nil isSpace_nil
  rw [List.append_nil, List.nil_append] at hparse
  rwa [compact]

end SymbolIndex.Json
