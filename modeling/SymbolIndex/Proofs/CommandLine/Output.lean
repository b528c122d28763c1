import SymbolIndex.CommandLine.Run
import SymbolIndex.Proofs.Lookup
import SymbolIndex.Proofs.Symbol.Json

/-!
# Printed symbols

The program prints what a reader finds. Where it prints JSON, reading the output gives back the
types or members that the reader found, and the program fails where the reader fails.
-/

namespace SymbolIndex.CommandLine

open Json

variable {α : Type} {n : Nat} {read : Json → Option α} {write : α → Json}

/-- Reads the value that a text holds. -/
def ofText? (read : Json → Option α) (s : String) : Option α := (parse s).bind read

/-- What is written of a value is read back, however it is laid out. -/
theorem ofText?_written {a : α} (hshallow : Shallow n (write a)) (hread : read (write a) = some a) :
    ofText? read (write a).compact = some a ∧ ofText? read (write a).pretty = some a := by
  rw [ofText?, parse_compact hshallow, ofText?, parse_pretty hshallow]
  exact ⟨hread, hread⟩

/-- A printed list is read back if its items are. -/
theorem ofText?_printList (toLines : α → String) (hshallow : ∀ a, Shallow n (write a))
    (hread : ∀ a, read (write a) = some a) (as : List α) :
    ofText? (list? read) (printList true write toLines as) = some as := by
  have hlist : Shallow (n + 1) (array (as.map write)) := by simp [hshallow]
  have hparse : parse ((array (as.map write)).pretty ++ "\n") = some (array (as.map write)) :=
    parse_pretty_append hlist (show IsSpace ['\n'] by simp [IsSpace, isSpace])
  rw [printList, if_pos rfl, printJson, ofText?, hparse]
  exact list?_map fun a _ => hread a

section Run

variable [Regex.Limit] (look : String → FileContent) (colored : Bool) (i : Invocation)

/-- What a command prints as JSON is read back as the list that a lookup ends with. Where the command
fails, the settings or the database cannot be read or the lookup fails in the same way. -/
def ReadsBack (command : Command) (read : Json → Option α) (m : Reader → Lookup (List α)) : Prop :=
  (run look colored { i with json := true, command := command }).outcome.map
      (ofText? (list? read)) =
    (prepare look i).bind fun p => ((m (readerOf p.1)).run p.2.engine 0).result.map some

/-- A command that does not import ends as its lookup does over the database that is opened. -/
theorem outcome_run (h : ∀ path, i.command ≠ .load path) :
    (run look colored i).outcome = (prepare look i).bind fun p =>
      ((CommandLine.read (readerOf p.1) p.2 i.json colored i.command).run p.2.engine 0).result := by
  rw [run]
  cases prepare look i with
  | error f => rfl
  | ok p =>
    obtain ⟨settings, db⟩ := p
    cases hc : i.command with
    | load path => exact absurd hc (h path)
    | _ => rfl

/-- A command that prints the list of a lookup is read back as that list. -/
theorem readsBack_of_printList {command : Command} (hcommand : ∀ path, command ≠ .load path)
    {m : Reader → Lookup (List α)} (toLines : α → String)
    (hprint : ∀ r db, CommandLine.read r db true colored command =
      m r >>= fun found => .done (printList true write toLines found))
    (hshallow : ∀ a, Shallow n (write a)) (hread : ∀ a, read (write a) = some a) :
    ReadsBack look colored i command read m := by
  rw [ReadsBack, outcome_run _ _ _ hcommand]
  change ((prepare look i).bind _).map _ = _
  cases prepare look i with
  | error f => rfl
  | ok p =>
    change Except.map _ ((CommandLine.read (readerOf p.1) p.2 true colored command).run
      p.2.engine 0).result = ((m (readerOf p.1)).run p.2.engine 0).result.map some
    rw [hprint, Lookup.result_map]
    cases ((m (readerOf p.1)).run p.2.engine 0).result with
    | error f => rfl
    | ok found => exact congrArg Except.ok (ofText?_printList toLines hshallow hread found)

theorem readsBack_type (name : String) (members : Bool) :
    ReadsBack look colored i (.type name members) (TypeSymbol.ofJsonAt? 1)
      (·.typesNamed name members) := by
  refine readsBack_of_printList look colored i (by simp) (typeLines colored) ?_
    TypeSymbol.shallow_toJson fun t => t.ofJsonAt?_toJson (by decide)
  intro r db
  simp only [CommandLine.read, Bool.not_true, Bool.false_and, Bool.false_eq_true, if_false]
  rfl

theorem readsBack_members (owners : List String) (category : Option Category)
    (name : Option String) :
    ReadsBack look colored i (.members owners category name) (MemberSymbol.ofJson? 1)
      (membersLookup · owners category name) :=
  readsBack_of_printList look colored i (by simp) (memberLine colored "") (fun _ _ => rfl)
    MemberSymbol.shallow_toJson fun m => m.ofJson?_toJson (by decide)

end Run

/-- Members and types are read back from their written forms, with blanks or without, and the lists
of them that the program prints are read back as the lists that were found. -/
theorem symbols_read_back [Regex.Limit] :
    (∀ m : MemberSymbol, ofText? (MemberSymbol.ofJson? 0) m.toJson.compact = some m ∧
      ofText? (MemberSymbol.ofJson? 0) m.toJson.pretty = some m) ∧
    (∀ t : TypeSymbol, ofText? TypeSymbol.ofJson? t.toJson.compact = some t ∧
      ofText? TypeSymbol.ofJson? t.toJson.pretty = some t) ∧
    ∀ (look : String → FileContent) (colored : Bool) (i : Invocation),
      (∀ name members, ReadsBack look colored i (.type name members) (TypeSymbol.ofJsonAt? 1)
        (·.typesNamed name members)) ∧
      (∀ owners category name, ReadsBack look colored i (.members owners category name)
        (MemberSymbol.ofJson? 1) (membersLookup · owners category name)) := by
  refine ⟨?_, ?_, ?_⟩
  · exact fun m => ofText?_written m.shallow_toJson (m.ofJson?_toJson (by decide))
  · exact fun t => ofText?_written t.shallow_toJson (t.ofJsonAt?_toJson (by decide))
  · exact fun look colored i => ⟨readsBack_type look colored i, readsBack_members look colored i⟩

end SymbolIndex.CommandLine
