import SymbolIndex.Json.Field
import SymbolIndex.Json.Printer
import SymbolIndex.Store.Database
import SymbolIndex.Text.Digits

/-!
# Databases in files

A database is kept in a file as a JSON object with its version and the rows of its tables. Words are
bytes, and are written in hexadecimal digits.
-/

namespace SymbolIndex

open Text

namespace Database

def ofNat (n : Nat) : Json := .number (toString n)

def nat? : Json → Option Nat
  | .number literal => literal.toNat?
  | _ => none

def int? : Json → Option Int
  | .number literal => literal.toInt?
  | _ => none

/-- Two hexadecimal digits for each byte. -/
def ofBytes (bytes : List UInt8) : Json :=
  .text (.ofList (bytes.flatMap fun b =>
    [Json.hexDigit (b.toNat / 16), Json.hexDigit (b.toNat % 16)]))

/-- Reads bytes from their digits. -/
def readBytes : List Char → Option (List UInt8)
  | [] => some []
  | a :: b :: cs => do
    let n ← valueInBase? 16 [a, b]
    return n.toUInt8 :: (← readBytes cs)
  | [_] => none

def ofEntryRow (e : EntryRow) : Json := .array [ofNat e.id, .text e.category, ofBytes e.word]

def entryRow? : Json → Option EntryRow
  | .array [id, .text category, .text word] => do
    return ⟨← nat? id, category, ← readBytes word.toList⟩
  | _ => none

def ofDocumentRow (d : DocumentRow) : Json :=
  .array [ofNat d.entry, .text d.document, ofNat d.position]

def documentRow? : Json → Option DocumentRow
  | .array [entry, .text document, position] => do
    return ⟨← nat? entry, document, ← nat? position⟩
  | _ => none

def toText (db : Database) : String :=
  let tables := match db.tables with
    | none => []
    | some t =>
      [("entries", Json.array (t.entries.map ofEntryRow)),
        ("documents", Json.array (t.documents.map ofDocumentRow))]
  (Json.object (("version", .number (toString db.version)) :: tables)).compact

def ofText? (s : String) : Option Database := do
  match ← Json.fields? ["version", "entries", "documents"] (← Json.parse s) with
  | [some version, none, none] => return { version := ← int? version }
  | [some version, some entries, some documents] =>
    return {
      version := ← int? version
      tables := some {
        entries := ← Json.list? entryRow? entries
        documents := ← Json.list? documentRow? documents } }
  | _ => none

end Database

end SymbolIndex
