import SymbolIndex.Json.Basic

/-!
# Writing JSON

`pretty` writes a value over several lines, two blanks deeper for each array or object, with empty
ones on one line. `compact` writes it without any blank.
-/

namespace SymbolIndex.Json

def hexDigit (n : Nat) : Char := if n < 10 then Char.ofNat (0x30 + n) else Char.ofNat (0x57 + n)

/-- A character inside a written text. Quotation marks, backslashes and control characters are
escaped, and nothing else. -/
def escapeChar (c : Char) : List Char :=
  match c with
  | '"' => ['\\', '"']
  | '\\' => ['\\', '\\']
  | '\x08' => ['\\', 'b']
  | '\x0c' => ['\\', 'f']
  | '\n' => ['\\', 'n']
  | '\r' => ['\\', 'r']
  | '\t' => ['\\', 't']
  | c =>
    if c.toNat < 0x20 then
      ['\\', 'u', '0', '0', hexDigit (c.toNat / 16), hexDigit (c.toNat % 16)]
    else [c]

/-- A text with its quotation marks. -/
def writeText (s : String) : List Char := '"' :: s.toList.flatMap escapeChar ++ ['"']

/-- The line break before a line that is `level` levels deep. -/
def lineBreak (level : Nat) : List Char := '\n' :: List.replicate (2 * level) ' '

mutual

/-- A value over several lines, inside `level` arrays and objects. -/
def writePretty (level : Nat) : Json → List Char
  | null => "null".toList
  | bool true => "true".toList
  | bool false => "false".toList
  | number literal => literal.toList
  | text s => writeText s
  | array [] => ['[', ']']
  | array (v :: vs) =>
    '[' :: lineBreak (level + 1) ++ writePretty (level + 1) v ++ writePrettyItems (level + 1) vs ++
      lineBreak level ++ [']']
  | object [] => ['\x7b', '\x7d']
  | object ((name, v) :: ms) =>
    '\x7b' :: lineBreak (level + 1) ++ writeText name ++ [':', ' '] ++ writePretty (level + 1) v ++
      writePrettyMembers (level + 1) ms ++ lineBreak level ++ ['\x7d']
  | unreadable => []

/-- The items after the first one. -/
def writePrettyItems (level : Nat) : List Json → List Char
  | [] => []
  | v :: vs => ',' :: lineBreak level ++ writePretty level v ++ writePrettyItems level vs

/-- The members after the first one. -/
def writePrettyMembers (level : Nat) : List (String × Json) → List Char
  | [] => []
  | (name, v) :: ms =>
    ',' :: lineBreak level ++ writeText name ++ [':', ' '] ++ writePretty level v ++
      writePrettyMembers level ms

end

mutual

/-- A value without blanks. -/
def writeCompact : Json → List Char
  | null => "null".toList
  | bool true => "true".toList
  | bool false => "false".toList
  | number literal => literal.toList
  | text s => writeText s
  | array [] => ['[', ']']
  | array (v :: vs) => '[' :: writeCompact v ++ writeCompactItems vs ++ [']']
  | object [] => ['\x7b', '\x7d']
  | object ((name, v) :: ms) =>
    '\x7b' :: writeText name ++ ':' :: writeCompact v ++ writeCompactMembers ms ++ ['\x7d']
  | unreadable => []

/-- The items after the first one. -/
def writeCompactItems : List Json → List Char
  | [] => []
  | v :: vs => ',' :: writeCompact v ++ writeCompactItems vs

/-- The members after the first one. -/
def writeCompactMembers : List (String × Json) → List Char
  | [] => []
  | (name, v) :: ms =>
    ',' :: writeText name ++ ':' :: writeCompact v ++ writeCompactMembers ms

end

/-- A value over several lines. -/
def pretty (v : Json) : String := String.ofList (writePretty 0 v)

/-- A value without blanks. -/
def compact (v : Json) : String := String.ofList (writeCompact v)

end SymbolIndex.Json
