import SymbolIndex.Json.Basic
import SymbolIndex.Json.Number

/-!
# Reading JSON

`parse` reads a text that holds one JSON value. Blanks are the four characters that the grammar
names. The reader of a nested value takes the nesting that is left as a bound; the length of the
text bounds both the nesting and the number of items.
-/

namespace SymbolIndex.Json

open Text (hexValue isDigit)

/-- The blanks of the grammar: space, tab, line feed and carriage return. -/
def isSpace (c : Char) : Bool := c == ' ' || c == '\t' || c == '\n' || c == '\r'

def skipSpace (cs : List Char) : List Char := cs.dropWhile isSpace

/-- The code unit that four hexadecimal digits spell. -/
def hexUnit (a b c d : Char) : Option Nat := do
  return (((← hexValue a) * 16 + (← hexValue b)) * 16 + (← hexValue c)) * 16 + (← hexValue d)

/-- The character that a letter after a backslash stands for. -/
def shortEscape : Char → Option Nat
  | '"' => some 0x22
  | '\\' => some 0x5C
  | '/' => some 0x2F
  | 'b' => some 0x08
  | 'f' => some 0x0C
  | 'n' => some 0x0A
  | 'r' => some 0x0D
  | 't' => some 0x09
  | _ => none

/-- The code units of a text after its opening quotation mark, and what follows the closing one. A
unit is a character's code point, or half of a surrogate pair where an escape spells one. -/
def readUnits : List Char → Option (List Nat × List Char)
  | [] => none
  | '"' :: rest => some ([], rest)
  | '\\' :: 'u' :: a :: b :: c :: d :: rest => do
    let u ← hexUnit a b c d
    let (us, rest) ← readUnits rest
    return (u :: us, rest)
  | '\\' :: e :: rest => do
    let u ← shortEscape e
    let (us, rest) ← readUnits rest
    return (u :: us, rest)
  | c :: rest =>
    if c.toNat < 0x20 then none
    else do
      let (us, rest) ← readUnits rest
      return (c.toNat :: us, rest)

/-- The text of code units: surrogates have to come in pairs, the high one first. -/
def textOfUnits : List Nat → Option (List Char)
  | [] => some []
  | u :: v :: us =>
    if 0xD800 ≤ u ∧ u < 0xDC00 then
      if 0xDC00 ≤ v ∧ v < 0xE000 then
        (textOfUnits us).map (Char.ofNat (0x10000 + (u - 0xD800) * 0x400 + (v - 0xDC00)) :: ·)
      else none
    else if 0xDC00 ≤ u ∧ u < 0xE000 then none
    else (textOfUnits (v :: us)).map (Char.ofNat u :: ·)
  | [u] => if 0xD800 ≤ u ∧ u < 0xE000 then none else some [Char.ofNat u]

/-- The digits of a whole number: zero alone, or digits of which the first is not zero. -/
def readInteger : List Char → Option (List Char × List Char)
  | '0' :: rest => some (['0'], rest)
  | c :: rest =>
    if isDigit c then some (c :: rest.takeWhile isDigit, rest.dropWhile isDigit) else none
  | [] => none

/-- The digits after a decimal point, if there is one. -/
def readFraction : List Char → Option (List Char × List Char)
  | '.' :: rest =>
    if (rest.takeWhile isDigit).isEmpty then none
    else some (rest.takeWhile isDigit, rest.dropWhile isDigit)
  | cs => some ([], cs)

/-- The sign and digits of an exponent, if there is one. -/
def readExponent : List Char → Option (Option (Bool × List Char) × List Char)
  | c :: rest =>
    if c = 'e' ∨ c = 'E' then
      let (negative, rest) := match rest with
        | '+' :: rest => (false, rest)
        | '-' :: rest => (true, rest)
        | rest => (false, rest)
      if (rest.takeWhile isDigit).isEmpty then none
      else some (some (negative, rest.takeWhile isDigit), rest.dropWhile isDigit)
    else some (none, c :: rest)
  | [] => some (none, [])

def readNumber (cs : List Char) : Option (NumberLiteral × List Char) := do
  let (negative, cs) := match cs with
    | '-' :: rest => (true, rest)
    | cs => (false, cs)
  let (integer, cs) ← readInteger cs
  let (fraction, cs) ← readFraction cs
  let (exponent, cs) ← readExponent cs
  return (⟨negative, integer, fraction, exponent⟩, cs)

/-- Drops a keyword from the front of a text. -/
def dropKeyword (keyword cs : List Char) : Option (List Char) :=
  if keyword.isPrefixOf cs then some (cs.drop keyword.length) else none

/-- The items of an array from one of them on, and what follows the closing bracket. -/
def readItems (element : List Char → Option (Json × List Char)) :
    Nat → List Char → Option (List Json × List Char)
  | 0, _ => none
  | fuel + 1, cs => do
    let (v, rest) ← element cs
    match skipSpace rest with
    | ',' :: rest => do
      let (vs, rest) ← readItems element fuel rest
      return (v :: vs, rest)
    | ']' :: rest => return ([v], rest)
    | _ => none

/-- The members of an object from one of them on, and what follows the closing brace. A name is
missing where its units are no text. -/
def readMembers (element : List Char → Option (Json × List Char)) :
    Nat → List Char → Option (List (Option String × Json) × List Char)
  | 0, _ => none
  | fuel + 1, cs =>
    match skipSpace cs with
    | '"' :: rest => do
      let (units, rest) ← readUnits rest
      let name := (textOfUnits units).map String.ofList
      match skipSpace rest with
      | ':' :: rest => do
        let (v, rest) ← element rest
        match skipSpace rest with
        | ',' :: rest => do
          let (ms, rest) ← readMembers element fuel rest
          return ((name, v) :: ms, rest)
        | '\x7d' :: rest => return ([(name, v)], rest)
        | _ => none
      | _ => none
    | _ => none

/-- An object of the given members; it is unreadable if a name is missing. -/
def ofMembers (ms : List (Option String × Json)) : Json :=
  match ms.mapM fun m => m.1.map fun name => (name, m.2) with
  | some ms => object ms
  | none => unreadable

/-- A value with at most `fuel` arrays and objects around its innermost parts, and what follows. -/
def readValue : Nat → List Char → Option (Json × List Char)
  | fuel, cs =>
    match skipSpace cs with
    | '"' :: rest => do
      let (units, rest) ← readUnits rest
      match textOfUnits units with
      | some s => return (text (String.ofList s), rest)
      | none => return (unreadable, rest)
    | '[' :: rest =>
      match fuel with
      | 0 => none
      | fuel + 1 =>
        match skipSpace rest with
        | ']' :: rest => some (array [], rest)
        | rest => (readItems (readValue fuel) rest.length rest).map fun p => (array p.1, p.2)
    | '\x7b' :: rest =>
      match fuel with
      | 0 => none
      | fuel + 1 =>
        match skipSpace rest with
        | '\x7d' :: rest => some (object [], rest)
        | rest => (readMembers (readValue fuel) rest.length rest).map fun p => (ofMembers p.1, p.2)
    | 'n' :: rest => (dropKeyword "ull".toList rest).map fun rest => (null, rest)
    | 't' :: rest => (dropKeyword "rue".toList rest).map fun rest => (bool true, rest)
    | 'f' :: rest => (dropKeyword "alse".toList rest).map fun rest => (bool false, rest)
    | cs => do
      let (n, rest) ← readNumber cs
      return (if n.isFinite then number n.spelling else unreadable, rest)

/-- The value that a text holds. -/
def parse (s : String) : Option Json :=
  match readValue s.toList.length s.toList with
  | some (v, rest) => if (skipSpace rest).isEmpty then some v else none
  | none => none

end SymbolIndex.Json
