import SymbolIndex.Regex.Basic
import SymbolIndex.Regex.Bracket

/-!
# Tokens of a pattern

A pattern is read token by token. A token is an expression without groups, or one of the signs that
put expressions together: parentheses, bars and repetitions.
-/

namespace SymbolIndex.Regex

open Text

inductive Token where
  /-- An expression, and the number of constructs nested in it. -/
  | atom (r : Regex) (height : Nat)
  /-- Opens a group with flags of its own and perhaps a name. -/
  | opening (f : Flags) (name : Option (List Char))
  | closing
  /-- Switches flags up to the end of the group. -/
  | flags (f : Flags)
  /-- Ends a branch. -/
  | bar
  /-- Repeats what stands before. -/
  | times (least : Nat) (most : Option Nat)
  deriving Repr

namespace Token

/-- The token of a character that stands for itself. -/
def ofChar (f : Flags) (c : Char) : Token := atom (one (f.fold (.single c.toNat))) 0

def ofEscape (f : Flags) : Escape → Token
  | .char c => ofChar f c
  | .set s => atom (one s) 0
  | .look l => atom (look l) 0

end Token

def isNameStart (c : Char) : Bool := c == '_' || Property.alphabetic.mem c.toNat

def isNameChar (c : Char) : Bool :=
  ['_', '.', '[', ']'].contains c || Property.alphabetic.mem c.toNat ||
    GeneralCategory.number.mem c.toNat

/-- Reads the name of a group up to its closing angle bracket. -/
def readName (cs : List Char) : Option (List Char × List Char) :=
  match cut '>' cs with
  | some (c :: name, rest) =>
    if isNameStart c && name.all isNameChar then some (c :: name, rest) else none
  | _ => none

/-- Reads what follows an opening parenthesis. Conditions on the text around are refused, and so is
a directive without flags. -/
def readOpening (f : Flags) (cs : List Char) : Option (Token × List Char) :=
  match cs with
  | '?' :: '=' :: _ | '?' :: '!' :: _ | '?' :: '<' :: '=' :: _ | '?' :: '<' :: '!' :: _ => none
  | '?' :: 'P' :: '<' :: rest | '?' :: '<' :: rest =>
    (readName rest).map fun p => (.opening f (some p.1), p.2)
  | '?' :: rest => do
    let d ← readDirective f [] none rest
    if !d.closed then return (.opening d.flags none, d.rest)
    else if d.isEmpty then none
    else return (.flags d.flags, d.rest)
  | cs => some (.opening f none, cs)

def readCountDigits (f : Flags) : Nat → List Char → List Char × List Char
  | fuel + 1, c :: cs =>
    if isDigit c then
      let (ds, rest) := readCountDigits f fuel (f.skip cs)
      (c :: ds, rest)
    else ([], c :: cs)
  | _, cs => ([], cs)

/-- Reads a count of 32 bits with blanks around it. -/
def readCount (f : Flags) (cs : List Char) : Option (Nat × List Char) :=
  let (ds, rest) := readCountDigits f cs.length (dropBlank cs)
  if ds.isEmpty then none
  else
    let n := decimalValue ds
    if n < 1 <<< 32 then some (n, dropBlank rest) else none

/-- Reads the counts of a repetition after the opening brace. -/
def readCounts (f : Flags) (cs : List Char) : Option (Nat × Option Nat × List Char) := do
  let (least, rest) ← readCount f (f.skip cs)
  match rest with
  | '\x7d' :: rest => return (least, some least, rest)
  | ',' :: rest =>
    match f.skip rest with
    | '\x7d' :: rest => return (least, none, rest)
    | rest => do
      match ← readCount f rest with
      | (most, '\x7d' :: rest) => if least ≤ most then return (least, some most, rest) else none
      | _ => none
  | _ => none

/-- Drops the question mark that makes a repetition prefer few rounds. -/
def dropLazy : List Char → List Char
  | '?' :: cs => cs
  | cs => cs

def readToken (f : Flags) : List Char → Option (Token × List Char)
  | [] => none
  | c :: cs =>
    match c with
    | '(' => readOpening f (f.skip cs)
    | ')' => some (.closing, cs)
    | '|' => some (.bar, cs)
    | '[' => (readBracket f cs).map fun p => (.atom (one p.1.set) p.1.height, p.2)
    | '?' => some (.times 0 (some 1), dropLazy cs)
    | '*' => some (.times 0 none, dropLazy cs)
    | '+' => some (.times 1 none, dropLazy cs)
    | '\x7b' => (readCounts f cs).map fun p => (.times p.1 p.2.1, dropLazy (f.skip p.2.2))
    | '\\' => (readEscape f cs).map fun p => (.ofEscape f p.1, p.2)
    | '.' => f.dot?.map fun s => (.atom (one s) 0, cs)
    | '^' => some (.atom (look f.startAnchor) 0, cs)
    | '$' => some (.atom (look f.endAnchor) 0, cs)
    | c => some (.ofChar f c, cs)

end SymbolIndex.Regex
