import SymbolIndex.Regex.Flags
import SymbolIndex.Text.Digits
import SymbolIndex.Text.Split

/-!
# Escapes in a pattern

A backslash makes a character with a meaning stand for itself, and gives letters a meaning: a code
point, a set of characters or a condition. `escape` writes a text so that the pattern matches it.
-/

namespace SymbolIndex.Regex

open Text

/-- Whether a character has a meaning in some place of a pattern. -/
def isMeta (c : Char) : Bool :=
  ['\\', '.', '+', '*', '?', '(', ')', '|', '[', ']', '\x7b', '\x7d', '^', '$', '#', '&', '-',
    '~'].contains c

/-- A pattern for a text. -/
def escape (cs : List Char) : List Char := cs.flatMap fun c => if isMeta c then ['\\', c] else [c]

/-- A pattern for a character by its code point. -/
def codePointEscape (c : Char) : List Char :=
  ['\\', 'x', '\x7b'] ++ upperHexDigits c.toNat ++ ['\x7d']

/-- What an escape stands for. -/
inductive Escape where
  | char (c : Char)
  | set (s : CodeSet)
  | look (l : Look)
  deriving Repr

def scalar? (n : Nat) : Option Char := if n.isValidChar then some (Char.ofNat n) else none

/-- Reads a number of `count` hexadecimal digits. -/
def readDigits (f : Flags) : (count value : Nat) → List Char → Option (Nat × List Char)
  | 0, value, cs => some (value, cs)
  | _ + 1, _, [] => none
  | count + 1, value, c :: cs =>
    (hexValue c).bind fun v => readDigits f count (value * 16 + v) (f.skip cs)

/-- Reads a code point of `count` digits, or of any number of digits in braces. Without Unicode two
digits spell a byte, and a byte beyond ASCII is no character. -/
def readCodePoint (f : Flags) (count : Nat) (cs : List Char) : Option (Char × List Char) :=
  match f.skip cs with
  | '\x7b' :: rest => do
    let (ds, rest) ← f.takeBraced false rest
    return (← scalar? (← valueInBase? 16 ds), rest)
  | cs => do
    let (n, rest) ← readDigits f count 0 cs
    if !f.unicode && count == 2 && 0x80 ≤ n then none
    else return (← scalar? n, rest)

/-- The texts before and after the first `!=`. -/
def cutUnequal : List Char → Option (List Char × List Char)
  | [] => none
  | '!' :: '=' :: cs => some ([], cs)
  | c :: cs => (cutUnequal cs).map fun p => (c :: p.1, p.2)

/-- The set that stands between the braces of a property. -/
def propertySet? (cs : List Char) : Option CodeSet :=
  match cutUnequal cs <|> cut ':' cs <|> cut '=' cs with
  | some (name, value) => Property.setWithValue? name value
  | none => Property.setNamed? cs

def readProperty (f : Flags) (negated : Bool) (cs : List Char) : Option (CodeSet × List Char) := do
  let (s, rest) ← match f.skip cs with
    | [] => none
    | '\x7b' :: rest => do
      let (name, rest) ← f.takeBraced false rest
      return (← propertySet? name, rest)
    | c :: rest => if c = '\\' then none else (Property.setNamed? [c]).map (·, rest)
  if f.unicode then return (← f.negate? negated (f.fold s), rest) else none

def edgeNamed? (name : List Char) : Option Edge :=
  match String.ofList name with
  | "start" => some .start
  | "end" => some .stop
  | "start-half" => some .startHalf
  | "end-half" => some .stopHalf
  | _ => none

def isEdgeChar (c : Char) : Bool := c.isAlpha || c == '-'

/-- Reads the rest of a word boundary. Braces after it name an edge if they start with a character
of such names, and are a repetition otherwise. -/
def readBoundary (f : Flags) : List Char → Option (Edge × List Char)
  | '\x7b' :: rest =>
    match f.skip rest with
    | [] => none
    | c :: _ =>
      if isEdgeChar c then do
        let (name, rest) ← f.takeBraced false rest
        return (← edgeNamed? name, rest)
      else some (.either, '\x7b' :: rest)
  | cs => some (.either, cs)

def readEscape (f : Flags) : List Char → Option (Escape × List Char)
  | [] => none
  | c :: cs =>
    let char (c : Char) := some (Escape.char c, cs)
    let set (negated : Bool) (s : CodeSet) := (f.negate? negated s).map fun s => (Escape.set s, cs)
    let edge (e : Edge) := some (Escape.look (.wordEdge f.word e), cs)
    match c with
    | 'x' => (readCodePoint f 2 cs).map fun p => (.char p.1, p.2)
    | 'u' => (readCodePoint f 4 cs).map fun p => (.char p.1, p.2)
    | 'U' => (readCodePoint f 8 cs).map fun p => (.char p.1, p.2)
    | 'p' => (readProperty f false cs).map fun p => (.set p.1, p.2)
    | 'P' => (readProperty f true cs).map fun p => (.set p.1, p.2)
    | 'd' => set false f.digit
    | 'D' => set true f.digit
    | 's' => set false f.space
    | 'S' => set true f.space
    | 'w' => set false f.word
    | 'W' => set true f.word
    | 'a' => char '\x07'
    | 'f' => char '\x0c'
    | 't' => char '\t'
    | 'n' => char '\n'
    | 'r' => char '\r'
    | 'v' => char '\x0b'
    | 'A' => some (.look .textStart, cs)
    | 'z' => some (.look .textEnd, cs)
    | 'b' => (readBoundary f cs).map fun p => (.look (.wordEdge f.word p.1), p.2)
    | 'B' => edge .neither
    | '<' => edge .start
    | '>' => edge .stop
    | c => if c.toNat < 0x80 && !c.isAlphanum then char c else none

end SymbolIndex.Regex
