import SymbolIndex.Regex.Escape

/-!
# Sets in brackets

A set in brackets is a union of characters, ranges, escapes, named ASCII sets and further sets in
brackets. Unions are combined by intersection, difference and symmetric difference, from left to
right.
-/

namespace SymbolIndex.Regex

open Text

/-- A part of a set in brackets, and the number of constructs nested in it. -/
structure Bracket where
  set : CodeSet
  height : Nat := 0
  deriving Repr

namespace Bracket

/-- The operators between unions. -/
inductive Operator where
  | inter
  | diff
  | symmDiff
  deriving Repr, DecidableEq

def Operator.apply : Operator → CodeSet → CodeSet → CodeSet
  | inter, s, t => .inter s t
  | diff, s, t => .diff s t
  | symmDiff, s, t => .symmDiff s t

def greatestHeight (parts : List Bracket) : Nat := (parts.map (·.height)).foldl max 0

/-- The union of parts. One part alone adds no height. -/
def union : List Bracket → Bracket
  | [] => ⟨.empty, 0⟩
  | [p] => p
  | ps => ⟨.unions (ps.map (·.set)), greatestHeight ps + 1⟩

/-- What has been read of a set in brackets: the parts of the current union, last first, and the
operator before it with its left side. -/
structure Reading where
  pending : Option (Operator × Bracket)
  parts : List Bracket

def Reading.push (r : Reading) (p : Bracket) : Reading := { r with parts := p :: r.parts }

def Reading.result (r : Reading) (f : Flags) : Bracket :=
  let current := union r.parts.reverse
  match r.pending with
  | none => current
  | some (op, left) =>
    ⟨op.apply (f.fold left.set) (f.fold current.set), max left.height current.height + 1⟩

/-- Goes on to the union after an operator. -/
def Reading.operate (r : Reading) (f : Flags) (op : Operator) : Reading :=
  ⟨some (op, r.result f), []⟩

/-- A set inside its brackets. -/
def enclose? (f : Flags) (negated : Bool) (inner : Bracket) : Option Bracket :=
  (f.negate? negated (f.fold inner.set)).map fun s => ⟨s, inner.height + 1⟩

/-- A character as a member. Without Unicode it has to be of ASCII. -/
def code? (f : Flags) (c : Char) : Option Nat :=
  if f.unicode || c.toNat < 0x80 then some c.toNat else none

/-- The ASCII sets that have a name. -/
def asciiSet? (name : List Char) : Option CodeSet :=
  (match String.ofList name with
    | "alnum" => some [(0x30, 0x39), (0x41, 0x5A), (0x61, 0x7A)]
    | "alpha" => some [(0x41, 0x5A), (0x61, 0x7A)]
    | "ascii" => some [(0x00, 0x7F)]
    | "blank" => some [(0x09, 0x09), (0x20, 0x20)]
    | "cntrl" => some [(0x00, 0x1F), (0x7F, 0x7F)]
    | "digit" => some [(0x30, 0x39)]
    | "graph" => some [(0x21, 0x7E)]
    | "lower" => some [(0x61, 0x7A)]
    | "print" => some [(0x20, 0x7E)]
    | "punct" => some [(0x21, 0x2F), (0x3A, 0x40), (0x5B, 0x60), (0x7B, 0x7E)]
    | "space" => some [(0x09, 0x0D), (0x20, 0x20)]
    | "upper" => some [(0x41, 0x5A)]
    | "word" => some [(0x30, 0x39), (0x41, 0x5A), (0x5F, 0x5F), (0x61, 0x7A)]
    | "xdigit" => some [(0x30, 0x39), (0x41, 0x46), (0x61, 0x66)]
    | _ => none : Option (List (Nat × Nat))).map .ranges

/-- Reads `:name:]` or `:^name:]` after an opening bracket: whether the set is negated, the set and
what follows. -/
def readAsciiSet (cs : List Char) : Option (Bool × CodeSet × List Char) :=
  match cs with
  | ':' :: rest =>
    let (negated, rest) := match rest with
      | '^' :: rest => (true, rest)
      | rest => (false, rest)
    match cut ':' rest with
    | some (name, ']' :: rest) => (asciiSet? name).map (negated, ·, rest)
    | _ => none
  | _ => none

def readMember (f : Flags) : List Char → Option (Escape × List Char)
  | [] => none
  | '\\' :: rest => readEscape f rest
  | c :: rest => some (.char c, rest)

/-- The set of a single member; a condition is none. -/
def ofEscape? (f : Flags) : Escape → Option Bracket
  | .char c => (code? f c).map fun n => ⟨.single n, 0⟩
  | .set s => some ⟨s, 0⟩
  | .look _ => none

/-- The next character after a hyphen, where blanks and the first number sign do not count in a
spaced pattern. -/
def afterHyphen (f : Flags) (cs : List Char) : Option Char :=
  if f.spaced then
    match dropBlank cs with
    | '#' :: rest => (dropBlank rest).head?
    | rest => rest.head?
  else cs.head?

def readRange (f : Flags) (cs : List Char) : Option (Bracket × List Char) := do
  let (low, rest) ← readMember f cs
  let single := do return (← ofEscape? f low, f.skip rest)
  match f.skip rest with
  | [] => none
  | '-' :: rest =>
    if afterHyphen f rest == some ']' || afterHyphen f rest == some '-' then single
    else do
      let (high, rest) ← readMember f (f.skip rest)
      match low, high with
      | .char low, .char high => do
        let low ← code? f low
        let high ← code? f high
        if low ≤ high then return (⟨.ranges [(low, high)], 0⟩, rest) else none
      | _, _ => none
  | _ => single

/-- Reads hyphens at the front of a set, which stand for themselves. -/
def readHyphens (f : Flags) : Nat → List Char → List Bracket × List Char
  | fuel + 1, '-' :: rest =>
    let (parts, rest) := readHyphens f fuel (f.skip rest)
    (⟨.single '-'.toNat, 0⟩ :: parts, rest)
  | _, cs => ([], cs)

/-- Reads what may stand only at the front of a set: a circumflex that negates it, hyphens, and a
closing bracket that stands for itself. -/
def readFront (f : Flags) (cs : List Char) : Bool × Reading × List Char :=
  let (negated, cs) := match f.skip cs with
    | '^' :: rest => (true, f.skip rest)
    | cs => (false, cs)
  match readHyphens f cs.length cs with
  | ([], ']' :: rest) => (negated, ⟨none, [⟨.single ']'.toNat, 0⟩]⟩, f.skip rest)
  | (hyphens, cs) => (negated, ⟨none, hyphens.reverse⟩, cs)

/-- Reads the rest of a set up to its closing bracket. Every step takes a character, so the length
of the pattern bounds their number. -/
def readRest (f : Flags) : Nat → Reading → List Char → Option (Bracket × List Char)
  | 0, _, _ => none
  | fuel + 1, r, cs =>
    match f.skip cs with
    | ']' :: rest => some (r.result f, rest)
    | '&' :: '&' :: rest => readRest f fuel (r.operate f .inter) rest
    | '-' :: '-' :: rest => readRest f fuel (r.operate f .diff) rest
    | '~' :: '~' :: rest => readRest f fuel (r.operate f .symmDiff) rest
    | '[' :: rest =>
      match readAsciiSet rest with
      | some (negated, s, rest) => do
        readRest f fuel (r.push ⟨← f.negate? negated (f.fold s), 0⟩) rest
      | none => do
        let (negated, inner, rest) := readFront f rest
        let (inner, rest) ← readRest f fuel inner rest
        readRest f fuel (r.push (← enclose? f negated inner)) rest
    | cs => do
      let (p, rest) ← readRange f cs
      readRest f fuel (r.push p) rest

end Bracket

/-- Reads a set in brackets after the opening bracket. -/
def readBracket (f : Flags) (cs : List Char) : Option (Bracket × List Char) := do
  let (negated, front, rest) := Bracket.readFront f cs
  let (inner, rest) ← Bracket.readRest f (cs.length + 1) front rest
  return (← Bracket.enclose? f negated inner, rest)

end SymbolIndex.Regex
