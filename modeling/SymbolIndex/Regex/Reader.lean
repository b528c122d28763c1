import SymbolIndex.Regex.Token

/-!
# Reading a pattern

The tokens of a pattern are put together with a stack of open groups. `read?` gives the expression of
a pattern, unless the pattern is malformed or nests too deeply. Before an expression is used it is
compiled, and whether there is memory for that is up to the engine that compiles it: `Limit` is the
only thing that is known of that engine.
-/

namespace SymbolIndex.Regex

/-- An expression inside a group, the number of constructs nested in it, and whether it may be
repeated: a switch of flags may not. -/
structure Part where
  regex : Regex
  height : Nat := 0
  repeatable : Bool := true

namespace Part

def greatestHeight (parts : List Part) : Nat := (parts.map (·.height)).foldl max 0

/-- Parts one after another; one part alone is itself. -/
def join : List Part → Part
  | [] => { regex := empty }
  | [p] => p
  | ps => { regex := seqs (ps.map (·.regex)), height := greatestHeight ps + 1 }

/-- The choice between parts; one part alone is itself. -/
def choice : List Part → Part
  | [p] => p
  | ps => { regex := alts (ps.map (·.regex)), height := greatestHeight ps + 1 }

end Part

/-- The content of an open group: its finished branches and the parts of the current one, the last
of each first, and the flags that hold now. -/
structure Level where
  flags : Flags
  branches : List Part := []
  parts : List Part := []

namespace Level

def push (l : Level) (p : Part) : Level := { l with parts := p :: l.parts }

def endBranch (l : Level) : Level :=
  { l with branches := Part.join l.parts.reverse :: l.branches, parts := [] }

/-- The expression of the whole group. -/
def content (l : Level) : Part := .choice l.endBranch.branches.reverse

/-- Repeats the last part. There has to be one that may be repeated. -/
def repeatLast? (l : Level) (least : Nat) (most : Option Nat) : Option Level :=
  match l.parts with
  | p :: ps =>
    if p.repeatable then
      some { l with parts :=
        { regex := repeated p.regex least most, height := p.height + 1 } :: ps }
    else none
  | [] => none

end Level

/-- What has been read of a pattern: the innermost open group, those around it, and the names of
groups so far. -/
structure Reading where
  level : Level
  outer : List Level := []
  names : List (List Char) := []

namespace Reading

def push (r : Reading) (p : Part) : Reading := { r with level := r.level.push p }

/-- Takes a token. A name may be given once, and a parenthesis closes only what is open. -/
def take? (r : Reading) : Token → Option Reading
  | .atom regex height => some (r.push { regex, height })
  | .opening f name =>
    if name.any r.names.contains then none
    else some { level := { flags := f }, outer := r.level :: r.outer
                names := name.toList ++ r.names }
  | .closing =>
    match r.outer with
    | [] => none
    | l :: ls =>
      let inner := r.level.content
      some { r with
        level := l.push { regex := inner.regex, height := inner.height + 1 }, outer := ls }
  | .flags f =>
    let level := r.level.push { regex := empty, repeatable := false }
    some { r with level := { level with flags := f } }
  | .bar => some { r with level := r.level.endBranch }
  | .times least most => (r.level.repeatLast? least most).map fun l => { r with level := l }

/-- Takes all tokens of a pattern. Every token has a character, so the length of the pattern bounds
their number. -/
def takeAll? : Nat → Reading → List Char → Option Reading
  | 0, _, _ => none
  | fuel + 1, r, cs =>
    match r.level.flags.skip cs with
    | [] => some r
    | cs => do
      let (t, rest) ← readToken r.level.flags cs
      takeAll? fuel (← r.take? t) rest

end Reading

/-- The number of constructs that may nest in a pattern. -/
def maxHeight : Nat := 250

/-- The expression that a pattern is written for. -/
def read? (cs : List Char) : Option Regex := do
  let r ← Reading.takeAll? (cs.length + 1) { level := { flags := {} } } cs
  let p := r.level.content
  if r.outer.isEmpty && p.height ≤ maxHeight then some p.regex else none

/-- The limit of the engine that compiles expressions. A pattern may be short to write and stand for
a large automaton, so the engine refuses some patterns; which ones depends on how it builds
automata. -/
class Limit where
  admits : (pattern : List Char) → Bool

/-- The limit of an engine that compiles every expression. -/
@[reducible] def Limit.unlimited : Limit := ⟨fun _ => true⟩

section Limit

variable [Limit]

/-- The expression of a pattern that the engine compiles. -/
def parse? (cs : List Char) : Option Regex := (read? cs).filter fun _ => Limit.admits cs

theorem parse?_of_admits {cs : List Char} (h : Limit.admits cs) : parse? cs = read? cs := by
  cases hread : read? cs <;> simp [parse?, hread, h]

theorem parse?_of_not_admits {cs : List Char} (h : ¬ Limit.admits cs) : parse? cs = none := by
  simp [parse?, h]

end Limit

end SymbolIndex.Regex
