/-!
# Options and operands

A list of arguments is read level by level. A level knows options, which have a long name and perhaps
a letter, takes a number of operands, and may end at a command, after which the next level begins. An
option is given at most once on a level; the value of an option never looks like an option itself.
-/

namespace SymbolIndex.CommandLine

/-- Why arguments are no invocation. -/
inductive Usage where
  | help
  | invalid
  deriving Repr, DecidableEq

structure OptionSpec where
  long : String
  short : Option Char := none
  takesValue : Bool := true
  /-- Which values it takes. -/
  allows : String → Bool := fun _ => true

/-- What a level of arguments may hold. -/
structure Level where
  options : List OptionSpec
  /-- The greatest number of operands, if there is one. -/
  operands : Option Nat := some 0
  /-- Which operands it takes. -/
  allows : String → Bool := fun _ => true
  commands : List String := []

/-- What has been read of a level: the options with their values, and the operands. -/
structure Given where
  values : List (String × String) := []
  operands : List String := []

namespace Given

def value? (g : Given) (long : String) : Option String := g.values.lookup long

def has (g : Given) (long : String) : Bool := (g.value? long).isSome

def give (g : Given) (o : OptionSpec) (value : String) : Except Usage Given :=
  if g.has o.long || !o.allows value then .error .invalid
  else .ok { g with values := g.values ++ [(o.long, value)] }

def giveOperand (g : Given) (l : Level) (operand : String) : Except Usage Given :=
  if l.operands.any (· ≤ g.operands.length) || !l.allows operand then .error .invalid
  else .ok { g with operands := g.operands ++ [operand] }

end Given

def looksLikeOption (argument : String) : Bool :=
  match argument.toList with
  | '-' :: _ :: _ => true
  | _ => false

/-- The text before the first equals sign and the one after it, if there is one. -/
def cutEquals : List Char → List Char × Option (List Char)
  | [] => ([], none)
  | '=' :: cs => ([], some cs)
  | c :: cs =>
    let (before, after) := cutEquals cs
    (c :: before, after)

/-- Reads an argument after its two hyphens. Gives the option too if its value is to follow. -/
def readLong (l : Level) (g : Given) (cs : List Char) : Except Usage (Given × Option OptionSpec) :=
  let (name, value) := cutEquals cs
  match l.options.find? (·.long.toList == name), value with
  | some o, some value =>
    if o.takesValue then (g.give o (.ofList value)).map (·, none) else .error .invalid
  | some o, none => if o.takesValue then .ok (g, some o) else (g.give o "").map (·, none)
  | none, none => .error (if name = "help".toList then .help else .invalid)
  | none, some _ => .error .invalid

/-- Reads the letters of an argument after its hyphen. What follows the letter of an option with a
value is the value; an equals sign in between does not belong to it. -/
def readShort (l : Level) : Given → List Char → Except Usage (Given × Option OptionSpec)
  | g, [] => .ok (g, none)
  | g, c :: cs =>
    match l.options.find? (·.short == some c) with
    | none => .error (if c = 'h' then .help else .invalid)
    | some o =>
      if !o.takesValue then do readShort l (← g.give o "") cs
      else
        match cs with
        | [] => .ok (g, some o)
        | '=' :: value => (g.give o (.ofList value)).map (·, none)
        | value => (g.give o (.ofList value)).map (·, none)

/-- Reads the arguments of a level, up to a command or to the end. `waiting` is an option whose value
comes next; after two hyphens all arguments are operands. -/
def readLevel (l : Level) : (waiting : Option OptionSpec) → (operandsOnly : Bool) → Given →
    List String → Except Usage (Given × Option (String × List String))
  | none, _, g, [] => .ok (g, none)
  | some _, _, _, [] => .error .invalid
  | waiting, true, g, a :: as => do
    if waiting.isSome then throw .invalid
    readLevel l none true (← g.giveOperand l a) as
  | some o, false, g, a :: as => do
    if looksLikeOption a then throw .invalid
    readLevel l none false (← g.give o a) as
  | none, false, g, a :: as => do
    if l.commands.contains a then return (g, some (a, as))
    match a.toList with
    | ['-', '-'] => readLevel l none true g as
    | '-' :: '-' :: cs => do
      let (g, waiting) ← readLong l g cs
      readLevel l waiting false g as
    | '-' :: c :: cs => do
      let (g, waiting) ← readShort l g (c :: cs)
      readLevel l waiting false g as
    | _ => readLevel l none false (← g.giveOperand l a) as

end SymbolIndex.CommandLine
