import SymbolIndex.Toml.Scalar

/-!
# Reading TOML

A document is a list of lines: keys with values, and headers that open tables. `parse` puts the lines
together into one table, unless the text is malformed or defines something twice.
-/

namespace SymbolIndex.Toml

/-- The number of arrays and tables that a value may nest in, and the parts that a key may have. -/
def maxDepth : Nat := 79

def isBareChar (c : Char) : Bool := c.isAlphanum || c == '_' || c == '-'

def readKeyPart (cs : List Char) : Option (String × List Char) :=
  match cs with
  | '"' :: rest => (readLineText '"' (rest.length + 1) rest).map fun p => (.ofList p.1, p.2)
  | '\'' :: rest => (readLineText '\'' (rest.length + 1) rest).map fun p => (.ofList p.1, p.2)
  | cs =>
    let bare := cs.takeWhile isBareChar
    if bare.isEmpty then none else some (.ofList bare, cs.drop bare.length)

/-- Reads a key of at most `count` parts, with blanks around each. -/
def readKey : (count : Nat) → List Char → Option (List String × List Char)
  | 0, _ => none
  | count + 1, cs => do
    let (part, rest) ← readKeyPart (skipBlanks cs)
    match skipBlanks rest with
    | '.' :: rest => (readKey count rest).map fun p => (part :: p.1, p.2)
    | rest => return ([part], rest)

def readItems (element : List Char → Option (Toml × List Char)) :
    Nat → List Char → Option (List Toml × List Char)
  | 0, _ => none
  | fuel + 1, cs =>
    match skipFiller false cs with
    | ']' :: rest => some ([], rest)
    | cs => do
      let (v, rest) ← element cs
      match skipFiller false rest with
      | ',' :: rest => (readItems element fuel rest).map fun p => (v :: p.1, p.2)
      | ']' :: rest => return ([v], rest)
      | _ => none

def readPair (element : List Char → Option (Toml × List Char)) (cs : List Char) :
    Option ((List String × Toml) × List Char) := do
  let (key, rest) ← readKey maxDepth cs
  let (v, rest) ← element (skipBlanks (← expect '=' rest))
  return ((key, v), rest)

/-- Reads the keys and values of a table in braces, from one of them on. -/
def readPairs (element : List Char → Option (Toml × List Char)) :
    Nat → List Char → Option (List (List String × Toml) × List Char)
  | 0, _ => none
  | fuel + 1, cs => do
    let (pair, rest) ← readPair element cs
    match skipBlanks rest with
    | ',' :: rest => (readPairs element fuel rest).map fun p => (pair :: p.1, p.2)
    | '\x7d' :: rest => return ([pair], rest)
    | _ => none

def assignAll (kind : TableKind) (es : Entries) (pairs : List (List String × Toml)) :
    Option Entries :=
  pairs.foldlM (fun es p => assign kind es p.1 p.2) es

/-- Reads a value inside which `fuel` arrays and tables may nest. -/
def readValue : (fuel : Nat) → List Char → Option (Toml × List Char)
  | fuel, cs =>
    match cs with
    | '"' :: _ | '\'' :: _ => (readText cs).map fun p => (text (.ofList p.1), p.2)
    | '[' :: rest =>
      match fuel with
      | 0 => none
      | fuel + 1 =>
        (readItems (readValue fuel) (rest.length + 1) rest).map fun p => (array p.1, p.2)
    | '\x7b' :: rest =>
      match fuel with
      | 0 => none
      | fuel + 1 =>
        match skipBlanks rest with
        | '\x7d' :: rest => some (table .closed [], rest)
        | rest => do
          let (pairs, rest) ← readPairs (readValue fuel) (rest.length + 1) rest
          return (table .closed (← assignAll .closed [] pairs), rest)
    | 't' :: 'r' :: 'u' :: 'e' :: rest => some (boolean true, rest)
    | 'f' :: 'a' :: 'l' :: 's' :: 'e' :: rest => some (boolean false, rest)
    | cs => readNumber cs

inductive Line where
  | pair (key : List String) (value : Toml)
  /-- Opens a table, or a further table of an array. -/
  | header (isArray : Bool) (key : List String)

/-- Drops the end of a line, with a comment before it. -/
def dropLineEnd (cs : List Char) : Option (List Char) :=
  let rest := match skipBlanks cs with
    | '#' :: rest => rest.dropWhile isCommentChar
    | rest => rest
  if rest.isEmpty then some [] else afterBreak? rest

def readLine (cs : List Char) : Option (Line × List Char) :=
  match cs with
  | '[' :: '[' :: rest => do
    let (key, rest) ← readKey maxDepth rest
    return (.header true key, ← expect ']' (← expect ']' rest))
  | '[' :: rest => do
    let (key, rest) ← readKey maxDepth rest
    return (.header false key, ← expect ']' rest)
  | cs => (readPair (readValue maxDepth) cs).map fun p => (.pair p.1.1 p.1.2, p.2)

/-- Reads the lines of a document. Every line takes a character, so the length of the text bounds
their number. -/
def readLines : Nat → List Char → Option (List Line)
  | 0, _ => none
  | fuel + 1, cs =>
    match skipBlanks cs with
    | [] => some []
    | cs =>
      match dropLineEnd cs with
      | some rest => readLines fuel rest
      | none => do
        let (line, rest) ← readLine cs
        return line :: (← readLines fuel (← dropLineEnd rest))

/-- The part of a document under one header: whether the header is of an array, its key, and the keys
with values that follow it. -/
structure Section where
  isArray : Bool
  key : List String
  pairs : List (List String × Toml)

/-- The keys with values before the first header, and the sections. -/
def sections : List Line → List (List String × Toml) × List Section
  | [] => ([], [])
  | .pair key v :: lines =>
    let (pairs, rest) := sections lines
    ((key, v) :: pairs, rest)
  | .header isArray key :: lines =>
    let (pairs, rest) := sections lines
    ([], ⟨isArray, key, pairs⟩ :: rest)

/-- Adds a section to a document. A table may have one header, and it may follow the headers of
tables inside it. -/
def addSection (es : Entries) (s : Section) : Option Entries :=
  match s.key.getLast? with
  | none => none
  | some key =>
    alter false (fun _ es =>
      if s.isArray then do
        let t := table .header (← assignAll .header [] s.pairs)
        match es.lookup key with
        | none => return put key (tables [t]) es
        | some (tables items) => return put key (tables (items ++ [t])) es
        | some _ => none
      else
        match es.lookup key with
        | none => do return put key (table .header (← assignAll .header [] s.pairs)) es
        | some (table .passing inner) => do
          return put key (table .header (← assignAll .header inner s.pairs)) es
        | some _ => none) s.key.dropLast .header es

/-- The table that a text describes. A byte order mark at the front does not count. -/
def parse (s : String) : Option Entries := do
  let cs := match s.toList with
    | '\ufeff' :: cs => cs
    | cs => cs
  let (pairs, rest) := sections (← readLines (cs.length + 1) cs)
  rest.foldlM addSection (← assignAll .header [] pairs)

end SymbolIndex.Toml
