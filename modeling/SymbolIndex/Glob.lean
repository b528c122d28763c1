import SymbolIndex.Regex.Basic
import SymbolIndex.Text.Utf8

/-!
# Globs

A glob matches whole texts, byte by byte. A star matches any bytes, a question mark one byte, a set
in brackets one of its bytes, and braces hold alternatives. Two stars that are a whole path component
match any number of components. `Glob.toRegex?` gives the expression over bytes that a glob stands
for, unless the glob is malformed.
-/

namespace SymbolIndex.Glob

open Text

/-- The bytes of a character. -/
def bytes (c : Char) : List Nat := (Utf8.encode [c]).map UInt8.toNat

/-- The character that separates path components. -/
def separator : Char := '/'

/-- A set with both cases of the ASCII letters in it, unless case counts. -/
def fold (caseSensitive : Bool) (s : CodeSet) : CodeSet :=
  if caseSensitive then s else .caselessAscii s

/-- Matches a character by its bytes. -/
def literal (caseSensitive : Bool) (c : Char) : Regex :=
  .seqs ((bytes c).map fun b => .one (fold caseSensitive (.single b)))

def anyByte : Regex := .one (.complement .empty)

/-- The bytes of a range. A range reaches from the last byte of its low end to the first byte of its
high end; the other bytes stand for themselves. -/
def rangeBytes (low high : Char) : List (Nat × Nat) :=
  let single (b : Nat) := (b, b)
  if low = high then (bytes low).map single
  else
    match (bytes low).getLast?, bytes high with
    | some a, b :: rest => (bytes low).dropLast.map single ++ (a, b) :: rest.map single
    | _, _ => []

/-- A part of a glob. -/
inductive Token where
  | piece (r : Regex)
  /-- Any components at the start. -/
  | leading
  /-- Any components at the end. -/
  | trailing
  /-- Any components in between. -/
  | inner

namespace Token

def star : Token := piece .anything

/-- The expression of a token. -/
def toRegex : Token → Regex
  | piece r => r
  | leading => .alt (.repeated slash 0 (some 1)) (.seq .anything slash)
  | trailing => .seq slash .anything
  | inner => .alt slash (.seq slash (.seq .anything slash))
where
  slash : Regex := .symbol separator.toNat

/-- The expression of tokens one after another. Those that stand for nothing are left out. -/
def join (ts : List Token) : Regex :=
  .seqs ((ts.map toRegex).filter fun
    | .empty => false
    | _ => true)

/-- The choice between the alternatives in braces. An alternative that stands for nothing is none,
and without alternatives the braces stand for nothing. -/
def choice (branches : List (List Token)) : Token :=
  let rs := (branches.map join).filter fun
    | .empty => false
    | _ => true
  piece (if rs.isEmpty then .empty else .alts rs)

end Token

/-- The content of braces that are open: the tokens before them and the finished alternatives, the
last of each first. -/
structure Brace where
  before : List Token
  branches : List (List Token) := []

/-- What has been read of a glob: the tokens of the current alternative, the last one first, the
open braces, the innermost first, and the character that was read last. -/
structure Reading where
  tokens : List Token := []
  braces : List Brace := []
  last : Option Char := none

namespace Reading

def push (r : Reading) (t : Token) : Reading := { r with tokens := t :: r.tokens }

/-- Notes the character that was read last. -/
def after (r : Reading) (c : Char) : Reading := { r with last := some c }

/-- Adds a token that stands for components after others; it takes the place of the separator
before it. -/
def pushComponents (r : Reading) (t : Token) : Reading :=
  match r.tokens with
  | .leading :: _ | .trailing :: _ | [] => r
  | _ :: ts => { r with tokens := t :: ts }

/-- Whether two stars may start a component here, after other tokens. -/
def atComponent (r : Reading) : Bool :=
  r.last == some separator || (!r.braces.isEmpty && (r.last == some ',' || r.last == some '\x7b'))

/-- Takes a star and what belongs to it; the characters after the star are given. -/
def takeStar (r : Reading) (cs : List Char) : Reading × List Char :=
  match cs with
  | '*' :: rest =>
    let twoStars := (((r.push .star).push .star).after '*', rest)
    if r.tokens.isEmpty then
      match rest with
      | [] => (r.push .leading, [])
      | '/' :: rest => ((r.push .leading).after '/', rest)
      | _ => twoStars
    else if !r.atComponent then twoStars
    else
      match rest with
      | [] => (r.pushComponents .trailing, [])
      | '/' :: rest => ((r.pushComponents .inner).after '/', rest)
      | c :: _ =>
        if !r.braces.isEmpty && (c == ',' || c == '\x7d') then
          ((r.pushComponents .trailing).after '*', rest)
        else twoStars
  | _ => ((r.push .star).after '*', cs)

/-- Closes the innermost braces. -/
def closeBrace? (r : Reading) : Option Reading :=
  match r.braces with
  | [] => none
  | b :: bs =>
    let branches := (r.tokens :: b.branches).reverse.map List.reverse
    some { r with tokens := .choice branches :: b.before, braces := bs }

/-- Takes a comma, which separates alternatives inside braces and stands for itself elsewhere. -/
def takeComma (r : Reading) (caseSensitive : Bool) : Reading :=
  match r.braces with
  | [] => r.push (.piece (literal caseSensitive ','))
  | b :: bs => { r with tokens := [], braces := { b with branches := r.tokens :: b.branches } :: bs }

end Reading

/-- The ranges of a set in brackets, the last one first, with its closing bracket still to come.
`first` holds at the front, where a bracket or hyphen stands for itself, and `open'` after a hyphen
that waits for the high end of the last range. -/
def readRanges (first waiting : Bool) (ranges : List (Char × Char)) :
    List Char → Option (List (Char × Char) × List Char)
  | [] => none
  | c :: cs =>
    if first then readRanges false false ((c, c) :: ranges) cs
    else if c = ']' then some (if waiting then ('-', '-') :: ranges else ranges, cs)
    else if waiting then
      match ranges with
      | (low, _) :: more => if low ≤ c then readRanges false false ((low, c) :: more) cs else none
      | [] => none
    else if c = '-' then readRanges false true ranges cs
    else readRanges false false ((c, c) :: ranges) cs

/-- Reads a set after its opening bracket. -/
def readSet (caseSensitive : Bool) (cs : List Char) : Option (Regex × List Char) := do
  let (negated, cs) := match cs with
    | '!' :: rest | '^' :: rest => (true, rest)
    | cs => (false, cs)
  let (ranges, rest) ← readRanges true false [] cs
  let s := fold caseSensitive (.ranges (ranges.flatMap fun r => rangeBytes r.1 r.2))
  return (.one (if negated then .complement s else s), rest)

/-- Reads a glob. Every step takes a character, so its length bounds their number. -/
def readAll (caseSensitive : Bool) : Nat → Reading → List Char → Option Reading
  | _, r, [] => some r
  | 0, _, _ => none
  | fuel + 1, r, c :: cs =>
    match c with
    | '?' => readAll caseSensitive fuel ((r.push (.piece anyByte)).after c) cs
    | '*' =>
      let (r, rest) := r.takeStar cs
      readAll caseSensitive fuel r rest
    | '[' => do
      let (set, rest) ← readSet caseSensitive cs
      readAll caseSensitive fuel ((r.push (.piece set)).after ']') rest
    | '\x7b' =>
      readAll caseSensitive fuel { tokens := [], braces := ⟨r.tokens, []⟩ :: r.braces, last := some c }
        cs
    | '\x7d' => do readAll caseSensitive fuel ((← r.closeBrace?).after c) cs
    | ',' => readAll caseSensitive fuel ((r.takeComma caseSensitive).after c) cs
    | '\\' =>
      match cs with
      | [] => none
      | d :: rest =>
        readAll caseSensitive fuel ((r.push (.piece (literal caseSensitive d))).after d) rest
    | c => readAll caseSensitive fuel ((r.push (.piece (literal caseSensitive c))).after c) cs

/-- The expression over bytes of a glob. A glob of two stars alone matches everything. -/
def toRegex? (caseSensitive : Bool) (cs : List Char) : Option Regex := do
  let r ← readAll caseSensitive cs.length {} cs
  if r.braces.isEmpty then
    let body := match r.tokens with
      | [.leading] => .anything
      | ts => Token.join ts.reverse
    return .seq (.look .textStart) (.seq body (.look .textEnd))
  else none

end SymbolIndex.Glob
