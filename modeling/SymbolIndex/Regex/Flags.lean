import SymbolIndex.Regex.Look
import SymbolIndex.Text.Blank
import SymbolIndex.Text.Property

/-!
# Flags of a pattern

Flags change what the rest of a pattern means. They are switched on and off inside the pattern, for
one group or for the rest of the group around them.
-/

namespace SymbolIndex.Regex

open Text

/-- A flag that a pattern may switch. -/
inductive Flag where
  /-- Letters match in either case. -/
  | caseless
  /-- Anchors match at lines. -/
  | multiLine
  /-- The dot matches line feeds too. -/
  | dotAll
  /-- Repetitions prefer few rounds, which changes no match. -/
  | lazy
  /-- Sets and boundaries know all characters and not ASCII alone. -/
  | unicode
  /-- Lines end with a carriage return too. -/
  | returns
  /-- Blanks and comments in the pattern are skipped. -/
  | spaced
  deriving Repr, DecidableEq

def Flag.ofChar? : Char → Option Flag
  | 'i' => some .caseless
  | 'm' => some .multiLine
  | 's' => some .dotAll
  | 'U' => some .lazy
  | 'u' => some .unicode
  | 'R' => some .returns
  | 'x' => some .spaced
  | _ => none

/-- The flags that are on. -/
structure Flags where
  caseless : Bool := false
  multiLine : Bool := false
  dotAll : Bool := false
  unicode : Bool := true
  returns : Bool := false
  spaced : Bool := false
  deriving Repr, DecidableEq

namespace Flags

def set (f : Flags) (flag : Flag) (on : Bool) : Flags :=
  match flag with
  | .caseless => { f with caseless := on }
  | .multiLine => { f with multiLine := on }
  | .dotAll => { f with dotAll := on }
  | .lazy => f
  | .unicode => { f with unicode := on }
  | .returns => { f with returns := on }
  | .spaced => { f with spaced := on }

/-- A set with all case variants of its members, where letters match in either case. -/
def fold (f : Flags) (s : CodeSet) : CodeSet :=
  if f.caseless then (if f.unicode then .caseless s else .caselessAscii s) else s

/-- The complement of a set, if `negated`. Without Unicode there is none, for it would cut
characters into bytes. -/
def negate? (f : Flags) (negated : Bool) (s : CodeSet) : Option CodeSet :=
  if negated then (if f.unicode then some (.complement s) else none) else some s

/-- The ASCII letters and digits and the low line. -/
def asciiWord : CodeSet := .ranges [(0x30, 0x39), (0x41, 0x5A), (0x5F, 0x5F), (0x61, 0x7A)]

def word (f : Flags) : CodeSet := if f.unicode then Property.word else asciiWord

def digit (f : Flags) : CodeSet :=
  if f.unicode then .table GeneralCategory.decimalNumberTable else .ranges [(0x30, 0x39)]

def space (f : Flags) : CodeSet :=
  if f.unicode then Property.whiteSpace else .ranges [(0x09, 0x0D), (0x20, 0x20)]

/-- What a dot matches. Without Unicode it would match bytes, and is refused. -/
def dot? (f : Flags) : Option CodeSet :=
  if !f.unicode then none
  else some <| .complement <|
    if f.dotAll then .empty
    else if f.returns then .ranges [(Look.lineFeed, Look.lineFeed),
      (Look.carriageReturn, Look.carriageReturn)]
    else .single Look.lineFeed

/-- What a circumflex stands for. -/
def startAnchor (f : Flags) : Look :=
  if !f.multiLine then .textStart else if f.returns then .breakStart else .lineStart

/-- What a dollar sign stands for. -/
def endAnchor (f : Flags) : Look :=
  if !f.multiLine then .textEnd else if f.returns then .breakEnd else .lineEnd

/-- Drops blanks and comments from the front of a pattern; a comment reaches from a number sign to
the end of the line. -/
def dropIgnored : (inComment : Bool) → List Char → List Char
  | _, [] => []
  | true, c :: cs => dropIgnored (c != '\n') cs
  | false, c :: cs =>
    if isBlankChar c then dropIgnored false cs
    else if c = '#' then dropIgnored true cs
    else c :: cs

/-- The pattern without what is ignored at its front. -/
def skip (f : Flags) (cs : List Char) : List Char := if f.spaced then dropIgnored false cs else cs

/-- What stands before a closing brace, without what is ignored, and what follows the brace. -/
def takeBraced (f : Flags) : (inComment : Bool) → List Char → Option (List Char × List Char)
  | _, [] => none
  | true, c :: cs => takeBraced f (c != '\n') cs
  | false, c :: cs =>
    if c = '\x7d' then some ([], cs)
    else if f.spaced && isBlankChar c then takeBraced f false cs
    else if f.spaced && c == '#' then takeBraced f true cs
    else (takeBraced f false cs).map fun p => (c :: p.1, p.2)

end Flags

/-- A directive that switches flags. -/
structure Directive where
  flags : Flags
  /-- Whether it switches none. -/
  isEmpty : Bool
  /-- Whether it closes its parenthesis, instead of going on with a colon. -/
  closed : Bool
  rest : List Char

/-- Reads the letters of a directive up to the character that ends them. `hyphen` tells whether a
hyphen came before, and whether it was the last character. -/
def readDirective (f : Flags) (seen : List Flag) (hyphen : Option Bool) :
    List Char → Option Directive
  | [] => none
  | c :: cs =>
    if c = ':' ∨ c = ')' then
      if hyphen = some true then none else some ⟨f, seen.isEmpty, c = ')', cs⟩
    else if c = '-' then
      if hyphen.isSome then none else readDirective f seen (some true) cs
    else
      match Flag.ofChar? c with
      | none => none
      | some flag =>
        if seen.contains flag then none
        else readDirective (f.set flag hyphen.isNone) (flag :: seen) (hyphen.map fun _ => false) cs

end SymbolIndex.Regex
