/-!
# Styled text

Text for a terminal may be styled by escape sequences. A sequence sets the style and another one
takes it back; where the text takes a style back itself, the style is set again.
-/

namespace SymbolIndex.CommandLine

inductive Style where
  | bold
  | dimmed
  | green
  | yellow
  | cyan
  deriving Repr, DecidableEq

namespace Style

def sequence (n : Nat) : String := s!"\x1b[{n}m"

def number : Style → Nat
  | bold => 1
  | dimmed => 2
  | green => 32
  | yellow => 33
  | cyan => 36

/-- The sequence that takes styles back. -/
def reset : String := sequence 0

/-- Puts the style again after every place where the text takes it back. -/
def restore (style : List Char) : List Char → List Char
  | '\x1b' :: '[' :: '0' :: 'm' :: cs => reset.toList ++ style ++ restore style cs
  | c :: cs => c :: restore style cs
  | [] => []

/-- A text in a style, if there are styles. -/
def apply (colored : Bool) (style : Style) (text : String) : String :=
  if colored then
    let start := sequence style.number
    start ++ String.ofList (restore start.toList text.toList) ++ reset
  else text

end Style

def padded (width : Nat) (text : String) : String :=
  text ++ String.ofList (List.replicate (width - text.length) ' ')

end SymbolIndex.CommandLine
