import SymbolIndex.Text.Folding
import SymbolIndex.Text.Property

/-!
# Lowercase text

The lowercase form of a text maps each character on its own, with two rules beyond the table: the
dotted capital I becomes two characters, and a capital sigma at the end of a word becomes the final
sigma. A sigma ends a word when a cased character stands before it and none after it, where
case-ignorable characters do not count.
-/

namespace SymbolIndex.Text

def isCased (c : Char) : Bool :=
  if c.toNat < 0x80 then c.isAlpha else Property.cased.mem c.toNat

/-- Whether a character is skipped when the case of its neighbours is looked at. -/
def isCaseIgnorable (c : Char) : Bool :=
  if c.toNat < 0x80 then ['\'', '.', ':', '^', '\x60'].contains c
  else Property.caseIgnorable.mem c.toNat

def lowercaseChar (c : Char) : List Char :=
  if c = 'İ' then ['i', '\u0307'] else [Char.ofNat (lowercaseCode c.toNat)]

/-- Whether the next character that is not case-ignorable has a case. -/
def startsCased : List Char → Bool
  | [] => false
  | c :: cs => if isCaseIgnorable c then startsCased cs else isCased c

/-- The lowercase form of the rest of a text. `afterCased` tells whether the last character so far
that is not case-ignorable has a case. -/
def lowercaseFrom (afterCased : Bool) : List Char → List Char
  | [] => []
  | c :: cs =>
    let mapped := if c = 'Σ' then [if afterCased && !startsCased cs then 'ς' else 'σ']
      else lowercaseChar c
    let afterCased := if isCaseIgnorable c then afterCased else isCased c
    mapped ++ lowercaseFrom afterCased cs

def lowercase (s : String) : String := String.ofList (lowercaseFrom false s.toList)

end SymbolIndex.Text
