import SymbolIndex.Regex.Look

/-!
# Regular expressions

A regular expression matches stretches of a text, which is a list of symbols. The symbols are
numbers: code points where texts are matched character by character, and bytes where they are
matched byte by byte. Whether a repetition prefers few or many rounds has no influence on whether
there is a match, so expressions do not tell.
-/

namespace SymbolIndex

open Text

inductive Regex where
  /-- Matches the empty stretch. -/
  | empty
  /-- Matches one symbol of a set. -/
  | one (s : CodeSet)
  /-- Matches the empty stretch where a condition holds. -/
  | look (l : Look)
  /-- A match of `r` and a match of `s` after it. -/
  | seq (r s : Regex)
  /-- A match of `r` or a match of `s`. -/
  | alt (r s : Regex)
  /-- Matches of `r` one after another, at least `least` and, where it is given, at most `most`. -/
  | repeated (r : Regex) (least : Nat) (most : Option Nat)
  deriving Repr, Inhabited

namespace Regex

def symbol (n : Nat) : Regex := one (.single n)

def literal (symbols : List Nat) : Regex := symbols.foldr (fun n r => seq (symbol n) r) empty

def anything : Regex := repeated (one (.complement .empty)) 0 none

def seqs : List Regex → Regex
  | [] => empty
  | [r] => r
  | r :: rs => seq r (seqs rs)

/-- Matches what one of the expressions does; none matches nothing. -/
def alts : List Regex → Regex
  | [] => one .empty
  | [r] => r
  | r :: rs => alt r (alts rs)

end Regex

end SymbolIndex
