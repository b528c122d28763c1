import SymbolIndex.Text.Property

/-!
# Conditions on a position

A look matches no symbol. Whether it holds at a position depends on the symbol before and the symbol
after the position alone; at the ends of a text one of them is missing.
-/

namespace SymbolIndex

/-- How the two sides of a position have to differ in belonging to a word. -/
inductive Edge where
  /-- One side belongs to a word and the other does not. -/
  | either
  /-- Both sides belong to a word or neither does. -/
  | neither
  /-- A word starts here. -/
  | start
  /-- A word stops here. -/
  | stop
  /-- No word comes up to here. -/
  | startHalf
  /-- No word goes on from here. -/
  | stopHalf
  deriving Repr, DecidableEq

/-- A condition on a position of a text. -/
inductive Look where
  | textStart
  | textEnd
  /-- After a line feed or at the start. -/
  | lineStart
  /-- Before a line feed or at the end. -/
  | lineEnd
  /-- After a line break or at the start, where a carriage return is a break too and a line feed
  after one belongs to it. -/
  | breakStart
  /-- Before a line break or at the end. -/
  | breakEnd
  /-- An edge of words, whose symbols are of the given set. -/
  | wordEdge (word : Text.CodeSet) (edge : Edge)
  deriving Repr, DecidableEq

namespace Edge

/-- Whether the edge lies between a symbol that belongs to a word or not and one that does or
does not. -/
def holds : Edge → Bool → Bool → Bool
  | either, before, after => before != after
  | neither, before, after => before == after
  | start, before, after => !before && after
  | stop, before, after => before && !after
  | startHalf, before, _ => !before
  | stopHalf, _, after => !after

end Edge

namespace Look

def lineFeed : Nat := 0x0A

def carriageReturn : Nat := 0x0D

def holds : Look → Option Nat → Option Nat → Bool
  | textStart, before, _ => before.isNone
  | textEnd, _, after => after.isNone
  | lineStart, before, _ => before.isNone || before == some lineFeed
  | lineEnd, _, after => after.isNone || after == some lineFeed
  | breakStart, before, after =>
    before.isNone || before == some lineFeed ||
      (before == some carriageReturn && after != some lineFeed)
  | breakEnd, before, after =>
    after.isNone || after == some carriageReturn ||
      (after == some lineFeed && before != some carriageReturn)
  | wordEdge word edge, before, after => edge.holds (before.any word.mem) (after.any word.mem)

end Look

end SymbolIndex
