/-!
# Tables of code points

A property of characters is kept as a table of inclusive code-point ranges. A table is written as
text, the way the character database prints it: hexadecimal numbers and `low-high` pairs separated
by blanks. `RangeTable.ofText` reads that form, and `contains` decides membership.
-/

namespace SymbolIndex.Text

/-- Inclusive ranges of code points. -/
structure RangeTable where
  ranges : List (Nat × Nat)
  deriving Repr, DecidableEq, Inhabited

namespace RangeTable

def contains (t : RangeTable) (code : Nat) : Bool :=
  t.ranges.any fun r => r.1 ≤ code && code ≤ r.2

def append (s t : RangeTable) : RangeTable := ⟨s.ranges ++ t.ranges⟩

instance : Append RangeTable := ⟨append⟩

@[simp] theorem contains_append (s t : RangeTable) (code : Nat) :
    (s ++ t).contains code = (s.contains code || t.contains code) := by
  show (append s t).contains code = _
  simp [append, contains]

/-- The value of a hexadecimal digit; any other character counts as zero. -/
def digitValue (c : Char) : Nat :=
  if '0' ≤ c && c ≤ '9' then c.toNat - '0'.toNat
  else if 'A' ≤ c && c ≤ 'F' then c.toNat - 'A'.toNat + 10
  else 0

/-- The range under construction while a table's text is read: the number read last and, after a
hyphen, the number before it. -/
structure Pending where
  low : Option Nat
  number : Nat

/-- Reads the rest of a table's text; the ranges so far come in reverse. -/
def readRanges : List Char → Option Pending → List (Nat × Nat) → List (Nat × Nat)
  | [], none, found => found.reverse
  | [], some p, found => ((p.low.getD p.number, p.number) :: found).reverse
  | c :: rest, none, found =>
    if c.isWhitespace then readRanges rest none found
    else readRanges rest (some ⟨none, digitValue c⟩) found
  | c :: rest, some p, found =>
    if c.isWhitespace then readRanges rest none ((p.low.getD p.number, p.number) :: found)
    else if c = '-' then readRanges rest (some ⟨some p.number, 0⟩) found
    else readRanges rest (some ⟨p.low, p.number * 16 + digitValue c⟩) found

/-- The table that a text of hexadecimal ranges describes. -/
def ofText (s : String) : RangeTable := ⟨readRanges s.toList none []⟩

example : (ofText "41-5A AA").ranges = [(0x41, 0x5A), (0xAA, 0xAA)] := by decide

end RangeTable

end SymbolIndex.Text
