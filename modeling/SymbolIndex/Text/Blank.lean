import SymbolIndex.Text.RangeTable

/-!
# White space

Blank characters are those with the Unicode property of white space. A blank text names nothing:
lookups answer it without asking the index.
-/

namespace SymbolIndex.Text

/-- The twenty-five characters of white space. -/
def whiteSpaceTable : RangeTable :=
  ⟨[(0x09, 0x0D), (0x20, 0x20), (0x85, 0x85), (0xA0, 0xA0), (0x1680, 0x1680), (0x2000, 0x200A),
    (0x2028, 0x2029), (0x202F, 0x202F), (0x205F, 0x205F), (0x3000, 0x3000)]⟩

def isBlankChar (c : Char) : Bool := whiteSpaceTable.contains c.toNat

/-- Whether a text is empty or holds white space only. -/
def isBlank (s : String) : Bool := s.toList.all isBlankChar

/-- A text without the white space at its front. -/
def dropBlank (cs : List Char) : List Char := cs.dropWhile isBlankChar

@[simp] theorem isBlank_empty : isBlank "" = true := by decide

end SymbolIndex.Text
