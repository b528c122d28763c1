import SymbolIndex.Text.Lowercase.Table

/-!
# Caseless comparison of characters

Two characters are variants of one another when their keys agree: the key is the lowercase form of
one character, but for a few letters that share the lowercase form of another one. `variants`
lists the characters of one key.
-/

namespace SymbolIndex.Text

namespace CaseRun

/-- What the run maps a code point to, if it maps it. -/
def apply (r : CaseRun) (code : Nat) : Option Nat :=
  if r.first ≤ code ∧ code ≤ r.last ∧ (code - r.first) % r.step = 0 then
    some (r.image + (code - r.first))
  else none

/-- The code point that the run maps to `code`, if there is one. -/
def source (r : CaseRun) (code : Nat) : Option Nat :=
  if r.image ≤ code ∧ code - r.image ≤ r.last - r.first ∧ (code - r.image) % r.step = 0 then
    some (r.first + (code - r.image))
  else none

end CaseRun

/-- The lowercase form of a code point, where that is one character. -/
def lowercaseCode (code : Nat) : Nat :=
  (lowercaseRuns.findSome? (·.apply code)).getD code

/-- Letters without a lowercase form that are still variants of a lowercase letter: the long s,
the final sigma, symbols that are Greek letters, and old forms of Cyrillic letters. -/
def sharedLowercase : List (Nat × Nat) :=
  [(0xB5, 0x3BC), (0x17F, 0x73), (0x345, 0x3B9), (0x3C2, 0x3C3), (0x3D0, 0x3B2), (0x3D1, 0x3B8),
   (0x3D5, 0x3C6), (0x3D6, 0x3C0), (0x3F0, 0x3BA), (0x3F1, 0x3C1), (0x3F5, 0x3B5),
   (0x1C80, 0x432), (0x1C81, 0x434), (0x1C82, 0x43E), (0x1C83, 0x441), (0x1C84, 0x442),
   (0x1C85, 0x442), (0x1C86, 0x44A), (0x1C87, 0x463), (0x1C88, 0xA64B), (0x1E9B, 0x1E61),
   (0x1FBE, 0x3B9), (0x1FD3, 0x390), (0x1FE3, 0x3B0), (0xFB05, 0xFB06)]

/-- The character that stands for all case variants of a code point. -/
def caseKey (code : Nat) : Nat := (sharedLowercase.lookup code).getD (lowercaseCode code)

/-- The case variants of a code point, itself among them. -/
def variants (code : Nat) : List Nat :=
  let key := caseKey code
  let candidates := key :: lowercaseRuns.filterMap (·.source key) ++
    (sharedLowercase.filter (·.2 == key)).map (·.1)
  candidates.filter (caseKey · == key)

/-- The case variants of a code point that differ from it by an ASCII letter's case only. -/
def asciiVariants (code : Nat) : List Nat :=
  if 0x41 ≤ code ∧ code ≤ 0x5A then [code, code + 0x20]
  else if 0x61 ≤ code ∧ code ≤ 0x7A then [code, code - 0x20]
  else [code]

example : variants 0x4B = [0x6B, 0x4B, 0x212A] := by decide

end SymbolIndex.Text
