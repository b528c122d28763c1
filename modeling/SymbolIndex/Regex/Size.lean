import SymbolIndex.Regex.Reader

/-!
# The size of a regular expression

The limit that programs run with. `size` estimates the bytes that the automaton of an expression
takes: 32 for a state, one state for a byte of a text, and two of them for an edge of the tree of the
texts in a choice. Nothing is proved from the estimate: what is proved holds of every limit.
-/

namespace SymbolIndex

open Text

/-- The number of bytes that encode a code point. -/
def byteCount (n : Nat) : Nat :=
  if n < 0x80 then 1 else if n < 0x800 then 2 else if n < 0x10000 then 3 else 4

namespace Text.CodeSet

/-- The memory for the transitions of a set. -/
def size : CodeSet → Nat
  | table t => (t.ranges.map fun r => if r.2 < 0x80 then 8 else 64).sum
  | complement s => s.size + 400
  | union s t | inter s t => s.size + t.size
  | caseless s | caselessAscii s => 2 * s.size

/-- The only member of a set that is written as one. -/
def single? : CodeSet → Option Nat
  | table ⟨[(low, high)]⟩ => if low = high then some low else none
  | _ => none

end Text.CodeSet

namespace Regex

/-- Whether the expression matches the empty stretch alone. -/
def isZeroWidth : Regex → Bool
  | empty | look _ => true
  | one _ => false
  | seq r s | alt r s => r.isZeroWidth && s.isZeroWidth
  | repeated r _ most => r.isZeroWidth || most == some 0

def text? : Regex → Option (List Nat)
  | empty => some []
  | one s => s.single?.map ([·])
  | seq r s => do return (← r.text?) ++ (← s.text?)
  | _ => none

def texts? : Regex → Option (List (List Nat))
  | alt r s => do return (← r.texts?) ++ (← s.texts?)
  | r => r.text?.map ([·])

def commonLength : List Nat → List Nat → Nat
  | m :: ms, n :: ns => if m = n then commonLength ms ns + 1 else 0
  | _, _ => 0

/-- The bytes of sorted texts, where those that a text has in common with the text before it are
counted once. -/
def treeBytes (before : List Nat) : List (List Nat) → Nat
  | [] => 0
  | text :: texts =>
    ((text.drop (commonLength before text)).map byteCount).sum + treeBytes text texts

/-- The memory for an expression. -/
def size : Regex → Nat
  | empty => 0
  | one s => (s.single?.map (32 * byteCount ·)).getD (24 + s.size)
  | look _ => 32
  | seq r s => r.size + s.size
  | alt r s =>
    match (alt r s).texts? with
    | some texts => 68 * treeBytes [] (texts.mergeSort (· ≤ ·))
    | none => r.size + s.size + 40
  | repeated r least most =>
    if r.isZeroWidth then r.size + 40
    else
      match most with
      | none => max least 1 * r.size + 40
      | some most => most * r.size + (most - least) * 40

/-- The memory that an expression may take. -/
def maxSize : Nat := 10 * (1 <<< 20)

instance : Limit where
  admits cs := (read? cs).all (·.size ≤ maxSize)

end Regex

end SymbolIndex
