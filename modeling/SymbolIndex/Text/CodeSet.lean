import SymbolIndex.Text.RangeTable
import SymbolIndex.Text.Folding

/-!
# Sets of code points

A set of code points is a Boolean expression over tables. `mem` evaluates the expression at a code
point, so the operations need no normal form and their laws hold by definition.
-/

namespace SymbolIndex.Text

/-- A set of code points, as an expression. -/
inductive CodeSet where
  | table (t : RangeTable)
  /-- All others. -/
  | complement (s : CodeSet)
  | union (s t : CodeSet)
  | inter (s t : CodeSet)
  /-- The case variants of the members. -/
  | caseless (s : CodeSet)
  /-- The members and the ASCII letters that differ from one by case. -/
  | caselessAscii (s : CodeSet)
  deriving Repr, DecidableEq, Inhabited

namespace CodeSet

/-- Membership of a code point. -/
def mem : CodeSet → Nat → Bool
  | table t, n => t.contains n
  | complement s, n => !s.mem n
  | union s t, n => s.mem n || t.mem n
  | inter s t, n => s.mem n && t.mem n
  | caseless s, n => (variants n).any s.mem
  | caselessAscii s, n => (asciiVariants n).any s.mem

def ranges (rs : List (Nat × Nat)) : CodeSet := table ⟨rs⟩

def single (n : Nat) : CodeSet := ranges [(n, n)]

def empty : CodeSet := ranges []

def diff (s t : CodeSet) : CodeSet := inter s (complement t)

/-- The code points in exactly one of the sets. -/
def symmDiff (s t : CodeSet) : CodeSet := union (diff s t) (diff t s)

def unions (ss : List CodeSet) : CodeSet := ss.foldr union empty

@[simp] theorem mem_complement (s : CodeSet) (n : Nat) : (complement s).mem n = !s.mem n := rfl

@[simp] theorem mem_union (s t : CodeSet) (n : Nat) : (union s t).mem n = (s.mem n || t.mem n) :=
  rfl

@[simp] theorem mem_inter (s t : CodeSet) (n : Nat) : (inter s t).mem n = (s.mem n && t.mem n) :=
  rfl

@[simp] theorem mem_single (m n : Nat) : (single m).mem n = decide (n = m) := by
  simp only [single, ranges, mem, RangeTable.contains, List.any_cons, List.any_nil, Bool.or_false]
  by_cases h : n = m
  · simp [h]
  · simp only [h, decide_false, Bool.and_eq_false_iff, decide_eq_false_iff_not]
    omega

@[simp] theorem mem_empty (n : Nat) : empty.mem n = false := rfl

@[simp] theorem mem_unions (ss : List CodeSet) (n : Nat) :
    (unions ss).mem n = ss.any (·.mem n) := by
  induction ss with
  | nil => rfl
  | cons s ss ih =>
    show (s.mem n || (unions ss).mem n) = _
    rw [ih, List.any_cons]

end CodeSet

end SymbolIndex.Text
