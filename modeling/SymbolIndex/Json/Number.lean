import SymbolIndex.Text.Digits

/-!
# JSON numbers

The parts of a number as it is spelled, and the range of numbers that fit a double. A number is out
of range when the double for its leading digits, multiplied by the double for its power of ten, is
no finite double.
-/

namespace SymbolIndex.Json

/-- The spelling of a number. -/
structure NumberLiteral where
  negative : Bool
  integer : List Char
  fraction : List Char
  /-- The sign and the digits of the exponent, where one is written. -/
  exponent : Option (Bool × List Char)
  deriving Repr

namespace NumberLiteral

/-- The leading digits of a number, as far as they fit 64 bits, and the power of ten that they are
multiplied by. -/
def significand (n : NumberLiteral) : Nat × Int :=
  let limit := 1 <<< 64
  let step (s : Nat × Int × Bool) (d : Char) : Nat × Int × Bool :=
    let next := s.1 * 10 + (d.toNat - '0'.toNat)
    if s.2.2 || limit ≤ next then (s.1, s.2.1 + 1, true) else (next, s.2.1, false)
  let (whole, dropped, _) := n.integer.foldl step (0, 0, false)
  let stepFraction (s : Nat × Int × Bool) (d : Char) : Nat × Int × Bool :=
    let next := s.1 * 10 + (d.toNat - '0'.toNat)
    if s.2.2 || limit ≤ next then (s.1, s.2.1, true) else (next, s.2.1 - 1, false)
  let (all, power, _) := n.fraction.foldl stepFraction (whole, dropped, false)
  (all, power)

/-- The nearest number with at most 53 binary digits, an even one where two are equally near. -/
def toBinary53 (n : Nat) : Nat :=
  if n < 1 <<< 53 then n
  else
    let shift := n.log2 - 52
    let kept := n >>> shift
    let lost := n - (kept <<< shift)
    let half := 1 <<< (shift - 1)
    let rounded := if half < lost || (lost == half && kept % 2 == 1) then kept + 1 else kept
    rounded <<< shift

/-- Whether the number fits a double. -/
def isFinite (n : NumberLiteral) : Bool :=
  let (digits, power) := n.significand
  let exponent : Int := match n.exponent with
    | none => 0
    | some (negative, ds) => if negative then -(Text.decimalValue ds : Int) else Text.decimalValue ds
  let power := power + exponent
  digits == 0 || power < 0 ||
    (power ≤ 308 &&
      toBinary53 digits * toBinary53 (Nat.pow 10 power.toNat) < (1 <<< 1024) - (1 <<< 970))

/-- The number as it is spelled; `e` stands for either case of the exponent's letter. -/
def spelling (n : NumberLiteral) : String :=
  String.ofList <|
    (if n.negative then ['-'] else []) ++ n.integer ++
    (if n.fraction.isEmpty then [] else '.' :: n.fraction) ++
    (match n.exponent with
      | none => []
      | some (negative, ds) => 'e' :: (if negative then ['-'] else []) ++ ds)

end NumberLiteral

/-- A number without sign, fraction and exponent. -/
def ofNat (n : Nat) : NumberLiteral := ⟨false, Nat.toDigits 10 n, [], none⟩

end SymbolIndex.Json
