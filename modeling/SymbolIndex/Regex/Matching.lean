import SymbolIndex.Regex.Basic

/-!
# Matching

A set of positions of a text is a number whose bit `i` is set when the position before symbol `i` is
in the set. `image` sends the set of the positions where a match may start to the set of those where
such a match may stop, so one walk through the expression follows all matches at once.
-/

namespace SymbolIndex.Regex

open Text

/-- The positions after one symbol that passes the test. The text and the positions start at the
same place. -/
def advance (test : Nat → Bool) : List Nat → Nat → Nat
  | [], _ => 0
  | c :: cs, positions =>
    if positions = 0 then 0
    else
      let here := if positions % 2 = 1 && test c then 1 else 0
      (here ||| advance test cs (positions / 2)) <<< 1

/-- The positions where a test of the symbols on both sides passes. -/
def restrict (test : Option Nat → Option Nat → Bool) : Option Nat → List Nat → Nat → Nat
  | before, [], positions => if positions % 2 = 1 && test before none then 1 else 0
  | before, c :: cs, positions =>
    if positions = 0 then 0
    else
      let here := if positions % 2 = 1 && test before (some c) then 1 else 0
      here ||| (restrict test (some c) cs (positions / 2)) <<< 1

/-- The positions after `n` rounds, unless a round changes nothing before. -/
def rounds (step : Nat → Nat) : Nat → Nat → Nat
  | 0, positions => positions
  | n + 1, positions =>
    let next := step positions
    if next = positions then positions else rounds step n next

/-- The positions after `n` rounds or fewer. -/
def roundsUpTo (step : Nat → Nat) : Nat → Nat → Nat
  | 0, positions => positions
  | n + 1, positions =>
    let next := positions ||| step positions
    if next = positions then positions else roundsUpTo step n next

/-- Where matches may stop that start at one of the positions. A round that goes on stops further
to the right, so no more rounds can do so than there are symbols. -/
def image (text : List Nat) : Regex → Nat → Nat
  | empty, positions => positions
  | one s, positions => advance s.mem text positions
  | look l, positions => restrict l.holds none text positions
  | seq r s, positions => image text s (image text r positions)
  | alt r s, positions => image text r positions ||| image text s positions
  | repeated r least most, positions =>
    let further := match most with
      | some most => most - least
      | none => text.length
    roundsUpTo (image text r) further (rounds (image text r) least positions)

def everywhere (text : List Nat) : Nat := (1 <<< (text.length + 1)) - 1

/-- Whether some stretch of a text matches. -/
def matchesIn (r : Regex) (text : List Nat) : Bool := r.image text (everywhere text) != 0

end SymbolIndex.Regex
