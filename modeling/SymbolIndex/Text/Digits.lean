/-!
# Digits

Reading and writing of numbers in decimal and hexadecimal digits.
-/

namespace SymbolIndex.Text

def isDigit (c : Char) : Bool := '0' ≤ c && c ≤ '9'

def hexValue (c : Char) : Option Nat :=
  if '0' ≤ c ∧ c ≤ '9' then some (c.toNat - '0'.toNat)
  else if 'a' ≤ c ∧ c ≤ 'f' then some (c.toNat - 'a'.toNat + 10)
  else if 'A' ≤ c ∧ c ≤ 'F' then some (c.toNat - 'A'.toNat + 10)
  else none

/-- The value of a row of decimal digits. -/
def decimalValue (ds : List Char) : Nat := ds.foldl (fun n d => n * 10 + (d.toNat - '0'.toNat)) 0

/-- The value of a row of digits of a base up to sixteen, if there is at least one and all are. -/
def valueInBase? (base : Nat) (ds : List Char) : Option Nat :=
  if ds.isEmpty then none
  else ds.foldlM (fun n d => do
    let v ← hexValue d
    if v < base then some (n * base + v) else none) 0

/-- Hexadecimal digits of a number, in lower case and without leading zeros. -/
def hexDigits (n : Nat) : List Char := Nat.toDigits 16 n

/-- Hexadecimal digits of a number, in upper case and without leading zeros. -/
def upperHexDigits (n : Nat) : List Char := (hexDigits n).map Char.toUpper

end SymbolIndex.Text
