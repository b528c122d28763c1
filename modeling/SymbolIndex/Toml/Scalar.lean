import SymbolIndex.Text.Digits
import SymbolIndex.Toml.Basic

/-!
# TOML scalars

Reading texts, numbers, dates and times. Every reader takes what it reads from the front of the
characters and gives the rest.
-/

namespace SymbolIndex.Toml

open Text (isDigit hexValue decimalValue valueInBase?)

def isBlank (c : Char) : Bool := c == ' ' || c == '\t'

def skipBlanks (cs : List Char) : List Char := cs.dropWhile isBlank

def isCommentChar (c : Char) : Bool := c == '\t' || (0x20 ≤ c.toNat && c.toNat ≠ 0x7F)

/-- Drops blanks, line breaks and comments. -/
def skipFiller : (inComment : Bool) → List Char → List Char
  | _, '\n' :: cs => skipFiller false cs
  | _, '\r' :: '\n' :: cs => skipFiller false cs
  | true, c :: cs => if isCommentChar c then skipFiller true cs else c :: cs
  | false, c :: cs =>
    if isBlank c then skipFiller false cs
    else if c = '#' then skipFiller true cs
    else c :: cs
  | _, [] => []

/-- Whether a character stands for itself in a text; quotation marks and backslashes are told apart
before. -/
def isTextChar (c : Char) : Bool := isCommentChar c

/-- Reads the code point of an escape: exactly `count` digits. -/
def readCodePoint (count : Nat) (cs : List Char) : Option (Char × List Char) := do
  let ds := cs.take count
  if ds.length = count then
    let n ← valueInBase? 16 ds
    if n.isValidChar then return (Char.ofNat n, cs.drop count) else none
  else none

def readEscape : List Char → Option (Char × List Char)
  | 'b' :: cs => some ('\x08', cs)
  | 't' :: cs => some ('\t', cs)
  | 'n' :: cs => some ('\n', cs)
  | 'f' :: cs => some ('\x0c', cs)
  | 'r' :: cs => some ('\r', cs)
  | '"' :: cs => some ('"', cs)
  | '\\' :: cs => some ('\\', cs)
  | 'u' :: cs => readCodePoint 4 cs
  | 'U' :: cs => readCodePoint 8 cs
  | _ => none

/-- Reads a text of one line after its opening mark. Backslashes escape between double marks. -/
def readLineText (mark : Char) : Nat → List Char → Option (List Char × List Char)
  | 0, _ => none
  | _, [] => none
  | fuel + 1, c :: cs =>
    if c = mark then some ([], cs)
    else if c = '\\' ∧ mark = '"' then do
      let (e, rest) ← readEscape cs
      let (s, rest) ← readLineText mark fuel rest
      return (e :: s, rest)
    else if isTextChar c then (readLineText mark fuel cs).map fun p => (c :: p.1, p.2)
    else none

def skipBreaks : List Char → List Char
  | '\n' :: cs => skipBreaks cs
  | '\r' :: '\n' :: cs => skipBreaks cs
  | c :: cs => if isBlank c then skipBreaks cs else c :: cs
  | [] => []

def afterBreak? : List Char → Option (List Char)
  | '\n' :: cs => some cs
  | '\r' :: '\n' :: cs => some cs
  | _ => none

/-- Reads a text of several lines after its three opening marks. One or two marks stand for
themselves, also before the three closing ones. A backslash at the end of a line takes away the
break and the blanks after it. -/
def readLinesText (mark : Char) : Nat → List Char → Option (List Char × List Char)
  | 0, _ => none
  | _, [] => none
  | fuel + 1, c :: cs =>
    if c = mark then
      let marks := ((c :: cs).takeWhile (· == mark)).take 5
      let rest := (c :: cs).drop marks.length
      if 3 ≤ marks.length then some (marks.drop 3, rest)
      else (readLinesText mark fuel rest).map fun p => (marks ++ p.1, p.2)
    else
      match afterBreak? (c :: cs) with
      | some rest => (readLinesText mark fuel rest).map fun p => ('\n' :: p.1, p.2)
      | none =>
        if c = '\\' ∧ mark = '"' then
          match afterBreak? (skipBlanks cs) with
          | some rest => readLinesText mark fuel (skipBreaks rest)
          | none => do
            let (e, rest) ← readEscape cs
            let (s, rest) ← readLinesText mark fuel rest
            return (e :: s, rest)
        else if isTextChar c then (readLinesText mark fuel cs).map fun p => (c :: p.1, p.2)
        else none

/-- Reads a text with its marks. A line break after three opening marks does not count. -/
def readText : List Char → Option (List Char × List Char)
  | '"' :: '"' :: '"' :: cs => readLinesText '"' (cs.length + 1) ((afterBreak? cs).getD cs)
  | '\'' :: '\'' :: '\'' :: cs => readLinesText '\'' (cs.length + 1) ((afterBreak? cs).getD cs)
  | '"' :: cs => readLineText '"' (cs.length + 1) cs
  | '\'' :: cs => readLineText '\'' (cs.length + 1) cs
  | _ => none

/-- Reads digits with single low lines between them, and gives the digits alone. -/
def readDigits (isDigit : Char → Bool) : List Char → Option (List Char × List Char)
  | c :: '_' :: cs =>
    if isDigit c then (readDigits isDigit cs).map fun p => (c :: p.1, p.2) else none
  | c :: cs =>
    if isDigit c then
      match readDigits isDigit cs with
      | some (ds, rest) => some (c :: ds, rest)
      | none => if cs.head?.any isDigit then none else some ([c], cs)
    else none
  | [] => none

def readSign : List Char → Bool × List Char
  | '-' :: cs => (true, cs)
  | '+' :: cs => (false, cs)
  | cs => (false, cs)

/-- Reads the digits of a decimal number: zero, or digits of which the first is not zero. -/
def readDecimal : List Char → Option (List Char × List Char)
  | '0' :: cs => some (['0'], cs)
  | cs => readDigits isDigit cs

/-- The bound of whole numbers. -/
def integerBound : Nat := 1 <<< 63

/-- Reads the digits of a whole number in another base. -/
def readBase (base : Nat) (cs : List Char) : Option (Toml × List Char) := do
  let (ds, rest) ← readDigits (fun c => (hexValue c).any (· < base)) cs
  let n ← valueInBase? base ds
  if n < integerBound then return (integer n, rest) else none

def readInteger : List Char → Option (Toml × List Char)
  | '0' :: 'x' :: cs => readBase 16 cs
  | '0' :: 'o' :: cs => readBase 8 cs
  | '0' :: 'b' :: cs => readBase 2 cs
  | cs => do
    let (negative, cs) := readSign cs
    let (ds, rest) ← readDecimal cs
    let n := decimalValue ds
    if negative then (if n ≤ integerBound then return (integer (-n), rest) else none)
    else if n < integerBound then return (integer n, rest)
    else none

/-- Whether the number `digits` times ten to the power of `exponent` is too large for a double. -/
def overflows (digits : List Char) (exponent : Int) : Bool :=
  let digits := digits.dropWhile (· == '0')
  let magnitude := digits.length + exponent
  if digits.isEmpty || magnitude < 300 then false
  else if 310 < magnitude then true
  else
    let bound := (1 <<< 1024) - (1 <<< 970)
    if 0 ≤ exponent then bound ≤ decimalValue digits * Nat.pow 10 exponent.toNat
    else bound * Nat.pow 10 (-exponent).toNat ≤ decimalValue digits

def readExponent : List Char → Option (Int × List Char)
  | c :: cs =>
    if c = 'e' ∨ c = 'E' then do
      let (negative, cs) := readSign cs
      let (ds, rest) ← readDigits isDigit cs
      let n : Int := decimalValue ds
      return (if negative then -n else n, rest)
    else none
  | [] => none

/-- The characters that were read, as a text. -/
def taken (cs rest : List Char) : String := String.ofList (cs.take (cs.length - rest.length))

/-- Reads a number with a point, an exponent or both, or one of the special numbers. Positive
numbers that are too large are refused. -/
def readFloat (cs : List Char) : Option (Toml × List Char) := do
  let (negative, number) := readSign cs
  match number with
  | 'i' :: 'n' :: 'f' :: rest => return (float (taken cs rest), rest)
  | 'n' :: 'a' :: 'n' :: rest => return (float (taken cs rest), rest)
  | _ =>
    let (whole, rest) ← readDecimal number
    match rest with
    | '.' :: rest => do
      let (fraction, rest) ← readDigits isDigit rest
      let (exponent, rest) := (readExponent rest).getD (0, rest)
      if !negative && overflows (whole ++ fraction) (exponent - fraction.length) then none
      else return (float (taken cs rest), rest)
    | rest => do
      let (exponent, rest) ← readExponent rest
      if !negative && overflows whole exponent then none
      else return (float (taken cs rest), rest)

/-- Reads a number of `count` digits in a range. -/
def readField (count low high : Nat) (cs : List Char) : Option (Nat × List Char) :=
  let ds := cs.take count
  let n := decimalValue ds
  if ds.length = count && ds.all isDigit && low ≤ n && n ≤ high then some (n, cs.drop count)
  else none

def expect (c : Char) : List Char → Option (List Char)
  | d :: cs => if d = c then some cs else none
  | [] => none

def daysOf (year month : Nat) : Nat :=
  if month = 2 then
    if year % 4 = 0 ∧ (year % 100 ≠ 0 ∨ year % 400 = 0) then 29 else 28
  else if month = 4 ∨ month = 6 ∨ month = 9 ∨ month = 11 then 30
  else 31

def dropDate (cs : List Char) : Option (List Char) := do
  let (year, cs) ← readField 4 0 9999 cs
  let cs ← expect '-' cs
  let (month, cs) ← readField 2 1 12 cs
  let cs ← expect '-' cs
  let (_, cs) ← readField 2 1 (daysOf year month) cs
  return cs

def dropTime (cs : List Char) : Option (List Char) := do
  let (_, cs) ← readField 2 0 23 cs
  let cs ← expect ':' cs
  let (_, cs) ← readField 2 0 59 cs
  let cs ← expect ':' cs
  let (_, cs) ← readField 2 0 60 cs
  match cs with
  | '.' :: c :: rest => return if isDigit c then rest.dropWhile isDigit else cs
  | cs => return cs

def dropOffset : List Char → Option (List Char)
  | c :: cs =>
    if c = 'Z' ∨ c = 'z' then some cs
    else if c = '+' ∨ c = '-' then do
      let (_, cs) ← readField 2 0 23 cs
      let cs ← expect ':' cs
      let (_, cs) ← readField 2 0 59 cs
      return cs
    else none
  | [] => none

/-- Drops the time of day after a date, if there is one. -/
def dropTimeOfDate : List Char → List Char
  | c :: cs =>
    if c = 'T' ∨ c = 't' ∨ c = ' ' then
      match dropTime cs with
      | some rest => (dropOffset rest).getD rest
      | none => c :: cs
    else c :: cs
  | [] => []

/-- Reads a date, a time of day, or both. -/
def readMoment (cs : List Char) : Option (Toml × List Char) := do
  let rest ← (dropDate cs).map dropTimeOfDate <|> dropTime cs
  return (moment (taken cs rest), rest)

/-- Reads a number, a date or a time. -/
def readNumber (cs : List Char) : Option (Toml × List Char) :=
  readMoment cs <|> readFloat cs <|> readInteger cs

end SymbolIndex.Toml
