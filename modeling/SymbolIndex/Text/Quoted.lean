import SymbolIndex.Text.Digits
import SymbolIndex.Text.Property

/-!
# Quoted text in messages

Messages show a text or a character between quotation marks, with everything escaped that would
not show: the usual short escapes, and hexadecimal code points for characters that do not print or
that would join the character before.
-/

namespace SymbolIndex.Text

def codeEscape (c : Char) : List Char := "\\u\x7b".toList ++ hexDigits c.toNat ++ ['\x7d']

def showsItself (c : Char) : Bool :=
  if c.toNat < 0x80 then 0x20 ≤ c.toNat && c.toNat ≠ 0x7F
  else !Property.graphemeExtend.mem c.toNat && Property.printable.mem c.toNat

/-- A character as it stands between two marks `mark`. -/
def escapeWithin (mark c : Char) : List Char :=
  match c with
  | '\x00' => ['\\', '0']
  | '\t' => ['\\', 't']
  | '\r' => ['\\', 'r']
  | '\n' => ['\\', 'n']
  | '\\' => ['\\', '\\']
  | c => if c = mark then ['\\', c] else if showsItself c then [c] else codeEscape c

/-- A text between double quotation marks. -/
def quoted (s : String) : String :=
  String.ofList ('"' :: s.toList.flatMap (escapeWithin '"') ++ ['"'])

/-- A character between single quotation marks. -/
def quotedChar (c : Char) : String := String.ofList ('\'' :: escapeWithin '\'' c ++ ['\''])

example : quotedChar '\x00' = "'\\0'" := by decide

end SymbolIndex.Text
