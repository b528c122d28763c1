/-!
# The UTF-8 form of a text

`encode` writes a text as bytes. `decode` reads bytes back or tells where they stop being UTF-8:
the index of the first byte that belongs to no character, and the number of bytes that are wrong
there, or that the bytes end inside a character.
-/

namespace SymbolIndex.Text.Utf8

/-- Why bytes are not the UTF-8 form of a text. -/
inductive Fault where
  /-- `length` bytes from `index` on cannot be the start of a character. -/
  | invalid (index length : Nat)
  /-- The bytes from `index` on start a character and end too early. -/
  | incomplete (index : Nat)
  deriving Repr, DecidableEq

/-- The wording of a fault. -/
def Fault.message : Fault → String
  | invalid index length => s!"invalid utf-8 sequence of {length} bytes from index {index}"
  | incomplete index => s!"incomplete utf-8 byte sequence from index {index}"

def encode (cs : List Char) : List UInt8 := cs.flatMap String.utf8EncodeChar

/-- The number of bytes of a character by its first byte, and the least and greatest second byte;
none for a byte that starts no character. -/
def lead (b : UInt8) : Option (Nat × UInt8 × UInt8) :=
  if b < 0x80 then some (1, 0x80, 0xBF)
  else if b < 0xC2 then none
  else if b < 0xE0 then some (2, 0x80, 0xBF)
  else if b = 0xE0 then some (3, 0xA0, 0xBF)
  else if b = 0xED then some (3, 0x80, 0x9F)
  else if b < 0xF0 then some (3, 0x80, 0xBF)
  else if b = 0xF0 then some (4, 0x90, 0xBF)
  else if b < 0xF4 then some (4, 0x80, 0xBF)
  else if b = 0xF4 then some (4, 0x80, 0x8F)
  else none

/-- Whether a byte continues a character. -/
def isTail (b : UInt8) : Bool := 0x80 ≤ b && b ≤ 0xBF

/-- The six bits that a continuing byte holds. -/
def tailBits (b : UInt8) : Nat := b.toNat - 0x80

/-- The character at the front of the bytes and the bytes after it; `index` is where they start. -/
def decodeChar (index : Nat) : List UInt8 → Except Fault (Char × List UInt8)
  | [] => .error (.incomplete index)
  | a :: rest =>
    match lead a with
    | none => .error (.invalid index 1)
    | some (1, _, _) => .ok (Char.ofNat a.toNat, rest)
    | some (size, low, high) =>
      match rest with
      | [] => .error (.incomplete index)
      | b :: rest =>
        if b < low || high < b then .error (.invalid index 1)
        else if size = 2 then .ok (Char.ofNat ((a.toNat - 0xC0) * 64 + tailBits b), rest)
        else
          match rest with
          | [] => .error (.incomplete index)
          | c :: rest =>
            if !isTail c then .error (.invalid index 2)
            else if size = 3 then
              .ok (Char.ofNat (((a.toNat - 0xE0) * 64 + tailBits b) * 64 + tailBits c), rest)
            else
              match rest with
              | [] => .error (.incomplete index)
              | d :: rest =>
                if !isTail d then .error (.invalid index 3)
                else .ok (Char.ofNat ((((a.toNat - 0xF0) * 64 + tailBits b) * 64 + tailBits c) * 64
                  + tailBits d), rest)

/-- Reads at most `fuel` characters. -/
def decodeFrom : Nat → Nat → List UInt8 → Except Fault (List Char)
  | _, _, [] => .ok []
  | 0, index, _ => .error (.incomplete index)
  | fuel + 1, index, bytes =>
    match decodeChar index bytes with
    | .error fault => .error fault
    | .ok (c, rest) =>
      (decodeFrom fuel (index + (bytes.length - rest.length)) rest).map (c :: ·)

/-- The text whose UTF-8 form the bytes are. -/
def decode (bytes : List UInt8) : Except Fault (List Char) := decodeFrom bytes.length 0 bytes

end SymbolIndex.Text.Utf8
