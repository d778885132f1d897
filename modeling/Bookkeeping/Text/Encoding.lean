import Bookkeeping.Text.Utf8

set_option autoImplicit false

/-! # Encodings of text

Bytes that hold a text whose first two characters are ASCII tell their encoding by the places of the
zeros among the first four of them (`Encoding.detect`). A mark of the byte order in front of UTF-8 is
skipped; half a pair of units, which is no character, is replaced. -/

namespace Bookkeeping.Text

/-- An encoding of text as bytes. -/
inductive Encoding where
  | utf8
  | utf16 (bigEndian : Bool)
  | utf32 (bigEndian : Bool)
  deriving DecidableEq, Repr

namespace Encoding

/-- The encoding that bytes seem to have. -/
def detect (bytes : List UInt8) : Encoding :=
  match bytes with
  | a :: b :: c :: d :: _ =>
      if a = 0 then (if b = 0 then .utf32 true else .utf16 true)
      else if b = 0 then (if c = 0 && d = 0 then .utf32 false else .utf16 false)
      else .utf8
  | [a, b] => if a = 0 then .utf16 true else if b = 0 then .utf16 false else .utf8
  | _ => .utf8

/-! ## Units -/

/-- The numbers of two bytes each; none when a byte is left over. -/
def pairs? (bigEndian : Bool) : List UInt8 → Option (List Nat)
  | [] => some []
  | [_] => none
  | a :: b :: rest =>
      let (high, low) := if bigEndian then (a, b) else (b, a)
      (pairs? bigEndian rest).map ((high.toNat * 256 + low.toNat) :: ·)

/-- The numbers of two neighbours each; none when a number is left over. -/
def joined? (bigEndian : Bool) : List Nat → Option (List Nat)
  | [] => some []
  | [_] => none
  | a :: b :: rest =>
      let (high, low) := if bigEndian then (a, b) else (b, a)
      (joined? bigEndian rest).map ((high * 65536 + low) :: ·)

/-- The character with a number; half a pair is replaced. -/
def character (n : Nat) : Char :=
  if 0xD800 ≤ n ∧ n < 0xE000 then Utf8.replacement else Char.ofNat n

/-- The characters of units of two bytes, two units making one character beyond the first plane. -/
def ofUnits16 : List Nat → List Char
  | [] => []
  | [n] => [character n]
  | n :: m :: rest =>
      if 0xD800 ≤ n ∧ n < 0xDC00 ∧ 0xDC00 ≤ m ∧ m < 0xE000 then
        Char.ofNat (0x10000 + (n - 0xD800) * 1024 + (m - 0xDC00)) :: ofUnits16 rest
      else character n :: ofUnits16 (m :: rest)

/-! ## Decoding -/

/-- The characters of UTF-8 text behind a mark of the byte order, if there is one. -/
def decodeUtf8? (bytes : List UInt8) : Option (List Char) :=
  match bytes with
  | 0xEF :: 0xBB :: 0xBF :: rest => Utf8.decode? rest
  | _ => Utf8.decode? bytes

/-- The characters of a text in an encoding. -/
def decode? : Encoding → List UInt8 → Option (List Char)
  | .utf8, bytes => decodeUtf8? bytes
  | .utf16 bigEndian, bytes => (pairs? bigEndian bytes).map ofUnits16
  | .utf32 bigEndian, bytes => do
      let codes ← joined? bigEndian (← pairs? bigEndian bytes)
      if codes.all fun n => n < 0x110000 then some (codes.map character) else none

/-- The characters of a text whose encoding is not known. -/
def read? (bytes : List UInt8) : Option (List Char) := decode? (detect bytes) bytes

end Encoding

end Bookkeeping.Text
