import Bookkeeping.Text.Blank

set_option autoImplicit false

/-! # Digits and whole numbers

Decimal digits of every script (the Unicode general category Nd), the wider class of characters
that merely look like a digit (superscripts, circled numbers, ...), and the reading and writing of
whole numbers in decimal.

The two classes differ, and entry numbers show the difference: a tail such as a superscript two
counts as digits when the tail is recognised and yet is no number. -/

namespace Bookkeeping.Text

/-! ## Classes of digits -/

/-- The zeros of the scripts that have decimal digits; the other nine digits follow each zero. -/
def decimalZeros : List Nat :=
  [
    0x30, 0x660, 0x6F0, 0x7C0, 0x966, 0x9E6, 0xA66, 0xAE6, 0xB66, 0xBE6, 0xC66, 0xCE6, 0xD66,
    0xDE6, 0xE50, 0xED0, 0xF20, 0x1040, 0x1090, 0x17E0, 0x1810, 0x1946, 0x19D0, 0x1A80, 0x1A90,
    0x1B50, 0x1BB0, 0x1C40, 0x1C50, 0xA620, 0xA8D0, 0xA900, 0xA9D0, 0xA9F0, 0xAA50, 0xABF0,
    0xFF10, 0x104A0, 0x10D30, 0x11066, 0x110F0, 0x11136, 0x111D0, 0x112F0, 0x11450, 0x114D0,
    0x11650, 0x116C0, 0x11730, 0x118E0, 0x11950, 0x11C50, 0x11D50, 0x11DA0, 0x16A60, 0x16AC0,
    0x16B50, 0x1D7CE, 0x1D7D8, 0x1D7E2, 0x1D7EC, 0x1D7F6, 0x1E140, 0x1E2F0, 0x1E950, 0x1FBF0
  ]

/-- The value of `c` as a decimal digit, `none` when it is not one. -/
def decimalDigit? (c : Char) : Option Nat :=
  if '0' ≤ c && c ≤ '9' then some (c.toNat - 48)
  else if c.toNat < 0x660 then none
  else (decimalZeros.find? fun z => z ≤ c.toNat && c.toNat < z + 10).map (c.toNat - ·)

/-- The ASCII digit for a decimal digit of any script; other characters stay. -/
def asciiDigit (c : Char) : Char :=
  match decimalDigit? c with
  | some n => Char.ofNat (48 + n)
  | none => c

/-- Ranges of the characters that have a digit value without being decimal digits. -/
def digitForms : List (Nat × Nat) :=
  [
    (0xB2, 0xB3), (0xB9, 0xB9), (0x1369, 0x1371), (0x19DA, 0x19DA), (0x2070, 0x2070),
    (0x2074, 0x2079), (0x2080, 0x2089), (0x2460, 0x2468), (0x2474, 0x247C), (0x2488, 0x2490),
    (0x24EA, 0x24EA), (0x24F5, 0x24FD), (0x24FF, 0x24FF), (0x2776, 0x277E), (0x2780, 0x2788),
    (0x278A, 0x2792), (0x10A40, 0x10A43), (0x10E60, 0x10E68), (0x11052, 0x1105A),
    (0x1F100, 0x1F10A)
  ]

/-- Does `c` have a digit value, as a decimal digit or as a digit form? -/
def isDigitLike (c : Char) : Bool :=
  (decimalDigit? c).isSome || digitForms.any fun r => r.1 ≤ c.toNat && c.toNat ≤ r.2

/-- Is the text not empty and made of characters with a digit value only? -/
def allDigitLike (cs : List Char) : Bool :=
  !cs.isEmpty && cs.all isDigitLike

/-! ## Reading whole numbers -/

/-- The number that a list of decimal digits denotes, `none` when another character occurs. -/
def digitsValue? (cs : List Char) : Option Nat :=
  cs.foldl (fun acc c => acc.bind fun n => (decimalDigit? c).map (n * 10 + ·)) (some 0)

/-- The longest text of digits that is read as a whole number. -/
def maxNumberDigits : Nat := 4300

/-- Why a text is not read as a whole number. -/
inductive NumberFault where
  /-- The text is not of the form sign, digits. -/
  | malformed
  /-- The text has the form of a number of `digits` digits, more than `maxNumberDigits`. -/
  | tooLong (digits : Nat)
  deriving DecidableEq, Repr

/-- Drop single underscores between digits; `none` when one stands elsewhere. -/
def joinGroups : List Char → Option (List Char)
  | [] => some []
  | [c] => if c = '_' then none else some [c]
  | c :: d :: rest =>
      if c = '_' then none
      else if d = '_' then
        match rest with
        | [] => none
        | e :: rest' => if e = '_' then none else (joinGroups (e :: rest')).map (c :: ·)
      else (joinGroups (d :: rest)).map (c :: ·)

/-- Is `c` a decimal digit, or an underscore as it may stand between digits? -/
def isGroupChar (c : Char) : Bool := c = '_' || (decimalDigit? c).isSome

/-- Read a whole number: spaces around it, one sign, decimal digits of any script with single
    underscores between them. Too many digits are a fault of their own, whatever follows them. -/
def readInt (cs : List Char) : Except NumberFault Int :=
  let (negative, body) : Bool × List Char :=
    match cs.dropWhile isSpace with
    | '-' :: rest => (true, rest)
    | '+' :: rest => (false, rest)
    | body => (false, body)
  let run := body.takeWhile isGroupChar
  match joinGroups run with
  | none | some [] => .error .malformed
  | some digits =>
    if digits.length > maxNumberDigits then .error (.tooLong digits.length)
    else if !(body.drop run.length).all isSpace then .error .malformed
    else
      match digitsValue? digits with
      | none => .error .malformed
      | some n => .ok (if negative then -(n : Int) else (n : Int))

/-! ## Writing whole numbers -/

/-- The decimal digits of a natural number. -/
def natText (n : Nat) : String := n.repr

/-- A whole number in decimal, with a minus sign when it is negative. -/
def intText (n : Int) : String :=
  if n < 0 then "-" ++ natText n.natAbs else natText n.natAbs

/-- Put zeros in front of a text until it has `width` characters. -/
def padZeros (width : Nat) (s : String) : String :=
  String.ofList (List.replicate (width - s.length) '0') ++ s

end Bookkeeping.Text
