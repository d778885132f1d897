import Bookkeeping.Decimal.Arithmetic
import Bookkeeping.Text.Digits
import Bookkeeping.Text.LetterCase

set_option autoImplicit false

/-! # Text of amounts

Reading an amount from text and the two ways of writing one: the exact form (`toText`), which shows
exponent and trailing zeros, and the form with a fixed number of places used in messages and for
stored amounts (`toFixed`). -/

namespace Bookkeeping.Decimal

open Bookkeeping.Text

/-! ## Reading -/

/-- Largest power of ten of a leading digit that a text may denote. -/
def maxTextExponent : Int := 999999999999999999

/-- Smallest exponent that a text may denote. -/
def minTextExponent : Int := -1999999999999999997

/-- The ASCII form of a text of an amount: blanks at the ends and all underscores dropped, decimal
    digits of every script replaced, other characters outside ASCII made unreadable. -/
def normalizeChars (cs : List Char) : List Char :=
  ((trimChars cs).filter (· ≠ '_')).map fun c =>
    if c.toNat < 128 then c
    else
      match decimalDigit? c with
      | some d => Char.ofNat (48 + d)
      | none => '?'

/-- Is `c` an ASCII digit? -/
def isAsciiDigit (c : Char) : Bool := '0' ≤ c && c ≤ '9'

/-- The value of a list of ASCII digits. -/
def asciiValue (cs : List Char) : Nat :=
  cs.foldl (fun n c => n * 10 + (c.toNat - 48)) 0

/-- Take a sign off the front: is it negative, and what follows. -/
def takeSign : List Char → Bool × List Char
  | '-' :: rest => (true, rest)
  | '+' :: rest => (false, rest)
  | cs => (false, cs)

/-- Read what follows the coefficient: nothing, or an exponent. -/
def readExponent : List Char → Option Int
  | [] => some 0
  | c :: rest =>
      if c = 'e' || c = 'E' then
        let (negative, digits) := takeSign rest
        if !digits.isEmpty && digits.all isAsciiDigit then some (signed negative (asciiValue digits))
        else none
      else none

/-- Read an unsigned number: digits with an optional point, at least one digit, then an optional
    exponent. Answers coefficient and exponent. -/
def readNumber (cs : List Char) : Option (Nat × Int) :=
  let whole := cs.takeWhile isAsciiDigit
  let afterWhole := cs.dropWhile isAsciiDigit
  let places :=
    match afterWhole with
    | '.' :: rest => rest.takeWhile isAsciiDigit
    | _ => []
  let tail :=
    match afterWhole with
    | '.' :: rest => rest.dropWhile isAsciiDigit
    | _ => afterWhole
  if whole.isEmpty && places.isEmpty then none
  else (readExponent tail).map fun e => (asciiValue (whole ++ places), e - places.length)

/-- Does the text denote an amount within the limits of exponents? -/
def textInRange (c : Nat) (e : Int) : Bool :=
  if c = 0 then minTextExponent ≤ e && e ≤ maxTextExponent
  else minTextExponent ≤ e && e + digitCount c - 1 ≤ maxTextExponent

/-- Read a value that is not a number: an optional payload of digits. -/
def readNan (negative signaling : Bool) (digits : List Char) : Except Fault Decimal :=
  if digits.all isAsciiDigit then .ok (.nan negative signaling (asciiValue digits))
  else .error .conversionSyntax

/-- Read an amount from text. -/
def parseChars (cs : List Char) : Except Fault Decimal :=
  let (negative, body) := takeSign (normalizeChars cs)
  match readNumber body with
  | some (c, e) =>
      if textInRange c e then .ok (.finite negative c e) else .error .invalidOperation
  | none =>
    let word := body.map asciiLower
    if word = "inf".toList || word = "infinity".toList then .ok (.infinity negative)
    else if word.take 3 = "nan".toList then readNan negative false (word.drop 3)
    else if word.take 4 = "snan".toList then readNan negative true (word.drop 4)
    else .error .conversionSyntax

/-- Read an amount from text. -/
def parse (s : String) : Except Fault Decimal := parseChars s.toList

/-! ## Writing -/

/-- A run of zeros. -/
def zeros (n : Nat) : String := String.ofList (List.replicate n '0')

/-- The minus sign of a negative amount. -/
def signText (negative : Bool) : String := if negative then "-" else ""

/-- A coefficient with `places` digits after the point. -/
def placesText (digits : String) (places : Nat) : String :=
  if places = 0 then digits
  else
    let padded := padZeros (places + 1) digits
    let cs := padded.toList
    String.ofList (cs.take (cs.length - places)) ++ "." ++ String.ofList (cs.drop (cs.length - places))

/-- A payload of a value that is not a number; zero is not shown. -/
def payloadText (p : Nat) : String := if p = 0 then "" else natText p

/-- The exact text of an amount. It is positional when the exponent is not positive and the leading
    digit is at most six places after the point, scientific otherwise. -/
def toText : Decimal → String
  | .finite s c e =>
      let digits := natText c
      let lead := e + digits.length - 1
      if e ≤ 0 ∧ -6 ≤ lead then signText s ++ placesText digits (-e).toNat
      else
        let mantissa :=
          match digits.toList with
          | [] => ""
          | [d] => String.ofList [d]
          | d :: rest => String.ofList (d :: '.' :: rest)
        signText s ++ mantissa ++ "E" ++ (if lead < 0 then "-" else "+") ++ natText lead.natAbs
  | .infinity s => signText s ++ "Infinity"
  | .nan s g p => signText s ++ (if g then "sNaN" else "NaN") ++ payloadText p

/-- The digits of the coefficient of an amount at exponent `-places`, a half going to the even
    neighbour. Where no digit is dropped they are the digits of the amount followed by zeros. -/
def scaledDigits (places : Nat) (c : Nat) (e : Int) : String :=
  if c = 0 then natText 0
  else if -(places : Int) ≤ e then natText c ++ zeros (e + places).toNat
  else natText (dropDigits .toEven (-(places : Int) - e).toNat c)

/-- The text of an amount with a fixed number of places; the sign of a zero is kept. -/
def toFixed (places : Nat) : Decimal → String
  | .finite s c e => signText s ++ placesText (scaledDigits places c e) places
  | .infinity s => signText s ++ "Infinity"
  | .nan s g p => signText s ++ (if g then "sNaN" else "NaN") ++ payloadText p

end Bookkeeping.Decimal
