import Bookkeeping.Request.Reader
import Bookkeeping.Text.Digits

set_option autoImplicit false

/-! # Whole numbers in requests

Whole numbers come as numbers or as texts. A text may have white space around it, a plus sign, zeros
and underscores in front, single underscores between digits, and a fraction of zeros; all these are
taken off (`plainWhole?`) before sign and digits are read.

A number of more than `maxWholeText` digits is no number. The text is called too long only where it
consists of the digits of such a number from its beginning on. -/

namespace Bookkeeping.Request

/-- Most characters of a whole number, its minus sign included. -/
def maxWholeText : Nat := 4300

/-! ## Taking off what does not count -/

/-- Drop a plus sign; none may stand before a minus sign. -/
def dropPlus? : List Char → Option (List Char)
  | '+' :: rest => if rest.head? = some '-' then none else some rest
  | cs => some cs

/-- Drop zeros and underscores behind a zero, up to another digit or a minus sign. One character stays
    where a point or the end follows. -/
def dropZerosAfter? (last : Char) : List Char → Option (List Char)
  | [] => some [last]
  | c :: rest =>
      if c = '0' || c = '_' then dropZerosAfter? c rest
      else if Decimal.isAsciiDigit c || c = '-' then some (c :: rest)
      else if c = '.' then some (last :: c :: rest)
      else none

/-- Drop the zeros in front of a number. -/
def dropLeadingZeros? : List Char → Option (List Char)
  | [] => none
  | c :: rest =>
      if c = '0' then dropZerosAfter? c rest
      else if Decimal.isAsciiDigit c || c = '-' then some (c :: rest)
      else none

/-- Drop a point followed by zeros only; another fraction stays. -/
def dropZeroFraction (cs : List Char) : List Char :=
  let fraction := (cs.dropWhile (· ≠ '.')).drop 1
  if !fraction.isEmpty && fraction.all (· = '0') then cs.takeWhile (· ≠ '.') else cs

/-- Do two underscores stand side by side? -/
def hasDoubleUnderscore : List Char → Bool
  | '_' :: '_' :: _ => true
  | _ :: rest => hasDoubleUnderscore rest
  | [] => false

/-- Drop single underscores; none may stand at an end. -/
def dropUnderscores? (cs : List Char) : Option (List Char) :=
  if cs.head? = some '_' ∨ cs.getLast? = some '_' ∨ hasDoubleUnderscore cs then none
  else some (cs.filter (· ≠ '_'))

/-- The text of a whole number without all that may stand around its sign and its digits. -/
def plainWhole? (cs : List Char) : Option (List Char) := do
  dropUnderscores? (dropZeroFraction (← dropLeadingZeros? (← dropPlus? (Text.trimSpaces cs))))

/-! ## Reading -/

/-- The whole number of a minus sign, which may be missing, and digits. -/
def readPlain? (cs : List Char) : Option Int :=
  let negative := cs.head? = some '-'
  let digits := if negative then cs.drop 1 else cs
  if digits.isEmpty || !digits.all Decimal.isAsciiDigit || maxWholeText < cs.length then none
  else some (Decimal.signed negative (Decimal.asciiValue digits))

/-- Does the text begin with a number that is too long, written without zeros in front? -/
def beginsTooLong (cs : List Char) : Bool :=
  let digits := (if cs.head? = some '-' then cs.drop 1 else cs).takeWhile Decimal.isAsciiDigit
  digits.head? != some '0' && maxWholeText < digits.length + (if cs.head? = some '-' then 1 else 0)

/-- A whole number from its text. -/
def wholeOfText (at' : Location) (s : String) : Checked Int :=
  let cs := s.toList
  if beginsTooLong cs then .refuse at' .numberTooLong (.text s)
  else
    match (plainWhole? cs).bind readPlain? with
    | some n => .accepted n
    | none => .refuse at' .numberUnreadable (.text s)

/-- A whole number from a double: finite, without a fraction and within 64 bits. -/
def wholeOfBinary64 (at' : Location) (x : Binary64) : Checked Int :=
  match x with
  | .finite _ _ =>
    match x.toInt? with
    | some n =>
      if isNarrowDouble n then .accepted n else .refuse at' .numberTooLong (.float x)
    | none => .refuse at' .numberFractional (.float x)
  | _ => .refuse at' .numberNotFinite (.float x)

/-- A whole number. -/
def whole : Reader Int :=
  fun at' j =>
    match j with
    | .text s => wholeOfText at' s
    | .int n => .accepted n
    | .bool b => .accepted (if b then 1 else 0)
    | .float x => wholeOfBinary64 at' x
    | _ => .refuse at' .notWhole j

/-- A whole number of at least `least`. -/
def wholeFrom (least : Int) : Reader Int := Reader.require whole .tooSmall fun n => least ≤ n

end Bookkeeping.Request
