import Bookkeeping.Powers
import Bookkeeping.Text.Digits
import Bookkeeping.Text.LetterCase
import Bookkeeping.Text.Quoted

set_option autoImplicit false

/-! # Identifiers

Identifiers of 128 bits, as companies, accounts and entries carry them, and their texts: eight, four,
four, four and twelve hexadecimal digits between hyphens. -/

namespace Bookkeeping

/-- An identifier of 128 bits. -/
structure Uuid where
  value : Nat
  deriving DecidableEq, Repr, Inhabited

namespace Uuid

/-- The identifier of 128 random bits, six of which are replaced by the marks of random identifiers. -/
def ofRandom (bits : Nat) : Uuid :=
  let high := bits / pow2 80 % pow2 48
  let middle := bits / pow2 64 % pow2 12
  let low := bits % pow2 62
  ⟨high * pow2 80 + (4 * pow2 12 + middle) * pow2 64 + (2 * pow2 62 + low)⟩

/-! ## Writing -/

/-- The hyphenated text of an identifier. -/
def toText (u : Uuid) : String :=
  let cs := Text.hexDigits 32 u.value
  let part (i n : Nat) : String := String.ofList ((cs.drop i).take n)
  part 0 8 ++ "-" ++ part 8 4 ++ "-" ++ part 12 4 ++ "-" ++ part 16 4 ++ "-" ++ part 20 12

/-! ## Reading -/

/-- The identifier of a list of hexadecimal digits. -/
def ofHex? (cs : List Char) : Option Uuid :=
  (cs.foldl (fun acc c => acc.bind fun n => (Text.hexValue? c).map (n * 16 + ·)) (some 0)).map Uuid.mk

/-- Read the 36 characters of the hyphenated form. -/
def ofHyphenated? (cs : List Char) : Option Uuid :=
  let at? (i : Nat) : Bool := cs[i]? == some '-'
  if cs.length = 36 && at? 8 && at? 13 && at? 18 && at? 23 then
    ofHex? (cs.take 8 ++ (cs.drop 9).take 4 ++ (cs.drop 14).take 4 ++ (cs.drop 19).take 4 ++
      cs.drop 24)
  else none

/-- Read an identifier as requests may write it: 32 digits, the hyphenated form, the hyphenated form
    in braces, or behind `urn:uuid:`. -/
def parse? (s : String) : Option Uuid :=
  let cs := s.toList
  if cs.length = 32 then ofHex? cs
  else if cs.length = 38 then
    if cs.head? = some '{' ∧ cs.getLast? = some '}' then ofHyphenated? ((cs.drop 1).take 36) else none
  else if cs.length = 45 then
    if cs.take 9 = "urn:uuid:".toList then ofHyphenated? (cs.drop 9) else none
  else ofHyphenated? cs

/-- Why a text is not read as an identifier on the command line. -/
inductive Fault where
  /-- It has not 32 characters besides the marks that are left out. -/
  | malformed
  /-- It has 32 characters that are no hexadecimal number. -/
  | digits (text : String)
  deriving DecidableEq, Repr

/-- Leave every occurrence of a word out of a text, from left to right. -/
def removeWord (word : List Char) : Nat → List Char → List Char
  | 0, cs => cs
  | _ + 1, [] => []
  | fuel + 1, c :: cs =>
      if word.isPrefixOf (c :: cs) then removeWord word fuel ((c :: cs).drop word.length)
      else c :: removeWord word fuel cs

/-- Leave out the mark of hexadecimal numbers, and one underscore behind it. -/
def withoutMark : List Char → List Char
  | '0' :: x :: rest =>
      if x = 'x' || x = 'X' then
        match rest with
        | '_' :: rest' => rest'
        | _ => rest
      else '0' :: x :: rest
  | cs => cs

/-- Read a hexadecimal number as a command line may write it: spaces around it, a plus sign, the mark
    of hexadecimal numbers, and single underscores between digits. Decimal digits of every script
    count. -/
def readHex? (cs : List Char) : Option Nat :=
  let body := (Text.trimSpaces cs).map Text.asciiDigit
  let unsigned := if body.head? = some '+' then body.drop 1 else body
  match Text.joinGroups (withoutMark unsigned) with
  | none | some [] => none
  | some digits =>
      digits.foldl (fun acc c => acc.bind fun n => (Text.hexValue? c).map (n * 16 + ·)) (some 0)

/-- Read an identifier from a command line: the marks `urn:` and `uuid:`, braces at the ends and all
    hyphens are left out, and a hexadecimal number of 32 characters must remain. -/
def parseLoose (s : String) : Except Fault Uuid :=
  let fuel := s.length + 1
  let plain := removeWord "uuid:".toList fuel (removeWord "urn:".toList fuel s.toList)
  let isBrace (c : Char) : Bool := c = '{' || c = '}'
  let bare := ((plain.dropWhile isBrace).reverse.dropWhile isBrace).reverse
  let digits := bare.filter (· ≠ '-')
  if digits.length ≠ 32 then .error .malformed
  else
    match readHex? digits with
    | some n => .ok ⟨n⟩
    | none => .error (.digits (String.ofList digits))

/-- The message for a text that is not read. -/
def Fault.message : Fault → String
  | .malformed => "badly formed hexadecimal UUID string"
  | .digits s => "invalid literal for int() with base 16: " ++ Text.quotedStart s

end Uuid

end Bookkeeping
