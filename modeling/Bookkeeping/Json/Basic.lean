import Bookkeeping.Binary64.Shortest
import Bookkeeping.Text.Quoted

set_option autoImplicit false

/-! # JSON documents

Documents as requests carry them and as answers and log lines show them. Whole numbers and numbers
with a fraction or an exponent are told apart, since amounts are made from the text of a number;
objects keep the order of their fields.

Documents are written with a space after every comma and colon and with every character outside
ASCII escaped. -/

namespace Bookkeeping

/-- A JSON document. -/
inductive Json where
  | null
  | bool (b : Bool)
  | int (n : Int)
  | float (x : Binary64)
  | text (s : String)
  | list (items : List Json)
  | object (fields : List (String × Json))
  deriving Repr, BEq, Inhabited

namespace Json

/-! ## Access -/

/-- The value of a field; of several with one name the last. -/
def field? (j : Json) (name : String) : Option Json :=
  match j with
  | .object fields => (fields.reverse.find? fun f => f.1 == name).map (·.2)
  | _ => none

/-- The fields of an object that are not null. -/
def given : Json → List (String × Json)
  | .object fields => fields.filter fun f => match f.2 with | .null => false | _ => true
  | _ => []

/-- The text of an optional value. -/
def ofText? : Option String → Json
  | some s => .text s
  | none => .null

mutual

/-- Are all numbers in the document finite? -/
def allFinite : Json → Bool
  | .float (.finite _ _) => true
  | .float _ => false
  | .list items => itemsFinite items
  | .object fields => fieldsFinite fields
  | _ => true

/-- Are all numbers in the items of a list finite? -/
def itemsFinite : List Json → Bool
  | [] => true
  | j :: rest => allFinite j && itemsFinite rest

/-- Are all numbers in the fields of an object finite? -/
def fieldsFinite : List (String × Json) → Bool
  | [] => true
  | (_, j) :: rest => allFinite j && fieldsFinite rest

end

/-! ## Writing -/

/-- Escape a code unit as a backslash, the letter u and four digits. -/
def escapeUnit (n : Nat) : List Char := '\\' :: 'u' :: Text.hexDigits 4 n

/-- A code inside a string, of a character or of half of a surrogate pair. Characters beyond the
    first plane are escaped as a pair. -/
def escapeCode (n : Nat) : List Char :=
  if n = '"'.toNat then ['\\', '"']
  else if n = '\\'.toNat then ['\\', '\\']
  else if n = 10 then ['\\', 'n']
  else if n = 13 then ['\\', 'r']
  else if n = 9 then ['\\', 't']
  else if n = 8 then ['\\', 'b']
  else if n = 12 then ['\\', 'f']
  else if 32 ≤ n && n < 127 then [Char.ofNat n]
  else if n < 0x10000 then escapeUnit n
  else escapeUnit (0xD800 + (n - 0x10000) / 1024) ++ escapeUnit (0xDC00 + (n - 0x10000) % 1024)

/-- The string with the given codes, between double quotes. -/
def codesText (codes : List Nat) : String :=
  String.ofList ('"' :: (codes.flatMap escapeCode ++ ['"']))

/-- A string between double quotes. -/
def stringText (s : String) : String := codesText (s.toList.map Char.toNat)

/-- The text of a number with a fraction or an exponent. -/
def floatText : Binary64 → String
  | .nan => "NaN"
  | .infinity s => Decimal.signText s ++ "Infinity"
  | x => x.toText

/-- A field of an object, from its name and the text of its value. -/
def fieldText (name text : String) : String := stringText name ++ ": " ++ text

mutual

/-- The text of a document. -/
def toText : Json → String
  | .null => "null"
  | .bool b => if b then "true" else "false"
  | .int n => Text.intText n
  | .float x => floatText x
  | .text s => stringText s
  | .list items => "[" ++ String.intercalate ", " (itemTexts items) ++ "]"
  | .object fields => "\x7b" ++ String.intercalate ", " (fieldTexts fields) ++ "\x7d"

/-- The texts of the items of a list. -/
def itemTexts : List Json → List String
  | [] => []
  | j :: rest => toText j :: itemTexts rest

/-- The texts of the fields of an object. -/
def fieldTexts : List (String × Json) → List String
  | [] => []
  | (name, j) :: rest => fieldText name (toText j) :: fieldTexts rest

end

end Json

end Bookkeeping
