import Bookkeeping.Json.Basic
import Bookkeeping.Text.Utf8

set_option autoImplicit false

/-! # Addresses

The two parts of the address of a request. A path is a list of segments between slashes; a query is a
list of fields between ampersands. Any byte may be written as a percent sign and two hexadecimal
digits, and in a query a plus sign is a space. Separators are looked for before bytes are decoded in a
query, and after it in a path. -/

namespace Bookkeeping.Web

/-! ## Percent signs -/

/-- The bytes of a text with percent signs. A percent sign that is not followed by two digits stands for
    itself. -/
def percentBytes : List Char → List UInt8
  | [] => []
  | '%' :: a :: b :: rest =>
      match Text.hexValue? a, Text.hexValue? b with
      | some m, some n => UInt8.ofNat (16 * m + n) :: percentBytes rest
      | _, _ => String.utf8EncodeChar '%' ++ percentBytes (a :: b :: rest)
  | c :: rest => String.utf8EncodeChar c ++ percentBytes rest

/-- The text of a text with percent signs. -/
def percentDecode (cs : List Char) : List Char := Text.Utf8.decode (percentBytes cs)

/-! ## Pieces -/

/-- The pieces of a text between separators. -/
def pieces (separator : Char) : List Char → List (List Char)
  | [] => [[]]
  | c :: cs =>
      if c = separator then [] :: pieces separator cs
      else
        match pieces separator cs with
        | [] => [[c]]
        | p :: ps => (c :: p) :: ps

/-- Cut a text at the first separator; without one there is no second part. -/
def cutAt (separator : Char) (cs : List Char) : List Char × List Char :=
  (cs.takeWhile (· ≠ separator), (cs.dropWhile (· ≠ separator)).drop 1)

/-- The pieces of a text, with separators between them, are the text. -/
theorem intercalate_pieces (separator : Char) (cs : List Char) :
    [separator].intercalate (pieces separator cs) = cs := by
  induction cs with
  | nil => simp [pieces, List.intercalate]
  | cons c cs ih =>
      by_cases h : c = separator
      · subst h
        cases hp : pieces c cs with
        | nil => simp_all [pieces, List.intercalate]
        | cons p ps => simp_all [pieces, List.intercalate]
      · cases hp : pieces separator cs with
        | nil => simp_all [pieces, List.intercalate]
        | cons p ps =>
            cases ps with
            | nil => simp_all [pieces, List.intercalate]
            | cons q qs => simp_all [pieces, List.intercalate]

/-! ## Paths and queries -/

/-- The characters of a path. Percent signs are decoded twice: by the client and by the service. -/
def readPath (cs : List Char) : List Char := percentDecode (percentDecode cs)

/-- The part of an address before its query and its fragment. -/
def beforeQuery (cs : List Char) : List Char := cs.takeWhile fun c => c ≠ '?' ∧ c ≠ '#'

/-- The segments of a decoded path after its first slash. -/
def segments : List Char → List String
  | '/' :: rest => (pieces '/' rest).map String.ofList
  | _ => []

/-- A name or a value of a query. -/
def queryText (cs : List Char) : String :=
  String.ofList (percentDecode (cs.map fun c => if c = '+' then ' ' else c))

/-- The fields of a query, as the fields of an object of texts. Empty fields are left out; a field
    without a value has the empty one. -/
def queryFields (query : String) : List (String × Json) :=
  ((pieces '&' query.toList).filter fun p => !p.isEmpty).map fun p =>
    let (name, value) := cutAt '=' p
    (queryText name, .text (queryText value))

end Bookkeeping.Web
