import Bookkeeping.Calendar.Lenient
import Bookkeeping.Json.Basic
import Bookkeeping.Request.Problem
import Bookkeeping.Text.LetterCase
import Bookkeeping.Uuid

set_option autoImplicit false

/-! # Reading the parts of a request

A `Reader` checks one part of a document and knows where it stands; a `Shape` checks the fields of an
object. Shapes are applicative: the shape of a whole is written as a function applied to the shapes of
its fields, and the problems come in the order of the fields.

Amounts are taken from texts and numbers alike, flags from words and the numbers 0 and 1; texts are
never made from numbers. -/

namespace Bookkeeping.Request

variable {α β : Type}

/-! ## Readers -/

/-- A check of the part of a document at a location. -/
abbrev Reader (α : Type) := Location → Json → Checked α

/-- Accept null as the absence of a value. -/
def nullable (read : Reader α) : Reader (Option α) :=
  fun at' j =>
    match j with
    | .null => .accepted none
    | _ => some <$> read at' j

/-- Put a further condition on an accepted value. -/
def Reader.require (read : Reader α) (kind : ProblemKind) (condition : α → Bool) : Reader α :=
  fun at' j => (read at' j).andThen fun a => if condition a then .accepted a else .refuse at' kind j

/-! ## Texts and words -/

/-- A text. -/
def text : Reader String :=
  fun at' j =>
    match j with
    | .text s => .accepted s
    | _ => .refuse at' .notText j

/-- A text of at least `n` characters. -/
def Reader.atLeast (read : Reader String) (n : Nat) : Reader String :=
  read.require .textTooShort fun s => n ≤ s.length

/-- A text of at most `n` characters. -/
def Reader.atMost (read : Reader String) (n : Nat) : Reader String :=
  read.require .textTooLong fun s => s.length ≤ n

/-- A word of a vocabulary. -/
def word (ofText? : String → Option α) : Reader α :=
  fun at' j =>
    match j with
    | .text s =>
      match ofText? s with
      | some a => .accepted a
      | none => .refuse at' .notInVocabulary j
    | _ => .refuse at' .notInVocabulary j

/-! ## Flags -/

/-- Words for yes. -/
def yesWords : List String := ["1", "true", "t", "yes", "y", "on"]

/-- Words for no. -/
def noWords : List String := ["0", "false", "f", "no", "n", "off"]

/-- Letters of ASCII in lower case, all else as it is. -/
def foldCase (s : String) : String := String.ofList (s.toList.map Text.asciiLower)

/-- The flag that a word stands for; the case of its letters does not matter. -/
def flagOfText? (s : String) : Option Bool :=
  let w := foldCase s
  if yesWords.contains w then some true
  else if noWords.contains w then some false
  else none

/-- The flag that a whole number stands for. -/
def flagOfInt? (n : Int) : Option Bool :=
  if n = 0 then some false else if n = 1 then some true else none

/-- Whole numbers of 64 bits. -/
def isNarrow (n : Int) : Bool := -(pow2 63 : Int) ≤ n && n < (pow2 63 : Int)

/-- Whole doubles within 64 bits, the least number of 64 bits excepted. -/
def isNarrowDouble (n : Int) : Bool := -(pow2 63 : Int) < n && n < (pow2 63 : Int)

/-- A flag. Of numbers only those of 64 bits are looked at. -/
def flag : Reader Bool :=
  fun at' j =>
    let ofRead : Option Bool → Checked Bool
      | some b => .accepted b
      | none => .refuse at' .flagUnreadable j
    match j with
    | .bool b => .accepted b
    | .text s => ofRead (flagOfText? s)
    | .int n => if isNarrow n then ofRead (flagOfInt? n) else .refuse at' .notFlag j
    | .float x =>
      match x.toInt? with
      | some n => if isNarrowDouble n then ofRead (flagOfInt? n) else .refuse at' .notFlag j
      | none => .refuse at' .notFlag j
    | _ => .refuse at' .notFlag j

/-! ## Amounts -/

/-- A finite amount; one given as a number has the shortest text of that number. -/
def amount : Reader Decimal :=
  fun at' j =>
    let ofText (s : String) : Checked Decimal :=
      match Decimal.parse s with
      | .ok d => if d.isFinite then .accepted d else .refuse at' .numberNotFinite j
      | .error _ => .refuse at' .amountUnreadable j
    match j with
    | .text s => ofText s
    | .int n => ofText (Text.intText n)
    | .float x => ofText x.toText
    | _ => .refuse at' .notAmount j

/-- Does a comparison of amounts hold? -/
def holds : Except Decimal.Fault Bool → Bool
  | .ok b => b
  | .error _ => false

/-- An amount that is not negative. -/
def amountFromZero : Reader Decimal :=
  Reader.require amount .tooSmall fun d => holds (Decimal.zero.le d)

/-- An amount that is greater than zero. -/
def positiveAmount : Reader Decimal :=
  Reader.require amount .notGreater fun d => holds (Decimal.zero.lt d)

/-- One as an amount. -/
def one : Decimal := .finite false 1 0

/-- A fraction from zero to one. The upper bound is looked at first. -/
def rate : Reader Decimal :=
  Reader.require (Reader.require amount .tooLarge fun d => holds (d.le one)) .tooSmall fun d =>
    holds (Decimal.zero.le d)

/-! ## Identifiers and days -/

/-- An identifier from its text. -/
def identifierOfText (at' : Location) (s : String) : Checked Uuid :=
  match Uuid.parse? s with
  | some u => .accepted u
  | none => .refuse at' .identifierUnreadable (.text s)

/-- An identifier. -/
def identifier : Reader Uuid :=
  fun at' j =>
    match j with
    | .text s => identifierOfText at' s
    | _ => .refuse at' .notIdentifier j

/-- The problem with a value that is no day. -/
def dayProblem : Lenient.Fault → ProblemKind
  | .kind => .notDay
  | .malformed => .dayUnreadable
  | .notMidnight => .dayNotMidnight
  | .beforeCalendar => .dayOutside

/-- A day. -/
def day : Reader Date :=
  fun at' j =>
    let ofRead : Except Lenient.Fault Date → Checked Date
      | .ok d => .accepted d
      | .error f => .refuse at' (dayProblem f) j
    match j with
    | .text s => ofRead (Lenient.ofText s)
    | .int n => ofRead (Lenient.ofInt n)
    | .float x => ofRead (Lenient.ofBinary64 x)
    | _ => .refuse at' .notDay j

/-! ## Lists -/

/-- Check the items of a list from index `i` on. -/
def readItems (read : Reader α) (at' : Location) : Nat → List Json → Checked (List α)
  | _, [] => .accepted []
  | i, j :: rest => List.cons <$> read (at' ++ [.item i]) j <*> readItems read at' (i + 1) rest

/-- A list of at least `n` items. Its length is looked at once its items are accepted. -/
def listOf (n : Nat) (read : Reader α) : Reader (List α) :=
  fun at' j =>
    match j with
    | .list items =>
      (readItems read at' 0 items).andThen fun xs =>
        if n ≤ xs.length then .accepted xs else .refuse at' .listTooShort j
    | _ => .refuse at' .notList j

/-! ## Objects -/

/-- A check of the fields of the object at a location. -/
structure Shape (α : Type) where
  check : Location → List (String × Json) → Checked α

namespace Shape

instance : Applicative Shape where
  pure a := ⟨fun _ _ => .accepted a⟩
  seq f x := ⟨fun at' fields => f.check at' fields <*> (x ()).check at' fields⟩

end Shape

/-- The value of a field; of several with one name the last. -/
def fieldOf? (fields : List (String × Json)) (name : String) : Option Json :=
  (Json.object fields).field? name

/-- A field that must be given. -/
def required (name : String) (read : Reader α) : Shape α :=
  ⟨fun at' fields =>
    match fieldOf? fields name with
    | some j => read (at' ++ [.field name]) j
    | none => .refuse (at' ++ [.field name]) .missing (.object fields)⟩

/-- A field that has a value also when it is not given. -/
def withDefault (name : String) (value : α) (read : Reader α) : Shape α :=
  ⟨fun at' fields =>
    match fieldOf? fields name with
    | some j => read (at' ++ [.field name]) j
    | none => .accepted value⟩

/-- A field that may be missing or null. -/
def optional (name : String) (read : Reader α) : Shape (Option α) :=
  withDefault name none (nullable read)

/-- The first of several names that is given. -/
def givenName? (fields : List (String × Json)) (names : List String) : Option String :=
  names.find? fun n => (fieldOf? fields n).isSome

/-- A field that may be missing or null and goes by several names, the first that is given counting. -/
def optionalUnder (names : List String) (read : Reader α) : Shape (Option α) :=
  ⟨fun at' fields =>
    match givenName? fields names with
    | some n => (optional n read).check at' fields
    | none => .accepted none⟩

/-- Refuse fields that do not exist. `groups` holds the names of each field; of the names of one field
    only the first that is given is known. -/
def closed (groups : List (List String)) (shape : Shape α) : Shape α :=
  ⟨fun at' fields =>
    let known := groups.filterMap (givenName? fields)
    let extra := fields.filter fun f => !known.contains f.1
    let problems := extra.map fun f => (⟨at' ++ [.field f.1], .unknownField, f.2⟩ : Problem)
    (fun a _ => a) <$> shape.check at' fields <*>
      (if problems.isEmpty then .accepted () else .refused problems)⟩

/-- An object of a shape. -/
def object (shape : Shape α) : Reader α :=
  fun at' j =>
    match j with
    | .object fields => shape.check at' fields
    | _ => .refuse at' .notObject j

end Bookkeeping.Request
