import Bookkeeping.Json.Basic

set_option autoImplicit false

/-! # Problems of a request

What is wrong with a request, and where. A request is checked as a whole: the problems of all its
parts are collected in the order of the parts, so the result of a check is either a value or a list
of problems (`Checked`), and two checks combine by combining their problems. -/

namespace Bookkeeping.Request

/-! ## Problems -/

/-- A step on the way to a part of a document. -/
inductive Step where
  | field (name : String)
  | item (index : Nat)
  deriving DecidableEq, Repr

/-- The way to a part of a document, from the outside. -/
abbrev Location := List Step

/-- What can be wrong with a part of a request. -/
inductive ProblemKind where
  /-- A field without a default is not given. -/
  | missing
  /-- A field is given that does not exist. -/
  | unknownField
  | notObject
  | notList
  | listTooShort
  | notText
  | textTooShort
  | textTooLong
  /-- A word is not in the vocabulary of the field. -/
  | notInVocabulary
  | notFlag
  | flagUnreadable
  | notAmount
  | amountUnreadable
  | numberNotFinite
  /-- A number is not greater than its lower bound. -/
  | notGreater
  /-- A number is less than its lower bound. -/
  | tooSmall
  /-- A number is greater than its upper bound. -/
  | tooLarge
  | notIdentifier
  | identifierUnreadable
  | notDay
  | dayUnreadable
  /-- A point in time is given that is not midnight. -/
  | dayNotMidnight
  /-- The day lies before the calendar. -/
  | dayOutside
  | notMoment
  /-- A number or a text denotes no point in time of the calendar. -/
  | momentOutside
  | momentUnreadable
  | notWhole
  | numberUnreadable
  | numberTooLong
  /-- A number with a fraction is given for a whole one. -/
  | numberFractional
  /-- The body is no document. -/
  | bodyUnreadable
  deriving DecidableEq, Repr

/-- The code of a problem in answers. -/
def ProblemKind.code : ProblemKind → String
  | .missing => "missing"
  | .unknownField => "extra_forbidden"
  | .notObject => "model_attributes_type"
  | .notList => "list_type"
  | .listTooShort => "too_short"
  | .notText => "string_type"
  | .textTooShort => "string_too_short"
  | .textTooLong => "string_too_long"
  | .notInVocabulary => "enum"
  | .notFlag => "bool_type"
  | .flagUnreadable => "bool_parsing"
  | .notAmount => "decimal_type"
  | .amountUnreadable => "decimal_parsing"
  | .numberNotFinite => "finite_number"
  | .notGreater => "greater_than"
  | .tooSmall => "greater_than_equal"
  | .tooLarge => "less_than_equal"
  | .notIdentifier => "uuid_type"
  | .identifierUnreadable => "uuid_parsing"
  | .notDay => "date_type"
  | .dayUnreadable => "date_from_datetime_parsing"
  | .dayNotMidnight => "date_from_datetime_inexact"
  | .dayOutside => "date_parsing"
  | .notMoment => "datetime_type"
  | .momentOutside => "datetime_parsing"
  | .momentUnreadable => "datetime_from_date_parsing"
  | .notWhole => "int_type"
  | .numberUnreadable => "int_parsing"
  | .numberTooLong => "int_parsing_size"
  | .numberFractional => "int_from_float"
  | .bodyUnreadable => "json_invalid"

/-- A problem with the part of a request at a location. `given` is what stands there; where something
    is missing, it is what surrounds the gap. -/
structure Problem where
  location : Location
  kind : ProblemKind
  given : Json
  deriving BEq, Repr

/-! ## Checks -/

/-- Result of a check: the value, or what is wrong. -/
inductive Checked (α : Type) where
  | accepted (value : α)
  | refused (problems : List Problem)
  deriving Repr

namespace Checked

variable {α β : Type}

/-- What is wrong; nothing if the value was accepted. -/
def problems : Checked α → List Problem
  | accepted _ => []
  | refused ps => ps

/-- Apply a function; the problems of both parts come one after the other. -/
def apply : Checked (α → β) → Checked α → Checked β
  | accepted f, accepted a => accepted (f a)
  | accepted _, refused ps => refused ps
  | refused ps, accepted _ => refused ps
  | refused ps, refused qs => refused (ps ++ qs)

instance : Applicative Checked where
  pure := accepted
  seq f x := apply f (x ())

/-- Refuse with one problem. -/
def refuse (location : Location) (kind : ProblemKind) (given : Json) : Checked α :=
  refused [⟨location, kind, given⟩]

/-- Go on with an accepted value. -/
def andThen : Checked α → (α → Checked β) → Checked β
  | accepted a, f => f a
  | refused ps, _ => refused ps

/-- The problems of two parts of a request come one after the other. -/
theorem problems_apply (f : Checked (α → β)) (x : Checked α) :
    (apply f x).problems = f.problems ++ x.problems := by
  cases f <;> cases x <;> simp [apply, problems]

end Checked

end Bookkeeping.Request
