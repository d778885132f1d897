import Bookkeeping.Decimal.Text

set_option autoImplicit false

/-! # Gaps in answers

An answer shows finite amounts only. Where it would have to show another amount, or a value that
cannot be computed, it has a gap; a document with gaps is not answered, and `Gap.report` tells about
all of them. -/

namespace Bookkeeping

/-- Why a part of an answer cannot be shown. -/
inductive GapReason where
  /-- It is an amount that is not finite. -/
  | notFinite (amount : Decimal)
  /-- It is a value that cannot be computed from something of a kind, which is outlined. -/
  | notComputed (kind outline : String)
  deriving DecidableEq, Repr

/-- A part of an answer that cannot be shown, and the way to it. -/
structure Gap where
  place : List String
  reason : GapReason
  deriving DecidableEq, Repr

namespace GapReason

/-- The code of a reason. -/
def code : GapReason → String
  | .notFinite _ => "finite_number"
  | .notComputed _ _ => "get_attribute_error"

/-- The wording of a reason. -/
def text : GapReason → String
  | .notFinite _ => "Input should be a finite number"
  | .notComputed _ _ =>
      "Error extracting attribute: InvalidOperation: [<class 'decimal.InvalidOperation'>]"

/-- What stands in the place of the gap, and its kind. -/
def found : GapReason → String × String
  | .notFinite d => ("Decimal('" ++ d.toText ++ "')", "Decimal")
  | .notComputed kind outline => (outline, kind)

end GapReason

namespace Gap

/-- Where reasons are explained. -/
def explanations : String := "https:" ++ "//errors.pydantic.dev/2.14/v/"

/-- What is told about a gap. -/
def message (g : Gap) : String :=
  let (value, kind) := g.reason.found
  String.intercalate "." g.place ++ "\n  " ++ g.reason.text ++ " [type=" ++ g.reason.code
    ++ ", input_value=" ++ value ++ ", input_type=" ++ kind ++ "]\n    For further information visit "
    ++ explanations ++ g.reason.code

/-- What is told about the gaps in a document. -/
def report (document : String) (gaps : List Gap) : String :=
  Text.natText gaps.length ++ " validation error" ++ (if gaps.length = 1 then "" else "s") ++ " for "
    ++ document ++ "\n" ++ String.intercalate "\n" (gaps.map message)

end Gap

end Bookkeeping
