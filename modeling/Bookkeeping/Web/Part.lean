import Bookkeeping.Failure
import Bookkeeping.Json.Values

set_option autoImplicit false

/-! # Parts of answers

A part of an answer is a document together with the gaps in it. Parts are put together as objects and
lists, by which the places of the gaps grow; a whole without gaps can be shown (`Part.shown`). -/

namespace Bookkeeping.Web

/-- A part of an answer, with the gaps in it. -/
structure Part where
  json : Json
  gaps : List Gap := []
  deriving Repr

namespace Part

/-- A part without gaps. -/
def ofJson (j : Json) : Part := ⟨j, []⟩

/-- A part that cannot be shown. -/
def missing (reason : GapReason) : Part := ⟨.null, [⟨[], reason⟩]⟩

/-- An amount, which must be finite. -/
def ofAmount (d : Decimal) : Part :=
  if d.isFinite then ofJson (.ofAmount d) else missing (.notFinite d)

/-- The gaps of a part as seen from the outside of what holds it under a name. -/
def gapsUnder (name : String) (p : Part) : List Gap :=
  p.gaps.map fun g => { g with place := name :: g.place }

/-- An object. -/
def object (fields : List (String × Part)) : Part :=
  ⟨.object (fields.map fun f => (f.1, f.2.json)), fields.flatMap fun f => f.2.gapsUnder f.1⟩

/-- The gaps in items of a list from index `i` on. -/
def gapsFrom : Nat → List Part → List Gap
  | _, [] => []
  | i, p :: rest => p.gapsUnder (Text.natText i) ++ gapsFrom (i + 1) rest

/-- A list. -/
def list (items : List Part) : Part := ⟨.list (items.map Part.json), gapsFrom 0 items⟩

/-- The document of a part under its name, unless it has gaps. -/
def shown (document : String) (p : Part) : Except Failure Json :=
  if p.gaps.isEmpty then .ok p.json else .error (.value (.gaps document p.gaps))

/-- A part without gaps is shown. -/
theorem shown_ofJson (document : String) (j : Json) : (ofJson j).shown document = .ok j := rfl

end Part

end Bookkeeping.Web
