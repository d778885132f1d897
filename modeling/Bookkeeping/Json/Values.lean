import Bookkeeping.Calendar.Instant
import Bookkeeping.Decimal.Text
import Bookkeeping.Json.Basic
import Bookkeeping.Uuid

set_option autoImplicit false

/-! # Values of the ledger in documents

How amounts, days, points in time and identifiers stand in documents: as texts, an absent value as
null. An amount is also taken from a number, by the text of that number. -/

namespace Bookkeeping.Json

/-- An amount, by its exact text. -/
def ofAmount (d : Decimal) : Json := .text d.toText

/-- A day. -/
def ofDate (d : Date) : Json := .text d.toText

/-- A point in time. -/
def ofInstant (t : Instant) : Json := .text t.toZuluText

/-- An identifier. -/
def ofUuid (u : Uuid) : Json := .text u.toText

/-- The amount that a document stands for; null is zero. -/
def toAmount : Json → Except Decimal.Fault Decimal
  | .null => .ok .zero
  | .int n => Decimal.parse (Text.intText n)
  | .float x => Decimal.parse x.toText
  | .text s => Decimal.parse s
  | _ => .error .conversionSyntax

/-- A value that may be absent. -/
def ofOption {α : Type} (write : α → Json) : Option α → Json
  | some a => write a
  | none => .null

end Bookkeeping.Json
