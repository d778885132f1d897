import Bookkeeping.Calendar.Instant
import Bookkeeping.Failure
import Bookkeeping.Log.Template

set_option autoImplicit false

/-! # Log lines

A log record as one line: a document with the point in time, the level, the name of the logger, the
message, and what was raised, if anything was. -/

namespace Bookkeeping.Log

open Bookkeeping.Text

/-! ## Levels -/

/-- The levels that have a name. -/
def levelNames : List (Int × String) :=
  [(0, "NOTSET"), (10, "DEBUG"), (20, "INFO"), (30, "WARNING"), (40, "ERROR"), (50, "CRITICAL")]

/-- The name of a level. -/
def levelName (level : Int) : String :=
  match levelNames.find? fun l => l.1 == level with
  | some l => l.2
  | none => "Level " ++ intText level

/-! ## Points in time -/

/-- A count of seconds after the start of 1970. A whole one is exact. -/
inductive Seconds where
  | whole (n : Int)
  | fractional (x : Binary64)
  /-- A value of another type, which counts nothing. -/
  | other (type : String)
  deriving DecidableEq, Repr

/-- The seconds that a value counts. -/
def Seconds.ofJson : Json → Seconds
  | .int n => .whole n
  | .bool b => .whole (if b then 1 else 0)
  | .float x => .fractional x
  | j => .other (typeWord j)

/-- Days from the first day of year 1 to the first day of 1970. -/
def epochDays : Int := 719162

/-- Microseconds of a number of seconds that is given in units of a double, a half going to the even
    neighbour. The whole seconds are exact; the fraction is scaled as a double. -/
def microsOf (negative : Bool) (units : Nat) : Int :=
  let whole := units / Binary64.one
  let fraction :=
    match Binary64.ofRatio false (units % Binary64.one * Instant.second) Binary64.one with
    | .finite _ u => Decimal.roundDiv .toEven u Binary64.one
    | _ => 0
  Decimal.signed negative (whole * Instant.second + fraction)

/-- The year in which a day lies that is `n` days after the first day of year 1. -/
def yearOf (n : Int) : Int :=
  let cycle := n.fdiv 146097
  Date.yearOfDay (n.fmod 146097).toNat + 400 * cycle

/-- Why a number of seconds is no point in time. -/
inductive ClockFault where
  /-- A value of this type counts no seconds. -/
  | notWhole (type : String)
  | notNumber
  /-- The clock does not count so many seconds. -/
  | seconds
  /-- The clock does not count so many years. -/
  | years
  /-- The year lies outside the calendar. -/
  | year (y : Int)
  deriving DecidableEq, Repr

/-- Why there is no clock reading in a year outside the calendar. The clock counts years from 1900
    in 32 bits, and what is told of the year is taken modulo 32 bits. -/
def yearFault (y : Int) : ClockFault :=
  if -(pow2 31 : Int) ≤ y - 1900 ∧ y - 1900 < pow2 31 then .year (y.bmod (pow2 32)) else .years

/-- Microseconds after the start of 1970, if the clock can count the seconds in 64 bits. -/
def Seconds.micros : Seconds → Except ClockFault Int
  | .other type => .error (.notWhole type)
  | .fractional .nan => .error .notNumber
  | .fractional (.infinity _) => .error .seconds
  | .fractional (.finite s u) => counted (microsOf s u)
  | .whole n => counted (n * Instant.second)
where
  /-- Microseconds whose whole seconds fit. -/
  counted (n : Int) : Except ClockFault Int :=
    let whole := n.fdiv Instant.second
    if whole < -(pow2 63 : Int) ∨ (pow2 63 : Int) ≤ whole then .error .seconds else .ok n

/-- The clock reading at a count of seconds. -/
def Seconds.instant (s : Seconds) : Except ClockFault Instant := do
  let n ← s.micros
  let micros := n + epochDays * Instant.day
  match Instant.ofMicros? micros with
  | some t => return t
  | none => throw (yearFault (yearOf (micros.fdiv Instant.day)))

/-! ## Lines -/

/-- What was raised: its kind and its text. -/
structure Raised where
  kind : String
  text : String
  deriving DecidableEq, Repr

/-- The text of what was raised; an empty text is left out. -/
def Raised.toText (r : Raised) : String :=
  if r.text.isEmpty then r.kind else r.kind ++ ": " ++ r.text

/-- A record to be written as a line. -/
structure Record where
  created : Seconds
  level : Int
  logger : String
  template : String
  args : List Json := []
  raised : Option Raised := none
  deriving Repr

/-- Why a record has no line. -/
inductive LineFault where
  /-- Its time is no point in time. -/
  | clock (fault : ClockFault)
  | template (fault : TemplateFault)
  deriving DecidableEq, Repr

/-- The wording of a fault of the clock. -/
def ClockFault.message : ClockFault → String
  | .notWhole type => "'" ++ type ++ "' object cannot be interpreted as an integer"
  | .notNumber => "Invalid value NaN (not a number)"
  | .seconds => "timestamp out of range for platform time_t"
  | .years => "[Errno 75] Value too large for defined data type"
  | .year y => "year " ++ intText y ++ " is out of range"

/-- The wording of a fault. -/
def LineFault.message : LineFault → String
  | .clock f => f.message
  | .template f => f.message

/-- The line of a record. -/
def Record.line (r : Record) : Except LineFault String := do
  let time ←
    match r.created.instant with
    | .ok t => pure t
    | .error f => throw (.clock f)
  let message ←
    match fill r.template r.args with
    | .ok m => pure m
    | .error f => throw (.template f)
  let fields : List (String × String) :=
    [("timestamp", Json.stringText time.toText), ("level", Json.stringText (levelName r.level)),
      ("logger", Json.stringText r.logger), ("message", Json.codesText message)]
  let raised : List (String × String) :=
    match r.raised with
    | some x => [("exc_info", Json.stringText x.toText)]
    | none => []
  let texts := (fields ++ raised).map fun f => Json.fieldText f.1 f.2
  return "\x7b" ++ String.intercalate ", " texts ++ "\x7d"

end Bookkeeping.Log
