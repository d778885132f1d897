import Bookkeeping.Binary64.Shortest
import Bookkeeping.Calendar.Iso

set_option autoImplicit false

/-! # Days and times as requests give them

Requests may give a day as `YYYY-MM-DD`, as a date with a time, or as a number of seconds since the
start of 1970, written as a number or as text. A time is accepted only if it is midnight, on
whatever clock it was read: a request that names a moment within a day is refused rather than
rounded. Numbers beyond the watershed count milliseconds; of either only whole microseconds count.

Where a point in time is asked for, every time of day is taken, and a day alone stands for its
midnight.

The readers know the year 0, which is written like any other year but lies before the calendar. -/

namespace Bookkeeping

namespace Lenient

open Iso (Bytes bytesOf byteAt digits? isDigit)

/-- Why a value is not taken for a day. -/
inductive Fault where
  /-- It is neither a text nor a number. -/
  | kind
  /-- It denotes no point in time. -/
  | malformed
  /-- It denotes a point in time other than midnight. -/
  | notMidnight
  /-- It denotes a day before the calendar. -/
  | beforeCalendar
  deriving DecidableEq, Repr

/-- A clock reading: its day, `none` in the year 0, and the microseconds since midnight. -/
structure Reading where
  date : Option Date
  time : Nat
  deriving DecidableEq, Repr

/-- A reading with the offset of its clock from UTC in minutes, if it is known. -/
structure Moment where
  reading : Reading
  offset : Option Int
  deriving DecidableEq, Repr

/-- The day of a reading of a calendar day. -/
def inCalendar : Option Date → Except Fault Date
  | some d => .ok d
  | none => .error .beforeCalendar

/-- The day of a reading that is midnight. -/
def Reading.day (r : Reading) : Except Fault Date :=
  if r.time = 0 then inCalendar r.date else .error .notMidnight

/-! ## Numbers of seconds -/

/-- Magnitude beyond which a number counts milliseconds. -/
def watershed : Nat := 20000000000

/-- Microseconds of what a number of `units` counts: seconds, or milliseconds beyond the watershed. -/
def countedMicros (units : Nat) : Nat :=
  if units ≤ watershed * Binary64.one then Instant.second else 1000

/-- Number of the first day of 1970. -/
def epochOrdinal : Int := 719163

/-- First and last second that is accepted: the ends of the years 0 and 9999. -/
def firstSecond : Int := -62167219200
def lastSecond : Int := 253402300799

/-- The day that is `n` days after the first day of 1970; `none` in the year 0. -/
def dayFromEpoch (n : Int) : Option Date := Date.ofOrdinal? (n + epochOrdinal)

/-- The reading at a number of microseconds from the start of 1970, within the accepted years. -/
def ofMicros? (n : Int) : Option Reading :=
  let second := n.fdiv Instant.second
  if second < firstSecond ∨ lastSecond < second then none
  else some { date := dayFromEpoch (n.fdiv Instant.day), time := (n.fmod Instant.day).toNat }

/-- The whole number nearest to a fraction that was scaled and is a double now; a half goes up. -/
def nearestWhole : Binary64 → Nat
  | .finite _ units => Decimal.roundDiv .up units Binary64.one
  | _ => 0

/-- The reading at a number of seconds or milliseconds, given in the units of doubles. Whole part and
    fraction of the magnitude are turned into microseconds each by itself. -/
def ofUnits? (negative : Bool) (units : Nat) : Option Reading :=
  let scale := countedMicros units
  let whole := units / Binary64.one * scale
  let fraction := nearestWhole (.ofRatio false (units % Binary64.one * scale) Binary64.one)
  ofMicros? (Decimal.signed negative (whole + fraction))

/-- The reading at a whole number of seconds or milliseconds. -/
def ofWhole? (n : Int) : Option Reading := ofUnits? (n < 0) (n.natAbs * Binary64.one)

/-- The reading at a number of seconds or milliseconds that may have a fraction. -/
def ofBinary64? : Binary64 → Option Reading
  | .finite negative units => ofUnits? negative units
  | _ => none

/-! ## Texts -/

/-- Read a number: a whole number of 64 bits, or a number with a point that may have an exponent. -/
def readNumber? (s : String) : Option Reading :=
  let (negative, body) := Decimal.takeSign s.toList
  let whole := body.takeWhile Decimal.isAsciiDigit
  match body.drop whole.length with
  | [] =>
    let n := Decimal.asciiValue whole
    if whole.isEmpty || pow2 63 ≤ n then none else ofUnits? negative (n * Binary64.one)
  | '.' :: _ => (Binary64.ofText? s).bind ofBinary64?
  | _ => none

/-- Days of a month, in the year 0 too. -/
def dayOfCivil? (year month day : Nat) : Option (Option Date) :=
  if month < 1 ∨ 12 < month ∨ day < 1 ∨ Date.daysInMonth year month < day then none
  else
    match Date.ofCivil year month day with
    | .ok d => some (some d)
    | .error _ => some none

/-- Read the day that the first ten bytes give as `YYYY-MM-DD`. -/
def readDay? (bs : Bytes) : Option (Option Date) := do
  let year ← digits? bs 0 4
  let month ← digits? bs 5 2
  let day ← digits? bs 8 2
  if byteAt bs 4 = 45 ∧ byteAt bs 7 = 45 then dayOfCivil? year month day else none

/-- Read a fraction of a second behind its mark: at least one digit, of which six count. Answers
    microseconds and the position after it. -/
def readFraction? (bs : Bytes) (i : Nat) : Option (Nat × Nat) := do
  let count := ((bs.drop i).takeWhile isDigit).length
  if count = 0 then none
  else
    let used := min count 6
    let value ← digits? bs i used
    some (value * pow10 (6 - used), i + count)

/-- Read seconds with an optional fraction at a position, if a colon stands there. -/
def readSeconds? (bs : Bytes) (i : Nat) : Option (Nat × Nat) := do
  if byteAt bs i = 58 then
    let second ← digits? bs (i + 1) 2
    if 59 < second then none
    else if byteAt bs (i + 3) = 46 ∨ byteAt bs (i + 3) = 44 then
      let (micros, stop) ← readFraction? bs (i + 4)
      some (second * Instant.second + micros, stop)
    else some (second * Instant.second, i + 3)
  else some (0, i)

/-- Read hours, minutes and optional seconds. Answers microseconds and the position after them. -/
def readTime? (bs : Bytes) (i : Nat) : Option (Nat × Nat) := do
  let hour ← digits? bs i 2
  let minute ← digits? bs (i + 3) 2
  if byteAt bs (i + 2) ≠ 58 ∨ 23 < hour ∨ 59 < minute then none
  else
    let (rest, stop) ← readSeconds? bs (i + 5)
    some ((hour * 3600 + minute * 60) * Instant.second + rest, stop)

/-- Position after the sign of an offset: plus, hyphen or the minus sign of three bytes. -/
def skipOffsetSign? (bs : Bytes) (i : Nat) : Option Nat :=
  if byteAt bs i = 43 ∨ byteAt bs i = 45 then some (i + 1)
  else if (bs.drop i).take 3 = [226, 136, 146] then some (i + 3)
  else none

/-- Read what stands from a position to the end as an offset from UTC in minutes, or as nothing. -/
def readOffset? (bs : Bytes) (i : Nat) : Option (Option Int) := do
  let last := bs.drop i
  if last.isEmpty then some none
  else if last = [90] ∨ last = [122] then some (some 0)
  else
    let j ← skipOffsetSign? bs i
    let k := if byteAt bs (j + 2) = 58 then j + 3 else j + 2
    let hour ← digits? bs j 2
    let minute ← digits? bs k 2
    if minute < 60 ∧ hour < 24 ∧ bs.length = k + 2 then
      some (some (Decimal.signed (byteAt bs i ≠ 43) (hour * 60 + minute)))
    else none

/-- Read a day with a time: a letter T, a blank or an underscore between them, and an optional offset
    after them. The reading is that of the clock with the offset. -/
def readMoment? (bs : Bytes) : Option Moment := do
  let date ← readDay? bs
  let separator := byteAt bs 10
  if [84, 116, 32, 95].contains separator then
    let (time, stop) ← readTime? bs 11
    return ⟨⟨date, time⟩, ← readOffset? bs stop⟩
  else none

/-- The point in time that a text gives: a day with a time, or a number. -/
def readText? (s : String) : Option Moment :=
  (readMoment? (bytesOf s)).or ((readNumber? s).map fun r => ⟨r, some 0⟩)

/-- The day that a text gives as `YYYY-MM-DD`. -/
def readDayText? (s : String) : Option (Option Date) :=
  let bs := bytesOf s
  if bs.length = 10 then readDay? bs else none

/-! ## Days -/

/-- The day of a reading, if there is one. -/
def dayOf : Option Reading → Except Fault Date
  | some r => r.day
  | none => .error .malformed

/-- The day that a text gives. -/
def ofText (s : String) : Except Fault Date :=
  match readDayText? s with
  | some d => inCalendar d
  | none => dayOf ((readText? s).map Moment.reading)

/-- The day that a whole number gives. One beyond all doubles is not even a number of seconds. -/
def ofInt (n : Int) : Except Fault Date :=
  match Binary64.ofInt n with
  | .finite _ _ => dayOf (ofWhole? n)
  | _ => .error .kind

/-- The day that a number with a fraction gives. -/
def ofBinary64 (x : Binary64) : Except Fault Date := dayOf (ofBinary64? x)

/-! ## Points in time -/

/-- The point in time that a text gives. -/
def momentOfText (s : String) : Except Fault Moment :=
  match (readText? s).or ((readDayText? s).map fun d => ⟨⟨d, 0⟩, none⟩) with
  | some m => .ok m
  | none => .error .malformed

/-- The point in time that a number gives. -/
def momentOf : Option Reading → Except Fault Moment
  | some r => .ok ⟨r, some 0⟩
  | none => .error .malformed

/-- The point in time that a whole number gives. One beyond all doubles is not even a number of
    seconds. -/
def momentOfInt (n : Int) : Except Fault Moment :=
  match Binary64.ofInt n with
  | .finite _ _ => momentOf (ofWhole? n)
  | _ => .error .kind

/-- The text of an offset in minutes: the letter for UTC, or hours and minutes. -/
def offsetText (offset : Int) : String :=
  let two (n : Nat) : String := Text.padZeros 2 (Text.natText n)
  if offset = 0 then "Z"
  else
    (if offset < 0 then "-" else "+") ++ two (offset.natAbs / 60) ++ ":" ++ two (offset.natAbs % 60)

/-- The text of a point in time in the calendar. -/
def Moment.toText (m : Moment) : Except Fault String := do
  let day ← inCalendar m.reading.date
  return day.toText ++ "T" ++ Instant.timeText m.reading.time ++ (m.offset.map offsetText).getD ""

end Lenient

end Bookkeeping
