import Bookkeeping.Calendar.Date

set_option autoImplicit false

/-! # Points in time

A clock reading in the years 1 to 9999, to the microsecond. The ledger keeps readings of the UTC
clock only; a reading that comes with an offset from UTC is first shifted by it (`Stamped.toUtc?`),
and one without an offset is taken for UTC. -/

namespace Bookkeeping

namespace Instant

/-- Microseconds in a second. -/
def second : Nat := 1000000

/-- Microseconds in a day. -/
def day : Nat := 86400 * second

/-- Microseconds of the whole calendar. -/
def span : Nat := Date.maxOrdinal * day

end Instant

/-- A clock reading, in microseconds from the start of year 1. -/
@[ext]
structure Instant where
  micros : Nat
  inRange : micros < Instant.span
  deriving DecidableEq, Repr

namespace Instant

instance : Inhabited Instant := ⟨⟨0, by decide⟩⟩

/-- The reading at a number of microseconds, if the calendar has it. -/
def ofMicros? (n : Int) : Option Instant :=
  if h : 0 ≤ n ∧ n < (span : Int) then some ⟨n.toNat, by omega⟩ else none

/-- The day on which the clock shows the reading. -/
def date (t : Instant) : Date :=
  ⟨t.micros / day + 1, Nat.le_add_left 1 _, by
    have h : t.micros / day < Date.maxOrdinal :=
      Nat.div_lt_of_lt_mul (by simpa [span, Nat.mul_comm] using t.inRange)
    omega⟩

/-- Microseconds since midnight. -/
def timeOfDay (t : Instant) : Nat := t.micros % day

/-- The reading on a day at a time of day. -/
def ofDate (d : Date) (time : Nat) : Option Instant :=
  ofMicros? ((d.ordinal - 1) * day + time : Nat)

/-! ## Text -/

/-- Hours, minutes and seconds, and the microseconds unless they are zero. -/
def timeText (time : Nat) : String :=
  let two (n : Nat) : String := Text.padZeros 2 (Text.natText n)
  let s := time / second
  let fraction := time % second
  two (s / 3600) ++ ":" ++ two (s / 60 % 60) ++ ":" ++ two (s % 60) ++
    (if fraction = 0 then "" else "." ++ Text.padZeros 6 (Text.natText fraction))

/-- Day and time, without an offset. -/
def localText (t : Instant) : String :=
  t.date.toText ++ "T" ++ timeText t.timeOfDay

/-- Day and time of the UTC clock, with its offset. -/
def toText (t : Instant) : String := t.localText ++ "+00:00"

/-- Day and time of the UTC clock, with the letter for UTC. -/
def toZuluText (t : Instant) : String := t.localText ++ "Z"

end Instant

/-! ## Readings with an offset -/

/-- A clock reading with the offset of that clock from UTC in microseconds, if it is known. -/
structure Stamped where
  clock : Instant
  offset : Option Int
  deriving DecidableEq, Repr

namespace Stamped

/-- The reading of the UTC clock at the same point in time; without an offset the reading is taken
    for UTC. There is none when it falls outside the calendar. -/
def toUtc? (t : Stamped) : Option Instant :=
  match t.offset with
  | none => some t.clock
  | some o => Instant.ofMicros? (t.clock.micros - o)

/-- A reading of the UTC clock, marked as such. -/
def ofUtc (t : Instant) : Stamped := ⟨t, some 0⟩

/-- The same point in time as a reading of the UTC clock, marked with its offset. Time stamps pass
    through this rule when they are written to the store and again when they are read. -/
def normalize? (t : Stamped) : Option Stamped := t.toUtc?.map ofUtc

/-- The reading without its offset; the store keeps no offsets. -/
def dropOffset (t : Stamped) : Stamped := { t with offset := none }

/-- The day of a reading: of the UTC clock when the offset is known, else of the clock itself. -/
def utcDate? (t : Stamped) : Option Date := t.toUtc?.map Instant.date

end Stamped

end Bookkeeping
