import Bookkeeping.Failure

set_option autoImplicit false

/-! # Clocks

The clock that a call reads stands still while the call lasts. Every reading answers the same: a point
in time of the UTC clock, or why there is none. A clock somewhere in the world shows a reading with or
without its offset from UTC, and may show one that has no UTC time in the calendar. -/

namespace Bookkeeping

/-- What every reading of a clock answers. -/
abbrev Clock := Except Failure Instant

namespace Clock

/-- A clock that shows a reading. Where the offset is not known, the day before is looked at to find it,
    and the first day of the calendar has none before it. -/
def showing (t : Stamped) : Clock :=
  match t.offset, t.toUtc? with
  | none, some now => if now.date = Date.first then .error (.value .clockYear) else .ok now
  | _, some now => .ok now
  | _, none => .error .outsideCalendar

/-- A time that is known already, or else what the clock shows. -/
def unlessKnown (clock : Clock) : Option Instant → Clock
  | some t => .ok t
  | none => clock

end Clock

end Bookkeeping
