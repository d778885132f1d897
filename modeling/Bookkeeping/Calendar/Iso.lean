import Bookkeeping.Calendar.Instant
import Bookkeeping.Powers
import Bookkeeping.Text.Quoted

set_option autoImplicit false

/-! # ISO 8601 text of days and times

Days are read as `YYYY-MM-DD`, as `YYYYMMDD` or by week as `YYYY-Www-D` and its shorter forms; a
time may follow after one separating character, with or without colons, a fraction of a second and
an offset. The reader works on the bytes of the text and looks at positions, as the lengths of the
forms are what tells them apart. -/

namespace Bookkeeping

namespace Iso

/-- Why a text is not read as a day or a time. -/
inductive Fault where
  /-- The text has none of the forms. -/
  | malformed (text : String)
  /-- Year, month and day of month name no day. -/
  | date (fault : Date.Fault)
  | hour
  | minute
  | second
  /-- The offset, in microseconds, reaches a whole day. -/
  | offset (micros : Int)
  deriving DecidableEq, Repr

/-- Bytes of a text, as numbers. -/
abbrev Bytes := List Nat

/-- The bytes of a text. -/
def bytesOf (s : String) : Bytes := s.toUTF8.toList.map UInt8.toNat

/-- The byte at a position; zero after the end. -/
def byteAt (bs : Bytes) (i : Nat) : Nat := bs.getD i 0

/-- Is the byte an ASCII digit? -/
def isDigit (b : Nat) : Bool := 48 ≤ b && b ≤ 57

/-- Read exactly `n` digits from a position. -/
def digits? (bs : Bytes) (i n : Nat) : Option Nat :=
  let ds := (bs.drop i).take n
  if ds.length = n && ds.all isDigit then some (ds.foldl (fun acc b => acc * 10 + (b - 48)) 0)
  else none

/-! ## Days -/

/-- Year, month and day of month as written, not yet checked. -/
structure RawDate where
  year : Nat
  month : Nat
  day : Nat
  deriving DecidableEq, Repr

/-- Number of the Monday of the first week of a year: the week that holds its first Thursday. -/
def firstMonday (year : Nat) : Int :=
  let firstDay := Date.ordinalOfCivil year 1 1
  let w := Date.weekday firstDay
  if w > 3 then (firstDay : Int) - w + 7 else (firstDay : Int) - w

/-- Does a year have 53 weeks? -/
def hasLongYear (year : Nat) : Bool :=
  let w := Date.weekday (Date.ordinalOfCivil year 1 1)
  w == 3 || (w == 2 && Date.isLeap year)

/-- The day of a year, week and day of week. The weeks of year 0 lie before the calendar and name no
    month; the last days of the last week of year 9999 lie in the year after it. -/
def ofWeek? (year week day : Nat) : Option RawDate :=
  if 9999 < year ∨ week < 1 ∨ 53 < week ∨ (week = 53 ∧ hasLongYear year = false) then none
  else if day < 1 ∨ 7 < day then none
  else if year = 0 then some ⟨1, 0, 0⟩
  else
    match Date.ofOrdinal? (firstMonday year + (week - 1 : Nat) * 7 + (day - 1 : Nat)) with
    | some d => some ⟨d.civil.year, d.civil.month, d.civil.day⟩
    | none => some ⟨10000, 1, 1⟩

/-- Read a day from the first `len` bytes. -/
def readDate? (bs : Bytes) (len : Nat) : Option RawDate := do
  let year ← digits? bs 0 4
  let separated := byteAt bs 4 == 45
  let i := if separated then 5 else 4
  if byteAt bs i = 87 then
    let week ← digits? bs (i + 1) 2
    let j := i + 3
    if j < len then
      if separated && byteAt bs j != 45 then none
      else
        let day ← digits? bs (if separated then j + 1 else j) 1
        ofWeek? year week day
    else ofWeek? year week 1
  else
    let month ← digits? bs i 2
    if separated && byteAt bs (i + 2) != 45 then none
    else
      let day ← digits? bs (if separated then i + 3 else i + 2) 2
      some ⟨year, month, day⟩

/-- Check year, month and day of month. -/
def RawDate.check (r : RawDate) : Except Fault Date :=
  match Date.ofCivil r.year r.month r.day with
  | .ok d => .ok d
  | .error f => .error (.date f)

/-- Read a day. The text has seven, eight or ten bytes. -/
def parseDate (s : String) : Except Fault Date :=
  let bs := bytesOf s
  let len := bs.length
  if len = 7 || len = 8 || len = 10 then
    match readDate? bs len with
    | some r => r.check
    | none => .error (.malformed s)
  else .error (.malformed s)

/-! ## Times -/

/-- Fields of a time as written, and whether bytes were left over. -/
structure RawTime where
  hour : Nat
  minute : Nat
  second : Nat
  micros : Nat
  leftover : Bool
  deriving DecidableEq, Repr

/-- Read a fraction of a second that starts at `i` and ends before `stop`: up to six digits count,
    further digits are skipped. -/
def readFraction? (bs : Bytes) (i stop h m s : Nat) : Option RawTime := do
  let count := min (stop - i) 6
  let value ← digits? bs i count
  let after := (bs.drop (i + count)).dropWhile isDigit
  some ⟨h, m, s, value * pow10 (6 - count), !after.isEmpty && after.headD 0 != 0⟩

/-- Read hours, then minutes and seconds if there are any, then a fraction, from `i` to `stop`.
    Either colons stand between all fields or between none. -/
def readTime? (bs : Bytes) (i stop : Nat) : Option RawTime := do
  let h ← digits? bs i 2
  let colons := byteAt bs (i + 2) == 58
  if stop ≤ i + 3 then some ⟨h, 0, 0, 0, byteAt bs (i + 2) != 0⟩
  else if !colons && (byteAt bs (i + 2) = 46 || byteAt bs (i + 2) = 44) then
    readFraction? bs (i + 3) stop h 0 0
  else
    let j := if colons then i + 3 else i + 2
    let m ← digits? bs j 2
    let c := byteAt bs (j + 2)
    if stop ≤ j + 3 then some ⟨h, m, 0, 0, c != 0⟩
    else if !(colons && c == 58) && (c = 46 || c = 44) then readFraction? bs (j + 3) stop h m 0
    else if colons && c != 58 then none
    else
      let k := if colons then j + 3 else j + 2
      let s ← digits? bs k 2
      let c' := byteAt bs (k + 2)
      if stop ≤ k + 3 then some ⟨h, m, s, 0, c' != 0⟩
      else if (colons && c' == 58) || c' = 46 || c' = 44 then readFraction? bs (k + 3) stop h m s
      else if colons then none
      else readFraction? bs (k + 2) stop h m s

/-- Position of the first byte from `i` on that begins an offset. -/
def offsetStart (bs : Bytes) (i : Nat) : Nat :=
  i + ((bs.drop i).takeWhile fun b => b != 43 && b != 45 && b != 90).length

/-- Microseconds of the fields of a time. -/
def RawTime.total (t : RawTime) : Nat :=
  (t.hour * 3600 + t.minute * 60 + t.second) * Instant.second + t.micros

/-- Read a time and an optional offset from position `i` to the end. An offset below one second counts
    as none. -/
def readClock? (bs : Bytes) (i : Nat) : Option (RawTime × Option Int) := do
  let stop := bs.length
  let z := offsetStart bs i
  let t ← readTime? bs i z
  if z = stop then
    if t.leftover then none else some (t, none)
  else if byteAt bs z = 90 then
    if byteAt bs (z + 1) = 0 then some (t, some 0) else none
  else
    let o ← readTime? bs (z + 1) stop
    if o.leftover then none
    else if o.total < Instant.second then some (t, some 0)
    else some (t, some (if byteAt bs z = 45 then -(o.total : Int) else (o.total : Int)))

/-- Position of the character between day and time. -/
def separatorIndex (bs : Bytes) : Nat :=
  let len := bs.length
  if len = 7 then 7
  else if byteAt bs 4 = 45 then
    if byteAt bs 5 = 87 then
      if len > 8 && byteAt bs 8 == 45 then
        if len > 10 && isDigit (byteAt bs 10) then 8 else 10
      else 8
    else 10
  else if byteAt bs 4 = 87 then
    let run := ((bs.drop 7).takeWhile isDigit).length
    if 7 + run < 9 then 7 + run else if (7 + run) % 2 = 0 then 7 else 8
  else 8

/-- Bytes of the character that begins with the byte `b`. -/
def charWidth (b : Nat) : Nat :=
  if b < 128 then 1 else if b / 16 = 14 then 3 else if b / 16 = 15 then 4 else 2

/-- Check the fields of a time. -/
def RawTime.check (t : RawTime) : Except Fault Nat :=
  if 23 < t.hour then .error .hour
  else if 59 < t.minute then .error .minute
  else if 59 < t.second then .error .second
  else .ok t.total

/-- Read a day with an optional time and offset. The offset is checked before the day, the day
    before the time. -/
def parseStamped (s : String) : Except Fault Stamped :=
  let bs := bytesOf s
  let malformed : Except Fault Stamped := .error (.malformed s)
  let len := bs.length
  if len < 7 then malformed
  else
    let sep := separatorIndex bs
    match readDate? bs sep with
    | none => malformed
    | some rawDate =>
      let parsed : Option (RawTime × Option Int) :=
        if len ≤ sep then some (⟨0, 0, 0, 0, false⟩, none)
        else readClock? bs (sep + charWidth (byteAt bs sep))
      match parsed with
      | none => malformed
      | some (rawTime, offset) => do
        match offset with
        | some o => if Instant.day ≤ o.natAbs then throw (.offset o)
        | none => pure ()
        let date ← rawDate.check
        let time ← rawTime.check
        match Instant.ofDate date time with
        | some t => pure ⟨t, offset⟩
        | none => malformed

/-! ## Messages -/

/-- A span of time by days, seconds and microseconds, those that are not zero, each within its unit
    from zero on; the sign is carried by the days. -/
def spanText (micros : Int) : String :=
  let days := micros.fdiv Instant.day
  let rest := (micros.fmod Instant.day).toNat
  let parts :=
    (if days = 0 then [] else ["days=" ++ Text.intText days]) ++
    (if rest / Instant.second = 0 then [] else ["seconds=" ++ Text.natText (rest / Instant.second)]) ++
    (if rest % Instant.second = 0 then [] else
      ["microseconds=" ++ Text.natText (rest % Instant.second)])
  "datetime.timedelta(" ++ (if parts.isEmpty then "0" else String.intercalate ", " parts) ++ ")"

/-- The message for a text that is not read. -/
def Fault.message : Fault → String
  | .malformed s => "Invalid isoformat string: " ++ Text.quoted s
  | .date (.year y) => "year " ++ Text.natText y ++ " is out of range"
  | .date .month => "month must be in 1..12"
  | .date .day => "day is out of range for month"
  | .hour => "hour must be in 0..23"
  | .minute => "minute must be in 0..59"
  | .second => "second must be in 0..59"
  | .offset o =>
      "offset must be a timedelta strictly between -timedelta(hours=24) and timedelta(hours=24), not "
        ++ spanText o ++ "."

end Iso

end Bookkeeping
