import Bookkeeping.Text.Digits

set_option autoImplicit false

/-! # Days

Days of the proleptic Gregorian calendar in the years 1 to 9999. A day is its number, counted from
the first day of year 1, so that days are compared, sorted and shifted as numbers; `civil` gives
year, month and day of month, and `ofCivil?` finds the day again. -/

namespace Bookkeeping

/-- Number of the last day of year 9999. -/
def Date.maxOrdinal : Nat := 3652059

/-- A day, numbered from 1 for the first day of year 1. -/
@[ext]
structure Date where
  ordinal : Nat
  pos : 1 ≤ ordinal
  le_max : ordinal ≤ Date.maxOrdinal
  deriving DecidableEq, Repr

/-- Year, month and day of month. -/
structure Civil where
  year : Nat
  month : Nat
  day : Nat
  deriving DecidableEq, Repr

namespace Date

/-! ## Years and months -/

/-- Leap years are divisible by 4, and by 400 if they are divisible by 100. -/
def isLeap (year : Nat) : Bool :=
  year % 4 == 0 && (year % 100 != 0 || year % 400 == 0)

/-- Days of the years before `year`. -/
def daysBeforeYear (year : Nat) : Nat :=
  let y := year - 1
  y * 365 + y / 4 - y / 100 + y / 400

/-- Lengths of the months of a year. -/
def monthLengths (leap : Bool) : List Nat :=
  [31, if leap then 29 else 28, 31, 30, 31, 30, 31, 31, 30, 31, 30, 31]

/-- Days in a month, zero for a month outside 1 to 12. -/
def daysInMonth (year month : Nat) : Nat :=
  if month = 0 then 0 else (monthLengths (isLeap year)).getD (month - 1) 0

/-- Days of the months before `month`. -/
def daysBeforeMonth (year month : Nat) : Nat :=
  ((monthLengths (isLeap year)).take (month - 1)).foldl (· + ·) 0

/-- Find the month that holds a day of the year (from 0), and the day in it (from 1). -/
def monthOfDay : List Nat → Nat → Nat → Nat × Nat
  | [], month, d => (month, d + 1)
  | len :: rest, month, d => if d < len then (month, d + 1) else monthOfDay rest (month + 1) (d - len)

/-- The year that holds the day `n` (from 0): an estimate by the mean length of a year, corrected by
    one year where it misses. -/
def yearOfDay (n : Nat) : Nat :=
  let y := n * 400 / 146097 + 1
  if n < daysBeforeYear y then y - 1
  else if daysBeforeYear (y + 1) ≤ n then y + 1
  else y

/-- Year, month and day of month of a day. -/
def civil (d : Date) : Civil :=
  let n := d.ordinal - 1
  let year := yearOfDay n
  let (month, day) := monthOfDay (monthLengths (isLeap year)) 1 (n - daysBeforeYear year)
  ⟨year, month, day⟩

/-! ## Making days -/

/-- The day with a number, if it lies in the calendar. -/
def ofOrdinal? (n : Int) : Option Date :=
  if h : 1 ≤ n ∧ n ≤ (maxOrdinal : Int) then
    some ⟨n.toNat, by omega, by omega⟩
  else none

/-- Why year, month and day of month name no day. -/
inductive Fault where
  | year (y : Nat)
  | month
  | day
  deriving DecidableEq, Repr

/-- Number of the day that a year, month and day of month name. -/
def ordinalOfCivil (year month day : Nat) : Nat :=
  daysBeforeYear year + daysBeforeMonth year month + day

/-- The day with the given year, month and day of month. -/
def ofCivil (year month day : Nat) : Except Fault Date :=
  if year < 1 ∨ 9999 < year then .error (.year year)
  else if month < 1 ∨ 12 < month then .error .month
  else if day < 1 ∨ daysInMonth year month < day then .error .day
  else
    match ofOrdinal? (ordinalOfCivil year month day) with
    | some d => .ok d
    | none => .error .day

/-! ## Order and text -/

instance : LE Date := ⟨fun a b => a.ordinal ≤ b.ordinal⟩

instance : LT Date := ⟨fun a b => a.ordinal < b.ordinal⟩

instance (a b : Date) : Decidable (a ≤ b) := inferInstanceAs (Decidable (a.ordinal ≤ b.ordinal))

instance (a b : Date) : Decidable (a < b) := inferInstanceAs (Decidable (a.ordinal < b.ordinal))

/-- The first day of the calendar. -/
def first : Date := ⟨1, by decide, by decide⟩

instance : Inhabited Date := ⟨first⟩

/-- The text `YYYY-MM-DD`. -/
def toText (d : Date) : String :=
  let c := d.civil
  Text.padZeros 4 (Text.natText c.year) ++ "-" ++ Text.padZeros 2 (Text.natText c.month) ++ "-" ++
    Text.padZeros 2 (Text.natText c.day)

/-- Year, month and day of month without separators. The year is not padded, the others have two
    digits. -/
def compactText (d : Date) : String :=
  let c := d.civil
  Text.natText c.year ++ Text.padZeros 2 (Text.natText c.month) ++ Text.padZeros 2 (Text.natText c.day)

/-- Day of the week, Monday being 0. -/
def weekday (ordinal : Nat) : Nat := (ordinal + 6) % 7

end Date

end Bookkeeping
