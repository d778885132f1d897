import Bookkeeping.Entry.Basic

set_option autoImplicit false

/-! # Entry numbers

Entries are numbered per company and day: a word, the day and a sequence number of at least three
digits, joined by hyphens, as in `JE-20240105-001`. The year is not padded, and a sequence may
outgrow its three digits. -/

namespace Bookkeeping.EntryNumber

open Bookkeeping.Text

/-- The part of a number that the entries of one day share. -/
def dayPrefix (word : String) (date : Date) : String :=
  word ++ "-" ++ date.compactText

/-- A sequence number with at least three characters, the sign counted among them. -/
def sequenceText (n : Int) : String :=
  if n < 0 then "-" ++ padZeros 2 (natText n.natAbs) else padZeros 3 (natText n.natAbs)

/-- The number of the entry with a sequence number. -/
def format (dayPrefix : String) (sequence : Int) : String :=
  dayPrefix ++ "-" ++ sequenceText sequence

/-- The part of a list of characters after its last hyphen, all of it if there is none. -/
def tail (cs : List Char) : List Char :=
  (cs.reverse.takeWhile (· ≠ '-')).reverse

/-- The sequence of an entry number: the number after the last hyphen, `none` when that part is not
    made of characters with a digit value. A part that is made of such characters may still be no
    number. -/
def sequenceOf (number : String) : Except Failure (Option Int) :=
  let t := tail number.toList
  if allDigitLike t then
    match readInt t with
    | .ok n => .ok (some n)
    | .error f => .error (.value (.number (String.ofList t) f))
  else .ok none

end Bookkeeping.EntryNumber
