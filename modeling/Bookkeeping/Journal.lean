import Bookkeeping.Procedure

set_option autoImplicit false

/-! # The journal

Writing entries and taking them through their life: a draft may be edited, posted, made void or
deleted; a posted entry is only corrected by another entry that reverses it. -/

namespace Bookkeeping.Journal

open Procedure

/-! ## Reading -/

/-- The entry with an identifier. -/
def getEntry (id : Uuid) : Procedure (Entry Decimal) := do
  match ← perform (.entry id) with
  | some e => return e
  | none => reject (.entryNotFound id)

/-- The entries of a company, newest first. -/
def listEntries (company : Uuid) (status : Option EntryStatus) : Procedure (List (Entry Decimal)) :=
  perform (.entriesOf company status)

/-- The number that the next entry of a day would receive. It is not reserved: another entry may be
    written first. -/
def nextEntryNumber (s : Setting) (company : Uuid) (date : Date) : Procedure String := do
  let dayPrefix := EntryNumber.dayPrefix s.numberWord date
  let sequence ← perform (.peekSequence company dayPrefix)
  if Text.maxNumberDigits < Decimal.digitCount sequence.natAbs then fail (.value .sequenceTooLong)
  return EntryNumber.format dayPrefix sequence

/-! ## Creating entries -/

/-- Check proposed lines against the accounts of the store. -/
def validateLines (lines : List PostingLine) (company : Uuid) : Procedure (Decimal × Decimal) := do
  let accounts ← perform (.accountsById (lines.map PostingLine.account).eraseDups)
  let outcome := Posting.check (Posting.Directory.ofList accounts) (some company) lines
  notes outcome.notes
  ofExcept outcome.totals

/-- Note that an entry was created. -/
def createdNote (e : Entry Decimal) : String :=
  "Created journal entry " ++ e.number ++ " (" ++ e.status.toText ++ ", " ++ e.source.toText
    ++ ") with " ++ Text.natText e.lines.length ++ " lines"

/-- Note that an attempt to allocate a number met a conflict. -/
def conflictNote (dayPrefix : String) (attempt limit : Nat) (f : Failure) : String :=
  "Entry number allocation for " ++ dayPrefix ++ " conflicted (attempt " ++ Text.natText attempt
    ++ "/" ++ Text.natText limit ++ "): " ++ f.message

/-- Perform a creation, again after each conflict about the number, as often as attempts remain of
    `limit`. -/
def tryCreate (op : Op) (created : op.Result → Procedure (Entry Decimal)) (dayPrefix : String)
    (limit : Nat) : Nat → Procedure (Entry Decimal)
  | 0 => reject (.allocationFailed dayPrefix limit)
  | remaining + 1 => do
      match ← attempt op with
      | .ok e => created e
      | .error f =>
        if f.isRetried then
          log .warning (conflictNote dayPrefix (limit - remaining) limit f)
          tryCreate op created dayPrefix limit remaining
        else fail f

/-- Check lines and write an entry, as a draft or posted. -/
def createEntry (s : Setting) (h : EntryHeader) (lines : List PostingLine) (post : Bool) :
    Procedure (Entry Decimal) := do
  let _ ← validateLines lines h.company
  let status : EntryStatus := if post then .posted else .draft
  let postedBy := if post then some h.createdBy else none
  let dayPrefix := EntryNumber.dayPrefix s.numberWord h.date
  let created (e : Entry Decimal) : Procedure (Entry Decimal) := do
    log .info (createdNote e)
    return e
  tryCreate (.createEntry h lines dayPrefix status postedBy) created dayPrefix s.attempts s.attempts

/-! ## Life of an entry -/

/-- Refuse an action on an entry that is no draft. -/
def requireDraft (e : Entry Decimal) (action : String) : Procedure Unit :=
  match ensureDraft e.status e.number action with
  | .ok () => return ()
  | .error x => reject x

/-- Edit a draft and replace its lines. -/
def updateDraft (id : Uuid) (u : EntryUpdate) (lines : List PostingLine) (user : String) :
    Procedure (Entry Decimal) := do
  let entry ← getEntry id
  requireDraft entry "modified"
  let _ ← validateLines lines entry.company
  match ← perform (.replaceDraft id u lines user) with
  | none => reject (.noLongerDraft entry.number)
  | some updated =>
    log .info ("Updated draft entry " ++ updated.number)
    return updated

/-- Post a draft, after its lines have been checked again. -/
def postEntry (id : Uuid) (user : String) : Procedure (Entry Decimal) := do
  let entry ← getEntry id
  if entry.status == .posted then reject (.alreadyPosted entry.number)
  requireDraft entry "posted"
  let _ ← validateLines (entry.lines.map Line.toPosting) entry.company
  match ← perform (.transition id .draft .posted user) with
  | none => reject (.noLongerDraft entry.number)
  | some posted =>
    log .info ("Posted journal entry " ++ posted.number)
    return posted

/-- Make a draft void. -/
def voidEntry (id : Uuid) (user : String) : Procedure (Entry Decimal) := do
  let entry ← getEntry id
  requireDraft entry "voided"
  match ← perform (.transition id .draft .void user) with
  | none => reject (.noLongerDraft entry.number)
  | some voided =>
    log .info ("Voided draft entry " ++ voided.number)
    return voided

/-- The header of the entry that reverses another one. -/
def reversalHeader (e : Entry Decimal) (user : String) (reason : Option String) (date : Date) :
    EntryHeader :=
  let shown :=
    match reason with
    | none | some "" => "No reason provided"
    | some r => r
  { company := e.company
    date
    createdBy := user
    memo := some ("Reversal of " ++ e.number ++ ": " ++ shown)
    source := .reversal
    sourceId := some e.id
    reversedEntry := some e.id
    reversalReason := reason }

/-- The lines of the entry that reverses another one: debits and credits exchanged. -/
def reversalLines (e : Entry Decimal) : List PostingLine :=
  e.lines.map fun l => l.toPosting.swapped (some ("Reversal: " ++ l.description.getD ""))

/-- Reverse a posted entry by a posted entry with debits and credits exchanged. The reversed entry
    stays posted, so that the two together amount to nothing. -/
def reverseEntry (s : Setting) (id : Uuid) (user : String) (reason : Option String)
    (date : Option Date) : Procedure (Entry Decimal) := do
  let entry ← getEntry id
  if entry.status ≠ .posted then reject .reversalOfUnposted
  match ← perform (.reversalOf id) with
  | some existing => reject (.alreadyReversed entry.number existing.number)
  | none =>
    let day ←
      match date with
      | some d => pure d
      | none => pure (← ofExcept s.clock).date
    let header := reversalHeader entry user reason day
    let reversal ← createEntry s header (reversalLines entry) true
    log .info ("Reversed " ++ entry.number ++ " with " ++ reversal.number)
    return reversal

/-- Delete an entry that is not posted. -/
def deleteEntry (id : Uuid) : Procedure Unit := do
  let entry ← getEntry id
  if entry.status == .posted then reject (.entryPosted entry.number "deleted")
  perform (.deleteEntry id)
  log .info ("Deleted journal entry " ++ entry.number)

end Bookkeeping.Journal
