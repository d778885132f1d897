import Bookkeeping.Entry.Basic
import Bookkeeping.Json.Values
import Bookkeeping.Request.Reader

set_option autoImplicit false

/-! # Requests about journal entries

The documents from which entries are created, edited and reversed, read and written. -/

namespace Bookkeeping.Request

/-- Most characters of a memo, a description or a reason. -/
def maxNote : Nat := 500

/-- A memo, a description or a reason. -/
def note : Reader String := Reader.atMost text maxNote

/-! ## Lines -/

/-- A debit or credit that is proposed. -/
def postingLine : Shape PostingLine :=
  PostingLine.mk
    <$> required "account_id" identifier
    <*> withDefault "debit" .zero amountFromZero
    <*> withDefault "credit" .zero amountFromZero
    <*> optional "description" note

/-- The lines of an entry, at least two. -/
def postingLines : Shape (List PostingLine) :=
  required "lines" (listOf 2 (object postingLine))

/-- The document of a proposed line. -/
def ofPostingLine (l : PostingLine) : Json :=
  .object
    [("account_id", .ofUuid l.account), ("debit", .ofAmount l.debit), ("credit", .ofAmount l.credit),
      ("description", .ofText? l.description)]

/-! ## Creating entries -/

/-- An entry to be created, as a draft or posted at once. -/
structure NewEntry where
  company : Uuid
  date : Date
  memo : Option String
  source : EntrySource
  sourceId : Option Uuid
  post : Bool
  lines : List PostingLine
  deriving DecidableEq, Repr

/-- An entry to be created. -/
def newEntry : Shape NewEntry :=
  NewEntry.mk
    <$> required "company_id" identifier
    <*> required "date" day
    <*> optional "memo" note
    <*> withDefault "source" .manual (word EntrySource.ofText?)
    <*> optional "source_id" identifier
    <*> withDefault "post" false flag
    <*> postingLines

/-- The document of an entry to be created. -/
def ofNewEntry (e : NewEntry) : Json :=
  .object
    [("company_id", .ofUuid e.company), ("date", .ofDate e.date), ("memo", .ofText? e.memo),
      ("source", .text e.source.toText), ("source_id", .ofOption .ofUuid e.sourceId),
      ("post", .bool e.post), ("lines", .list (e.lines.map ofPostingLine))]

/-- The header of an entry that a user creates. -/
def NewEntry.header (e : NewEntry) (user : String) : EntryHeader :=
  { company := e.company
    date := e.date
    createdBy := user
    memo := e.memo
    source := e.source
    sourceId := e.sourceId }

/-! ## Editing drafts -/

/-- A draft to be edited; its lines are replaced. -/
structure DraftEdit where
  update : EntryUpdate
  lines : List PostingLine
  deriving DecidableEq, Repr

/-- A draft to be edited. The day goes by two names; fields that do not exist are refused. -/
def draftEdit : Shape DraftEdit :=
  closed [["date", "entry_date"], ["memo"], ["lines"]]
    ((fun date memo lines => ⟨⟨date, memo⟩, lines⟩)
      <$> optionalUnder ["date", "entry_date"] day
      <*> optional "memo" note
      <*> postingLines)

/-- The document of a draft to be edited. -/
def ofDraftEdit (e : DraftEdit) : Json :=
  .object
    [("entry_date", .ofOption .ofDate e.update.date), ("memo", .ofText? e.update.memo),
      ("lines", .list (e.lines.map ofPostingLine))]

/-! ## Reversing entries -/

/-- How an entry is to be reversed. -/
structure Reversal where
  reason : Option String := none
  date : Option Date := none
  deriving DecidableEq, Repr

/-- How an entry is to be reversed. -/
def reversal : Shape Reversal :=
  Reversal.mk <$> optional "reason" note <*> optional "reversal_date" day

/-- The document of how an entry is to be reversed. -/
def ofReversal (r : Reversal) : Json :=
  .object [("reason", .ofText? r.reason), ("reversal_date", .ofOption .ofDate r.date)]

end Bookkeeping.Request
