import Bookkeeping.Powers
import Bookkeeping.Text.Hex
import Bookkeeping.Text.Utf8
import Bookkeeping.Text.Encoding
import Bookkeeping.Text.Blank
import Bookkeeping.Text.Digits
import Bookkeeping.Text.Cased
import Bookkeeping.Text.LetterCase
import Bookkeeping.Text.Quoted
import Bookkeeping.Text.Wildcard
import Bookkeeping.Decimal.Basic
import Bookkeeping.Decimal.Arithmetic
import Bookkeeping.Decimal.Text
import Bookkeeping.Binary64.Basic
import Bookkeeping.Binary64.Shortest
import Bookkeeping.Binary64.Places
import Bookkeeping.Calendar.Date
import Bookkeeping.Calendar.Instant
import Bookkeeping.Calendar.Iso
import Bookkeeping.Calendar.Lenient
import Bookkeeping.Json.Basic
import Bookkeeping.Json.Parser
import Bookkeeping.Json.Values
import Bookkeeping.Uuid
import Bookkeeping.Account
import Bookkeeping.Chart
import Bookkeeping.Gap
import Bookkeeping.Failure
import Bookkeeping.Clock
import Bookkeeping.Entry.Basic
import Bookkeeping.Entry.Number
import Bookkeeping.Window
import Bookkeeping.Invoice
import Bookkeeping.Posting
import Bookkeeping.Store.Cell
import Bookkeeping.Store.Basic
import Bookkeeping.Store.Statement
import Bookkeeping.Store.Write
import Bookkeeping.Store.Accounts
import Bookkeeping.Store.Entries
import Bookkeeping.Store.Totals
import Bookkeeping.Procedure
import Bookkeeping.Registry
import Bookkeeping.Journal
import Bookkeeping.Documents
import Bookkeeping.Reports
import Bookkeeping.Request.Problem
import Bookkeeping.Request.Reader
import Bookkeeping.Request.Account
import Bookkeeping.Request.Journal
import Bookkeeping.Request.Document
import Bookkeeping.Log.Template
import Bookkeeping.Log.Line
import Bookkeeping.Settings
import Bookkeeping.Web.Address
import Bookkeeping.Request.Whole
import Bookkeeping.Request.Record
import Bookkeeping.Web.Part
import Bookkeeping.Web.Representation
import Bookkeeping.Web.Call
import Bookkeeping.Web.Answer
import Bookkeeping.Web.Route
import Bookkeeping.Web.Service
import Bookkeeping.Session
import Bookkeeping.Seeding
import Bookkeeping.Main
import Bookkeeping.Proofs.Transaction
import Bookkeeping.Proofs.Outcome
import Bookkeeping.Proofs.Writes
import Bookkeeping.Proofs.AllOrNothing
import Bookkeeping.Proofs.Calls
import Bookkeeping.Proofs.Runs
import Bookkeeping.Proofs.Atomicity
import Bookkeeping.Proofs.Lifecycle
import Bookkeeping.Proofs.CalendarText
import Bookkeeping.Proofs.ClockFaces
import Bookkeeping.Proofs.NumberText
import Bookkeeping.Proofs.NumberReading
import Bookkeeping.Proofs.UtcTime
import Bookkeeping.Proofs.Numbering
import Bookkeeping.Proofs.DecimalValue
import Bookkeeping.Proofs.DoubleValue
import Bookkeeping.Proofs.PostingCheck
import Bookkeeping.Proofs.ReadBack
import Bookkeeping.Proofs.DoubleEntry
import Bookkeeping.Proofs.Reversal
import Bookkeeping.Proofs.Integrity
import Bookkeeping.Proofs.StoredSums
import Bookkeeping.Proofs.WrittenAmounts
import Bookkeeping.Proofs.Balances
import Bookkeeping.Proofs.TrialBalance
import Bookkeeping.Proofs.AccountLedger
import Bookkeeping.Proofs.Conservation
import Bookkeeping.Proofs.Invisible
import Bookkeeping.Proofs.FreshNumbers
import Bookkeeping.Proofs.Performing
import Bookkeeping.Proofs.Retries
import Bookkeeping.Proofs.SumBounds
import Bookkeeping.Proofs.ReportsAnswer
import Bookkeeping.Proofs.Isolation
import Bookkeeping.Proofs.Netting
import Bookkeeping.Proofs.Acceptance
import Bookkeeping.Proofs.NumberSupply
import Bookkeeping.Proofs.PostingPaths
import Bookkeeping.Proofs.Interleaving
import Bookkeeping.Proofs.ReversalRace
import Bookkeeping.Proofs.PostingRace
import Bookkeeping.Proofs.RunningBalance
import Bookkeeping.Proofs.LedgerListing
import Bookkeeping.Proofs.Rearrangement
import Bookkeeping.Proofs.IndependentCreations
import Bookkeeping.Proofs.Precision
import Bookkeeping.Proofs.PostingVerdict
import Bookkeeping.Proofs.ExactTotals
import Bookkeeping.Proofs.Searching
import Bookkeeping.Proofs.NumberPreview
import Bookkeeping.Proofs.NumberScan
import Bookkeeping.Proofs.OpeningAccounts
import Bookkeeping.Proofs.AccountEdits
import Bookkeeping.Proofs.RoundingOrder
import Bookkeeping.Proofs.InvoiceSums
import Bookkeeping.Proofs.InvoicePosting
import Bookkeeping.Proofs.Admission
import Bookkeeping.Proofs.AmountFaults
import Bookkeeping.Proofs.JournalFaults
import Bookkeeping.Proofs.DocumentFaults
import Bookkeeping.Proofs.AnswerStatuses
