import Bookkeeping.Request.Whole
import Bookkeeping.Web.Address
import Bookkeeping.Web.Call

set_option autoImplicit false

/-! # Routes

Which resource a path names, and which call a method on a resource makes. The values in the path, the
fields of the query and the body are checked together: problems are collected in this order. -/

namespace Bookkeeping.Web

open Request

/-! ## Resources -/

/-- What a path names. Identifiers in it are not checked yet. -/
inductive Resource where
  | root
  | health
  | accounts (company : String)
  | accountBatch (company : String)
  | chart (company : String)
  | vatAccounts (company : String)
  | accountByCode (company code : String)
  | account (id : String)
  | accountArchive (id : String)
  | journal
  | companyJournal (company : String)
  | entryNumber (company : String)
  | entry (id : String)
  | entryPost (id : String)
  | entryVoid (id : String)
  | entryReverse (id : String)
  | balances (company : String)
  | trialBalance (company : String)
  | ledger (account : String)
  | invoiceTotals
  | invoices
  | invoicePayments
  | expenses
  deriving DecidableEq, Repr

namespace Resource

/-- The resource of a company that segments name. -/
def ofCompany? (company : String) : List String → Option Resource
  | ["accounts"] => some (.accounts company)
  | ["accounts", "bulk"] => some (.accountBatch company)
  | ["accounts", "seed"] => some (.chart company)
  | ["accounts", "vat"] => some (.vatAccounts company)
  | ["accounts", "by-code", code] => some (.accountByCode company code)
  | ["journal"] => some (.companyJournal company)
  | ["entry-number"] => some (.entryNumber company)
  | _ => none

/-- The resource that segments behind the version name. -/
def ofVersioned? : List String → Option Resource
  | "companies" :: company :: rest => ofCompany? company rest
  | ["accounts", id] => some (.account id)
  | ["accounts", id, "archive"] => some (.accountArchive id)
  | ["journal"] => some .journal
  | ["journal", id] => some (.entry id)
  | ["journal", id, "post"] => some (.entryPost id)
  | ["journal", id, "void"] => some (.entryVoid id)
  | ["journal", id, "reverse"] => some (.entryReverse id)
  | ["reports", "companies", company, "balances"] => some (.balances company)
  | ["reports", "companies", company, "trial-balance"] => some (.trialBalance company)
  | ["reports", "accounts", id, "ledger"] => some (.ledger id)
  | ["documents", "invoice-totals"] => some .invoiceTotals
  | ["documents", "invoices"] => some .invoices
  | ["documents", "invoice-payments"] => some .invoicePayments
  | ["documents", "expenses"] => some .expenses
  | _ => none

/-- The resource that the segments of a path name. Only the root has an empty segment. -/
def ofSegments? (names : List String) : Option Resource :=
  if names = [""] then some .root
  else if names.any String.isEmpty then none
  else
    match names with
    | ["health"] => some .health
    | "api" :: "v1" :: rest => ofVersioned? rest
    | _ => none

/-- A path without a line end at its end. -/
def withoutLineEnd (path : List Char) : List Char :=
  if path.getLast? = some '\n' then path.dropLast else path

/-- The resource of a path. A path that names nothing is tried without a line end at its end; a line
    end behind a value in the path belongs to the value. -/
def ofPath? (path : List Char) : Option Resource :=
  (ofSegments? (segments path)).or (ofSegments? (segments (withoutLineEnd path)))

/-- A path without the slashes at its end. -/
def withoutSlashes (path : List Char) : List Char := (path.reverse.dropWhile (· = '/')).reverse

/-- Find the resource of a path, together with the path under which it was found. Where a path names
    nothing and names something without the slashes at its end, the client is sent there, and reads
    the shorter path as an address once more; `fuel` bounds how often. -/
def find? : Nat → List Char → Option (Resource × List Char)
  | 0, _ => none
  | fuel + 1, path =>
      match ofPath? path with
      | some r => some (r, path)
      | none =>
        let short := withoutSlashes path
        if short ≠ path ∧ (ofPath? short).isSome then find? fuel (readPath (beforeQuery short))
        else none

end Resource

/-! ## Methods -/

/-- The methods that resources take. -/
inductive Method where
  | get
  | post
  | put
  | patch
  | delete
  deriving DecidableEq, Repr

namespace Method

/-- All methods. -/
def all : List Method := [.get, .post, .put, .patch, .delete]

/-- The word for a method. -/
def toText : Method → String
  | .get => "GET"
  | .post => "POST"
  | .put => "PUT"
  | .patch => "PATCH"
  | .delete => "DELETE"

/-- The method that a word stands for. -/
def ofText? (s : String) : Option Method := all.find? fun m => m.toText == s

end Method

/-! ## Checking the parts of a request -/

/-- Check an identifier in the path. -/
def inPath (name value : String) : Checked Uuid :=
  identifier [.field "path", .field name] (.text value)

/-- Check the company in the path. -/
def companyInPath (value : String) : Checked Uuid := inPath "company_id" value

/-- Check the account in the path. -/
def accountInPath (value : String) : Checked Uuid := inPath "account_id" value

/-- Check the entry in the path. -/
def entryInPath (value : String) : Checked Uuid := inPath "entry_id" value

/-- Check the body, which must be given. -/
def inBody {α : Type} (shape : Shape α) : Option Json → Checked α
  | none => .refuse [.field "body"] .missing .null
  | some j => object shape [.field "body"] j

/-- Check the body, which may be missing or null. -/
def inOptionalBody {α : Type} (fallback : α) (shape : Shape α) : Option Json → Checked α
  | none | some .null => .accepted fallback
  | some j => object shape [.field "body"] j

/-- A field of a query that may be missing. -/
def queried {α : Type} (name : String) (read : Reader α) : Shape (Option α) :=
  withDefault name none fun at' j => some <$> read at' j

/-- The two ends of a range of days in a query. -/
def daysBetween (start stop : String) : Shape (Option Date × Option Date) :=
  Prod.mk <$> queried start day <*> queried stop day

/-- Most characters of a search term. -/
def maxSearch : Nat := 200

/-- What is asked for of the ledger of an account. -/
def ledgerQuery : Shape LedgerQuery :=
  LedgerQuery.mk
    <$> queried "date_start" day
    <*> queried "date_end" day
    <*> queried "search" (Reader.atMost text maxSearch)
    <*> queried "limit" (wholeFrom 1)
    <*> withDefault "offset" 0 (wholeFrom 0)

/-! ## Endpoints -/

/-- How a call is read from a request for a resource. -/
inductive Endpoint where
  /-- From the fields of the query; the body is not looked at. -/
  | ofQuery (read : List (String × Json) → Checked Call)
  /-- From the body, if there is one; the query is not looked at. -/
  | ofBody (read : Option Json → Checked Call)

namespace Endpoint

/-- An endpoint that needs the path only. -/
def ofPath (call : Checked Call) : Endpoint := .ofQuery fun _ => call

/-- An endpoint that needs an identifier in the path and fields of the query. -/
def withQuery {α β : Type} (call : α → β → Call) (target : Checked α) (shape : Shape β) : Endpoint :=
  .ofQuery fun fields => call <$> target <*> shape.check [.field "query"] fields

end Endpoint

/-- The endpoint of a method on a resource, unless the resource does not take the method. -/
def Resource.endpoint? : Resource → Method → Option Endpoint
  | .root, .get => some (.ofPath (.accepted .about))
  | .health, .get => some (.ofPath (.accepted .health))
  | .accounts c, .get =>
      some (.withQuery .listAccounts (companyInPath c) (withDefault "include_archived" false flag))
  | .accounts c, .post =>
      some (.ofBody fun b => .openAccount <$> companyInPath c <*> inBody accountDraft b)
  | .accountBatch c, .post =>
      some (.ofBody fun b => .openAccounts <$> companyInPath c <*> inBody accountDrafts b)
  | .chart c, .post => some (.ofPath (.seedChart <$> companyInPath c))
  | .vatAccounts c, .get => some (.ofPath (.vatAccounts <$> companyInPath c))
  | .accountByCode c code, .get =>
      some (.ofPath ((fun company => .accountByCode company code) <$> companyInPath c))
  | .account a, .get => some (.ofPath (.account <$> accountInPath a))
  | .account a, .patch =>
      some (.ofBody fun b => .updateAccount <$> accountInPath a <*> inBody accountUpdate b)
  | .account a, .delete => some (.ofPath (.deleteAccount <$> accountInPath a))
  | .accountArchive a, .post => some (.ofPath (.archiveAccount <$> accountInPath a))
  | .journal, .post => some (.ofBody fun b => .createEntry <$> inBody newEntry b)
  | .companyJournal c, .get =>
      some (.withQuery .listEntries (companyInPath c) (queried "status" (word EntryStatus.ofText?)))
  | .entryNumber c, .get =>
      some (.withQuery .entryNumber (companyInPath c) (required "date" day))
  | .entry e, .get => some (.ofPath (.entry <$> entryInPath e))
  | .entry e, .put =>
      some (.ofBody fun b => .updateDraft <$> entryInPath e <*> inBody draftEdit b)
  | .entry e, .delete => some (.ofPath (.deleteEntry <$> entryInPath e))
  | .entryPost e, .post => some (.ofPath (.postEntry <$> entryInPath e))
  | .entryVoid e, .post => some (.ofPath (.voidEntry <$> entryInPath e))
  | .entryReverse e, .post =>
      some (.ofBody fun b => .reverseEntry <$> entryInPath e <*> inOptionalBody {} reversal b)
  | .balances c, .get =>
      some (.withQuery (fun company days => .balances company days.1 days.2) (companyInPath c)
        (daysBetween "start_date" "end_date"))
  | .trialBalance c, .get =>
      some (.withQuery (fun company days => .trialBalance company days.1 days.2) (companyInPath c)
        (daysBetween "start_date" "end_date"))
  | .ledger a, .get => some (.withQuery .ledger (accountInPath a) ledgerQuery)
  | .invoiceTotals, .post => some (.ofBody fun b => .invoiceTotals <$> inBody invoiceLines b)
  | .invoices, .post => some (.ofBody fun b => .postInvoice <$> inBody newInvoice b)
  | .invoicePayments, .post => some (.ofBody fun b => .recordPayment <$> inBody payment b)
  | .expenses, .post => some (.ofBody fun b => .postExpense <$> inBody receipt b)
  | _, _ => none

end Bookkeeping.Web
