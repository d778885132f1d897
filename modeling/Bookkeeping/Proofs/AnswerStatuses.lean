import Bookkeeping.Proofs.Admission
import Bookkeeping.Proofs.DocumentFaults

set_option autoImplicit false

/-! # Statuses of answers

Of the requests that write to the journal or post a document, those that were read are answered with
success, or with the status of the family that their error belongs to; contention for numbers is one of
these. The exceptions are answered with the status 500, whatever the settings (`writes_answered_iff`):
requests whose amounts cannot be computed with or whose accounts are too many, as `Call.Computes` tells, and
requests whose number cannot be searched for because the word in the settings is too long. -/

namespace Bookkeeping.Web

open Procedure
open Decimal (centsLimit)

variable {w : World} {s : Store} {now : Instant} {st : Setting} {user what : String} {A L : Prop} {c : Call}

/-! ## Statuses -/

/-- The status tells of success, or of an error that belongs to a family. -/
def Answer.IsMapped (a : Answer) : Prop :=
  (200 ≤ a.status ∧ a.status < 300) ∨ a.status ∈ [400, 404, 409, 503]

theorem not_mapped {a : Answer} (h : a.status = 500) : ¬ a.IsMapped := by
  unfold Answer.IsMapped
  rw [h]
  decide

theorem statusOf_mem {kind : ErrorKind} (h : kind ≠ .ledger) : Answer.statusOf kind ∈ [400, 404, 409, 503] := by
  cases kind with
  | ledger => exact absurd rfl h
  | _ => decide

theorem ofFailure_mapped {f : Failure} (h : f.Answerable) : (Answer.ofFailure f).IsMapped := by
  cases f with
  | ledger e => exact .inr (statusOf_mem h)
  | value fault => exact .inr (show 400 ∈ [400, 404, 409, 503] by decide)
  | _ => exact h.elim

theorem status_mapped (c : Call) (shown : Option Json) : (Answer.success c.status shown).IsMapped := by
  have success : 200 ≤ c.status ∧ c.status < 300 := by
    unfold Call.status
    split <;> decide
  cases shown with
  | some j => exact .inl success
  | none => exact .inl success

/-- The call ends because its number cannot be searched for. -/
def Call.Unnumbered (st : Setting) (user : String) (w : World) (c : Call) : Prop :=
  ((c.procedure st user).run st.clock w).1 = .error Store.longPattern

/-- A call that is answered unless it faults is answered with a mapped status, or with the status 500. -/
theorem answer_mapped_iff (h : FaultsUnless A L ((c.procedure st user).exec st.clock w).1) :
    ((answer st user what c w).1.IsMapped ↔ A ∧ ¬ c.Unnumbered st user w) ∧
      (¬ (answer st user what c w).1.IsMapped → (answer st user what c w).1.status = 500) ∧
      (c.Unnumbered st user w → L) := by
  unfold answer Call.Unnumbered Procedure.run
  generalize (c.procedure st user).exec st.clock w = ended at h ⊢
  obtain ⟨r, v⟩ := ended
  cases h with
  | ok shown h =>
      have mapped := status_mapped c shown
      exact ⟨iff_of_true mapped ⟨h, nofun⟩, fun no => absurd mapped no, nofun⟩
  | @refused f answerable h =>
      have mapped := ofFailure_mapped answerable
      have other : ¬ (.error f : Except Failure (Option Json)) = .error Store.longPattern := by
        rintro ⟨⟩
        exact answerable
      exact ⟨iff_of_true mapped ⟨h, other⟩, fun no => absurd mapped no, fun hf => absurd hf other⟩
  | unnumbered long h =>
      exact ⟨iff_of_false (not_mapped rfl) fun numbered => numbered.2 rfl, fun _ => rfl, fun _ => long⟩
  | fault f h => exact ⟨iff_of_false (not_mapped rfl) fun holds => h holds.1, fun _ => rfl, nofun⟩
  | crowded h =>
      refine ⟨iff_of_false (not_mapped rfl) fun holds => h holds.1, fun _ => rfl, fun hf => ?_⟩
      simp [Store.tooManyValues, Store.longPattern] at hf

/-! ## Calls -/

/-- The call writes to the journal, or is about a document. -/
def Call.IsWrite : Call → Prop
  | .createEntry _ | .updateDraft _ _ | .postEntry _ | .voidEntry _ | .reverseEntry _ _ | .deleteEntry _
  | .invoiceTotals _ | .postInvoice _ | .recordPayment _ | .postExpense _ => True
  | _ => False

/-- What the call computes with has results. Where lines are checked, their accounts are found at once, and
    their amounts add up as far as the check comes; where a document is posted, its amounts have sums, and the
    sum that is rounded to cents stays below the limit. A call that is refused before it comes to its amounts
    computes nothing. -/
def Call.Computes (s : Store) : Call → Prop
  | .createEntry e => s.Checkable e.company e.lines
  | .updateDraft id edit => ∀ old, s.stored? id = some old → old.isIn .draft = true →
      s.Checkable old.entry.company edit.lines
  | .postEntry id => ∀ old, s.stored? id = some old → old.isIn .draft = true →
      s.Checkable old.entry.company (old.shown.lines.map Line.toPosting)
  | .reverseEntry id _ => ∀ old, s.stored? id = some old → old.isIn .posted = true →
      (∀ e ∈ s.entries, e.entry.reversedEntry ≠ some id) →
        s.Checkable old.entry.company (Journal.reversalLines old.shown)
  | .invoiceTotals lines => ∃ totals, InvoiceTotals.ofItems (lines.map Request.InvoiceLine.item) = .ok totals
  | .postInvoice i => ∃ totals, InvoiceTotals.ofItems (i.lines.map Request.InvoiceLine.item) = .ok totals ∧
      totals.subtotal.value < centsLimit
  | .recordPayment p => p.account ≠ none → p.amount.value < centsLimit
  | .postExpense r => r.expense ≠ none → r.payment ≠ none → ∃ gross, r.amount.add r.vat = .ok gross ∧
      gross.value < centsLimit
  | _ => True

/-! ## Showing results -/

theorem showing_faultsUnless {α : Type} {clock : Clock} {p : Procedure α} {write : α → Except Failure Json}
    (answerable : ∀ a e, write a = .error e → e.Answerable)
    (h : FaultsUnless A L (p.exec clock w).1) : FaultsUnless A L ((showing write p).exec clock w).1 := by
  refine .bind h fun a v hv => ?_
  rw [hv] at h
  cases shown : write a with
  | ok j => exact .ok _ h.holds
  | error e => exact .refused (answerable a e shown) h.holds

/-- What cannot be shown lies outside its domain. -/
theorem shown_answerable {part : Part} {document : String} {e : Failure}
    (h : part.shown document = .error e) : e.Answerable := by
  unfold Part.shown at h
  split at h <;> cases h
  trivial

theorem showingEntry {clock : Clock} {p : Procedure (Entry Decimal)}
    (h : FaultsUnless A L (p.exec clock w).1) : FaultsUnless A L ((showing ofEntry p).exec clock w).1 :=
  showing_faultsUnless (fun _ _ => shown_answerable) h

/-- A call with amounts in their bounds is answered unless it cannot be computed, or its word is too long. -/
theorem Call.faultsUnless (orderly : s.Orderly) (contended : w.Contended s) (time : st.clock = .ok now)
    (admitted : c.Admitted) (write : c.IsWrite) :
    FaultsUnless (c.Computes s) (EntryNumber.LongWord st.numberWord)
      ((c.procedure st user).exec st.clock w).1 := by
  have plain {l : PostingLine} (h : Request.Plain l) : Posting.Numbers l :=
    ⟨.of_finite h.debit.1, .of_finite h.credit.1⟩
  cases c with
  | createEntry e =>
      have created : FaultsUnless (s.Checkable (e.header user).company e.lines)
          (EntryNumber.LongWord st.numberWord)
          ((Journal.createEntry st (e.header user) e.lines e.post).exec st.clock w).1 :=
        Journal.createEntry_faultsUnless orderly contended time fun l hl => plain (admitted l hl)
      exact showingEntry created
  | updateDraft id edit =>
      rw [time]
      exact showingEntry (Journal.updateDraft_faultsUnless orderly contended
        (fun l hl => plain (admitted l hl)) edit.update)
  | postEntry id =>
      rw [time]
      exact showingEntry (Journal.postEntry_faultsUnless orderly contended)
  | voidEntry id =>
      rw [time]
      exact showingEntry (Journal.voidEntry_answered orderly contended)
  | reverseEntry id r =>
      exact showingEntry (Journal.reverseEntry_faultsUnless orderly contended time r.reason r.date)
  | deleteEntry id =>
      exact .followed (Journal.deleteEntry_answered orderly contended) fun _ _ => rfl
  | invoiceTotals lines =>
      refine showing_faultsUnless (fun _ _ => shown_answerable) ?_
      cases h : InvoiceTotals.ofItems (lines.map Request.InvoiceLine.item) with
      | ok totals => exact .ok totals ⟨totals, h⟩
      | error f =>
          refine .fault f ?_
          rintro ⟨totals, htotals⟩
          cases h.symm.trans htotals
  | postInvoice i =>
      have admissible (item) (hitem : item ∈ i.toInvoice.items) : item.Admissible := by
        obtain ⟨l, hl, rfl⟩ := List.mem_map.mp hitem
        exact admitted l hl
      exact showingEntry (Documents.postInvoice_faultsUnless orderly contended time admissible)
  | recordPayment p =>
      exact showingEntry (Documents.recordPayment_faultsUnless orderly contended time admitted.1
        admitted.2.le)
  | postExpense r =>
      exact showingEntry (Documents.postExpense_faultsUnless orderly contended time admitted.1
        admitted.2)
  | _ => exact write.elim

/-! ## Requests -/

/-- A request that was read is answered as its call is. -/
theorem serve_of_call {clock : Clock} {settings : Settings} {r : Incoming} {path : String}
    (read : r.call = .ok (c, path)) : serve clock r w settings =
      answer (settings.toSetting clock) r.user (r.verb ++ " " ++ path) c w := by
  unfold serve
  rw [read]

/-- Under all settings and after every run, a request that was read as a write is answered with success or a
    mapped status exactly when it can be computed and its number can be searched for, and with the status 500
    when not, whatever conflicts about numbers and changes of statuses other writers cause meanwhile. Numbers
    can be searched for unless the word of the settings is too long. -/
theorem writes_answered_iff (settings : Settings) (sessions : List Session)
    (few : sessions.length + 2 < 2 ^ 63) (contended : w.Contended (Store.after sessions)) {r : Incoming}
    {path : String} (read : r.call = .ok (c, path)) (write : c.IsWrite) :
    ((serve (.ok now) r w settings).1.IsMapped ↔ c.Computes (Store.after sessions) ∧
        ¬ c.Unnumbered (settings.toSetting (.ok now)) r.user w) ∧
      (¬ (serve (.ok now) r w settings).1.IsMapped → (serve (.ok now) r w settings).1.status = 500) ∧
      (c.Unnumbered (settings.toSetting (.ok now)) r.user w → EntryNumber.LongWord settings.numberWord) := by
  rw [serve_of_call read]
  let st := settings.toSetting (.ok now)
  have time : st.clock = .ok now := rfl
  have faults : FaultsUnless (c.Computes (Store.after sessions)) (EntryNumber.LongWord st.numberWord)
      ((c.procedure st r.user).exec st.clock w).1 :=
    Call.faultsUnless (Store.after_orderly sessions few) contended time (Incoming.call_admitted read) write
  exact answer_mapped_iff faults

/-- The request to record a payment into the first of two accounts, against the second. -/
def paying (amount : String) : Incoming where
  method := "POST"
  path := "/api/v1/documents/invoice-payments"
  body := ("\x7b\"company_id\": \"00000000-0000-0000-0000-000000000001\", \"invoice_number\": \"1\", " ++
    "\"payment_date\": \"2024-01-05\", \"amount\": \"" ++ amount ++
    "\", \"payment_account_id\": \"1ed6e400-0000-4000-8000-000000000000\", " ++
    "\"receivable_account_id\": \"1ed6e400-0000-4000-8000-000000000001\"\x7d").toUTF8.data.toList

/-- The payment that is recorded. -/
def paid (amount : Decimal) : Documents.Payment where
  company := ⟨1⟩
  invoiceNumber := "1"
  amount
  date := firstDay
  account := some (Uuid.issue 0)
  receivable := some (Uuid.issue 1)

deriving instance DecidableEq for Documents.Payment

/-- The payment in the bytes of a document, if they hold one. -/
def paymentIn? (bytes : List UInt8) : Option Documents.Payment :=
  match Incoming.readBody bytes with
  | .ok j =>
    match Request.object Request.payment [.field "body"] j with
    | .accepted p => some p
    | .refused _ => none
  | .error _ => none

theorem paymentIn?_some {bytes : List UInt8} {p : Documents.Payment} (h : paymentIn? bytes = some p) :
    ∃ j, Incoming.readBody bytes = .ok j ∧ Request.object Request.payment [.field "body"] j = .accepted p := by
  unfold paymentIn? at h
  cases body : Incoming.readBody bytes with
  | error a =>
      rw [body] at h
      cases h
  | ok j =>
      rw [body] at h
      refine ⟨j, rfl, ?_⟩
      cases checked : Request.object Request.payment [.field "body"] j with
      | refused ps => simp [checked] at h
      | accepted q => simpa [checked] using h

/-- The body of a request without headers is read as a document. -/
theorem document_of_readBody {r : Incoming} {j : Json} (headers : r.headers = [])
    (body : Incoming.readBody r.body = .ok j) : r.document = .ok (some j) := by
  have given : r.body ≠ [] := by
    intro empty
    rw [empty] at body
    cases body
  have typed : Incoming.isJsonType ((r.header? "content-type").getD Incoming.usualType) = true := by
    have usual : r.header? "content-type" = none := by rw [Incoming.header?, headers]; rfl
    rw [usual]
    decide +kernel
  rw [Incoming.document, if_neg (by simpa using given), if_pos typed, body]
  rfl

/-- The request is read as the payment in its document. -/
theorem paying_call {amount : String} {p : Documents.Payment}
    (h : paymentIn? (paying amount).body = some p) :
    (paying amount).call = .ok (.recordPayment p, (paying amount).path) := by
  obtain ⟨j, body, checked⟩ := paymentIn?_some h
  have resource : (paying amount).resource? = some (.invoicePayments, (paying amount).path.toList) := by
    show Resource.find? ((readPath (paying "").path.toList).length + 1) (readPath (paying "").path.toList) =
      some (.invoicePayments, (paying "").path.toList)
    decide +kernel
  have method : Method.ofText? (paying amount).verb = some .post := by
    show Method.ofText? (Text.upper "POST") = some .post
    decide +kernel
  have noted : Incoming.noted (paying amount).path.toList = (paying amount).path := by
    show Incoming.noted (paying "").path.toList = (paying "").path
    decide +kernel
  have read : (paying amount).callAt (.ofBody fun b => .recordPayment <$> inBody Request.payment b) =
      .ok (.recordPayment p) := by
    rw [Incoming.callAt, document_of_readBody rfl body]
    show Incoming.settle (.recordPayment <$> Request.object Request.payment [.field "body"] j) = _
    rw [checked]
    rfl
  rw [Incoming.call, resource, method]
  show (do return (← (paying amount).callAt _, Incoming.noted _) : Except Answer _) = _
  rw [read, noted]
  rfl

/-- The settings of a deployment with a word of its own. -/
def cashSettings : Settings := { numberWord := "CASH", maxRetries := 2 }

/-- The company has both accounts, and another writer takes the first number of the day. -/
def takenOnce : World where
  store := Store.after [.opensTwoAccounts]
  faults := { creations := [some (.raised (.ledger (.numberTaken "CASH-20240105")))] }

theorem writes_answered_iff_payingHundred :
    (paying "100").call = .ok (.recordPayment (paid (.finite false 100 0)), (paying "100").path) ∧
      takenOnce.Contended (Store.after [.opensTwoAccounts]) ∧
      (serve (.ok default) (paying "100") takenOnce cashSettings).1.IsMapped := by
  have hundred : (Decimal.finite false 100 0).value < centsLimit := by
    norm_num [Decimal.value_finite, centsLimit]
  have read := paying_call (show paymentIn? (paying "100").body = some (paid (.finite false 100 0)) by
    decide +kernel)
  have contended : takenOnce.Contended (Store.after [.opensTwoAccounts]) := by
    refine ⟨rfl, rfl, rfl, rfl, fun d hd => ?_⟩
    cases List.mem_singleton.mp hd
    rfl
  have short : ¬ EntryNumber.LongWord cashSettings.numberWord := EntryNumber.not_longWord (by decide)
  obtain ⟨mapped, -, long⟩ :=
    writes_answered_iff cashSettings [.opensTwoAccounts] (by decide) contended read trivial
  exact ⟨read, contended, mapped.mpr ⟨fun _ => hundred, fun unnumbered => short (long unnumbered)⟩⟩

/-- Whoever records it, a payment that 28 digits in cents do not hold is answered with the status 500. -/
theorem largePayment_crashes (st : Setting) (w : World) (user what : String) :
    (answer st user what (.recordPayment (paid (.finite false 1 26))) w).1.status = 500 := rfl

theorem writes_answered_false_of_largePayment :
    (paying "1e26").call = .ok (.recordPayment (paid (.finite false 1 26)), (paying "1e26").path) ∧
      (serve (.ok default) (paying "1e26") { store := Store.after [.opensTwoAccounts] }).1.status = 500 ∧
      ¬ (serve (.ok default) (paying "1e26")
        { store := Store.after [.opensTwoAccounts] }).1.IsMapped := by
  have read := paying_call (show paymentIn? (paying "1e26").body = some (paid (.finite false 1 26)) by
    decide +kernel)
  have crashed : (serve (.ok default) (paying "1e26")
      { store := Store.after [.opensTwoAccounts] }).1.status = 500 := by
    rw [serve_of_call read]
    exact largePayment_crashes _ _ _ _
  exact ⟨read, crashed, not_mapped crashed⟩

end Bookkeeping.Web
