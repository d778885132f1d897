import Bookkeeping.Proofs.InvoiceSums
import Bookkeeping.Web.Service

set_option autoImplicit false

/-! # What requests are read as

A reader accepts amounts within the bounds of its field only, and a shape accepts what its fields accept.
So the amounts of a call that was read from a request are finite and not negative, and the rates of taxes
are at most one (`Web.Incoming.call_admitted`): the bounds hold of whatever reaches the ledger, by whichever
path and in whichever document it came. -/

namespace Bookkeeping

namespace Request

variable {α β : Type} {P Q : α → Prop}

/-! ## Checks -/

namespace Checked

/-- Whatever the check accepts has the property. -/
def Grants (x : Checked α) (P : α → Prop) : Prop := ∀ a, x = .accepted a → P a

theorem grants_accepted {a : α} (h : P a) : (accepted a).Grants P := by
  intro b hb
  cases hb
  exact h

theorem grants_refuse {location : Location} {kind : ProblemKind} {given : Json} :
    (refuse location kind given : Checked α).Grants P := nofun

/-- Both parts of a whole that is accepted are accepted. -/
theorem apply_accepted {f : Checked (α → β)} {x : Checked α} {b : β} (h : apply f x = .accepted b) :
    ∃ g a, f = .accepted g ∧ x = .accepted a ∧ g a = b := by
  cases f with
  | refused ps => cases x <;> cases h
  | accepted g =>
      cases x with
      | refused ps => cases h
      | accepted a =>
          cases h
          exact ⟨g, a, rfl, rfl, rfl⟩

theorem map_accepted {f : α → β} {x : Checked α} {b : β} (h : f <$> x = .accepted b) :
    ∃ a, x = .accepted a ∧ f a = b := by
  obtain ⟨g, a, hg, ha, hb⟩ := apply_accepted h
  cases hg
  exact ⟨a, ha, hb⟩

theorem Grants.andThen {x : Checked α} {f : α → Checked β} {R : β → Prop} (hx : x.Grants P)
    (hf : ∀ a, P a → (f a).Grants R) : (x.andThen f).Grants R := by
  cases x with
  | refused ps => exact nofun
  | accepted a => exact hf a (hx a rfl)

end Checked

/-! ## Readers -/

/-- Whatever the reader accepts has the property. -/
def Reader.Grants (read : Reader α) (P : α → Prop) : Prop := ∀ at' j, (read at' j).Grants P

theorem Reader.Grants.require {read : Reader α} {kind : ProblemKind} {condition : α → Bool}
    (h : read.Grants P) (hQ : ∀ a, P a → condition a = true → Q a) :
    (read.require kind condition).Grants Q := by
  intro at' j
  refine (h at' j).andThen fun a ha => ?_
  split
  · next hcondition => exact Checked.grants_accepted (hQ a ha hcondition)
  · exact Checked.grants_refuse

theorem amount_grants : amount.Grants fun d => d.isFinite := by
  intro at' j
  cases j with
  | text s | int n | float x =>
      unfold amount
      dsimp only
      split
      · split
        · next finite => exact Checked.grants_accepted finite
        · exact Checked.grants_refuse
      · exact Checked.grants_refuse
  | _ => exact Checked.grants_refuse

theorem amountFromZero_grants : amountFromZero.Grants fun d => d.isFinite ∧ 0 ≤ d.value := by
  refine amount_grants.require fun d finite hle => ⟨finite, ?_⟩
  rw [Decimal.le_finite rfl finite, Decimal.value_zero] at hle
  exact of_decide_eq_true hle

theorem positiveAmount_grants : positiveAmount.Grants fun d => d.isFinite ∧ 0 < d.value := by
  refine amount_grants.require fun d finite hlt => ⟨finite, ?_⟩
  rw [Decimal.lt_finite rfl finite, Decimal.value_zero] at hlt
  exact of_decide_eq_true hlt

theorem rate_grants : rate.Grants fun d => d.isFinite ∧ 0 ≤ d.value ∧ d.value ≤ 1 := by
  have one : Request.one.value = 1 := by norm_num [Request.one, Decimal.value_finite]
  have upper : (Reader.require amount .tooLarge fun d => holds (d.le Request.one)).Grants
      fun d => d.isFinite ∧ d.value ≤ 1 := by
    refine amount_grants.require fun d finite hle => ⟨finite, ?_⟩
    rw [Decimal.le_finite finite rfl, one] at hle
    exact of_decide_eq_true hle
  refine upper.require fun d ⟨finite, hle⟩ h0 => ⟨finite, ?_, hle⟩
  rw [Decimal.le_finite rfl finite, Decimal.value_zero] at h0
  exact of_decide_eq_true h0

/-! ## Lists -/

theorem readItems_grants {read : Reader α} (h : read.Grants P) (at' : Location) (i : Nat) (js : List Json) :
    (readItems read at' i js).Grants fun as => ∀ a ∈ as, P a := by
  induction js generalizing i with
  | nil => exact Checked.grants_accepted (by simp)
  | cons j rest ih =>
      intro as has
      obtain ⟨g, bs, hg, hbs, rfl⟩ := Checked.apply_accepted has
      obtain ⟨a, ha, rfl⟩ := Checked.map_accepted hg
      intro b hb
      rcases List.mem_cons.mp hb with rfl | hb
      · exact h _ _ _ ha
      · exact ih (i + 1) bs hbs b hb

theorem listOf_grants {read : Reader α} (h : read.Grants P) (n : Nat) :
    (listOf n read).Grants fun as => ∀ a ∈ as, P a := by
  intro at' j
  unfold listOf
  cases j with
  | list items =>
      refine (readItems_grants h at' 0 items).andThen fun as has => ?_
      split
      · exact Checked.grants_accepted has
      · exact Checked.grants_refuse
  | _ => exact Checked.grants_refuse

/-! ## Shapes -/

/-- Whatever the shape accepts has the property. -/
def Shape.Grants (shape : Shape α) (P : α → Prop) : Prop := ∀ at' fields, (shape.check at' fields).Grants P

theorem required_grants {read : Reader α} (h : read.Grants P) (name : String) :
    (required name read).Grants P := by
  intro at' fields
  unfold required
  dsimp only
  split
  · exact h _ _
  · exact Checked.grants_refuse

theorem withDefault_grants {read : Reader α} (h : read.Grants P) (name : String) {value : α}
    (usual : P value) : (withDefault name value read).Grants P := by
  intro at' fields
  unfold withDefault
  dsimp only
  split
  · exact h _ _
  · exact Checked.grants_accepted usual

theorem object_grants {shape : Shape α} (h : shape.Grants P) : (object shape).Grants P := by
  intro at' j
  cases j with
  | object fields => exact h at' fields
  | _ => exact Checked.grants_refuse

/-- Closing a shape only refuses more. -/
theorem closed_grants {shape : Shape α} (h : shape.Grants P) (groups : List (List String)) :
    (closed groups shape).Grants P := by
  intro at' fields a ha
  obtain ⟨g, u, hg, -, rfl⟩ := Checked.apply_accepted ha
  obtain ⟨b, hb, rfl⟩ := Checked.map_accepted hg
  exact h at' fields b hb

/-! ## Documents -/

/-- Both amounts are finite and not negative. -/
structure Plain (l : PostingLine) : Prop where
  debit : l.debit.isFinite ∧ 0 ≤ l.debit.value
  credit : l.credit.isFinite ∧ 0 ≤ l.credit.value

theorem zero_plain : Decimal.zero.isFinite ∧ 0 ≤ Decimal.zero.value := ⟨rfl, Decimal.value_zero.ge⟩

theorem postingLine_grants : postingLine.Grants Plain := by
  intro at' fields l h
  obtain ⟨_, description, h1, -, rfl⟩ := Checked.apply_accepted h
  obtain ⟨_, credit, h2, hcredit, rfl⟩ := Checked.apply_accepted h1
  obtain ⟨_, debit, h3, hdebit, rfl⟩ := Checked.apply_accepted h2
  obtain ⟨account, -, rfl⟩ := Checked.map_accepted h3
  have side (name : String) := withDefault_grants amountFromZero_grants name zero_plain
  exact ⟨side _ _ _ _ hdebit, side _ _ _ _ hcredit⟩

theorem postingLines_grants : postingLines.Grants fun ls => ∀ l ∈ ls, Plain l :=
  required_grants (listOf_grants (object_grants postingLine_grants) 2) "lines"

theorem newEntry_grants : newEntry.Grants fun e => ∀ l ∈ e.lines, Plain l := by
  intro at' fields e h
  obtain ⟨_, lines, h1, hlines, rfl⟩ := Checked.apply_accepted h
  obtain ⟨_, post, h2, -, rfl⟩ := Checked.apply_accepted h1
  obtain ⟨_, sourceId, h3, -, rfl⟩ := Checked.apply_accepted h2
  obtain ⟨_, source, h4, -, rfl⟩ := Checked.apply_accepted h3
  obtain ⟨_, memo, h5, -, rfl⟩ := Checked.apply_accepted h4
  obtain ⟨_, date, h6, -, rfl⟩ := Checked.apply_accepted h5
  obtain ⟨company, -, rfl⟩ := Checked.map_accepted h6
  exact postingLines_grants _ _ _ hlines

theorem draftEdit_grants : draftEdit.Grants fun e => ∀ l ∈ e.lines, Plain l := by
  refine closed_grants (fun at' fields e h => ?_) _
  obtain ⟨_, lines, h1, hlines, rfl⟩ := Checked.apply_accepted h
  obtain ⟨_, memo, h2, -, rfl⟩ := Checked.apply_accepted h1
  obtain ⟨date, -, rfl⟩ := Checked.map_accepted h2
  exact postingLines_grants _ _ _ hlines

theorem invoiceLine_grants : invoiceLine.Grants fun l => l.item.Admissible := by
  intro at' fields l h
  obtain ⟨_, vatRate, h1, hrate, rfl⟩ := Checked.apply_accepted h
  obtain ⟨_, unitPrice, h2, hprice, rfl⟩ := Checked.apply_accepted h1
  obtain ⟨_, quantity, h3, hquantity, rfl⟩ := Checked.apply_accepted h2
  obtain ⟨description, -, rfl⟩ := Checked.map_accepted h3
  have side (name : String) := required_grants amountFromZero_grants name
  have usual : Decimal.zero.isFinite ∧ 0 ≤ Decimal.zero.value ∧ Decimal.zero.value ≤ 1 := by
    rw [Decimal.value_zero]
    exact ⟨rfl, le_rfl, zero_le_one⟩
  exact ⟨side _ _ _ _ hquantity, side _ _ _ _ hprice, withDefault_grants rate_grants _ usual _ _ _ hrate⟩

theorem invoiceLines_grants : invoiceLines.Grants fun ls => ∀ l ∈ ls, l.item.Admissible :=
  required_grants (listOf_grants (object_grants invoiceLine_grants) 1) "items"

theorem newInvoice_grants : newInvoice.Grants fun i => ∀ l ∈ i.lines, l.item.Admissible := by
  intro at' fields i h
  obtain ⟨_, sourceId, h1, -, rfl⟩ := Checked.apply_accepted h
  obtain ⟨_, vatAccount, h2, -, rfl⟩ := Checked.apply_accepted h1
  obtain ⟨_, revenue, h3, -, rfl⟩ := Checked.apply_accepted h2
  obtain ⟨_, receivable, h4, -, rfl⟩ := Checked.apply_accepted h3
  obtain ⟨_, lines, h5, hlines, rfl⟩ := Checked.apply_accepted h4
  obtain ⟨_, date, h6, -, rfl⟩ := Checked.apply_accepted h5
  obtain ⟨_, customer, h7, -, rfl⟩ := Checked.apply_accepted h6
  obtain ⟨_, number, h8, -, rfl⟩ := Checked.apply_accepted h7
  obtain ⟨company, -, rfl⟩ := Checked.map_accepted h8
  exact invoiceLines_grants _ _ _ hlines

theorem payment_grants : payment.Grants fun p => p.amount.isFinite ∧ 0 < p.amount.value := by
  intro at' fields p h
  obtain ⟨_, sourceId, h1, -, rfl⟩ := Checked.apply_accepted h
  obtain ⟨_, receivable, h2, -, rfl⟩ := Checked.apply_accepted h1
  obtain ⟨_, account, h3, -, rfl⟩ := Checked.apply_accepted h2
  obtain ⟨_, date, h4, -, rfl⟩ := Checked.apply_accepted h3
  obtain ⟨_, amount, h5, hamount, rfl⟩ := Checked.apply_accepted h4
  obtain ⟨_, number, h6, -, rfl⟩ := Checked.apply_accepted h5
  obtain ⟨company, -, rfl⟩ := Checked.map_accepted h6
  exact required_grants positiveAmount_grants _ _ _ _ hamount

theorem receipt_grants : receipt.Grants fun r =>
    (r.amount.isFinite ∧ 0 ≤ r.amount.value) ∧ r.vat.isFinite ∧ 0 ≤ r.vat.value := by
  intro at' fields r h
  obtain ⟨_, sourceId, h1, -, rfl⟩ := Checked.apply_accepted h
  obtain ⟨_, category, h2, -, rfl⟩ := Checked.apply_accepted h1
  obtain ⟨_, merchant, h3, -, rfl⟩ := Checked.apply_accepted h2
  obtain ⟨_, credit, h4, -, rfl⟩ := Checked.apply_accepted h3
  obtain ⟨_, debit, h5, -, rfl⟩ := Checked.apply_accepted h4
  obtain ⟨_, date, h6, -, rfl⟩ := Checked.apply_accepted h5
  obtain ⟨_, vat, h7, hvat, rfl⟩ := Checked.apply_accepted h6
  obtain ⟨_, amount, h8, hamount, rfl⟩ := Checked.apply_accepted h7
  obtain ⟨company, -, rfl⟩ := Checked.map_accepted h8
  exact ⟨required_grants amountFromZero_grants _ _ _ _ hamount,
    withDefault_grants amountFromZero_grants _ zero_plain _ _ _ hvat⟩

end Request

/-! ## Calls -/

namespace Web

open Request (Checked Plain)

/-- The amounts of the call are within the bounds of the fields that they are read from. -/
def Call.Admitted : Call → Prop
  | .createEntry e => ∀ l ∈ e.lines, Plain l
  | .updateDraft _ edit => ∀ l ∈ edit.lines, Plain l
  | .invoiceTotals lines => ∀ l ∈ lines, l.item.Admissible
  | .postInvoice i => ∀ l ∈ i.lines, l.item.Admissible
  | .recordPayment p => p.amount.isFinite ∧ 0 < p.amount.value
  | .postExpense r => (r.amount.isFinite ∧ 0 ≤ r.amount.value) ∧ r.vat.isFinite ∧ 0 ≤ r.vat.value
  | _ => True

/-- Whatever is read at the endpoint has the property. -/
def Endpoint.Grants (P : Call → Prop) : Endpoint → Prop
  | .ofQuery read => ∀ fields, (read fields).Grants P
  | .ofBody read => ∀ body, (read body).Grants P

variable {α β : Type} {P : α → Prop}

theorem inBody_grants {shape : Request.Shape α} (h : shape.Grants P) (body : Option Json) :
    (inBody shape body).Grants P := by
  cases body with
  | none => exact Checked.grants_refuse
  | some j => exact Request.object_grants h _ _

/-- A call that is made of whatever was accepted is admitted if the part makes it so. -/
theorem grants_map {f : α → Call} {x : Checked α} (hx : x.Grants P) (h : ∀ a, P a → (f a).Admitted) :
    (f <$> x).Grants Call.Admitted := by
  intro c hc
  obtain ⟨a, ha, rfl⟩ := Checked.map_accepted hc
  exact h a (hx a ha)

theorem grants_seq {f : β → α → Call} {y : Checked β} {x : Checked α} (hx : x.Grants P)
    (h : ∀ b a, P a → (f b a).Admitted) : (f <$> y <*> x).Grants Call.Admitted := by
  intro c hc
  obtain ⟨g, a, hg, ha, rfl⟩ := Checked.apply_accepted hc
  obtain ⟨b, -, rfl⟩ := Checked.map_accepted hg
  exact h b a (hx a ha)

theorem grants_any (x : Checked α) : x.Grants fun _ => True := fun _ _ => trivial

/-- Whatever resource and method make a call, its amounts are within their bounds. -/
theorem Resource.endpoint_grants {resource : Resource} {method : Method} {endpoint : Endpoint}
    (h : resource.endpoint? method = some endpoint) : endpoint.Grants Call.Admitted := by
  have one {α : Type} {f : α → Call} {x : Checked α} (hf : ∀ a, (f a).Admitted) :
      (f <$> x).Grants Call.Admitted := grants_map (grants_any x) fun a _ => hf a
  have two {α β : Type} {f : β → α → Call} {y : Checked β} {x : Checked α}
      (hf : ∀ b a, (f b a).Admitted) : (f <$> y <*> x).Grants Call.Admitted :=
    grants_seq (grants_any x) fun b a _ => hf b a
  match resource, method, h with
  | .root, .get, rfl => exact fun _ => Checked.grants_accepted trivial
  | .health, .get, rfl => exact fun _ => Checked.grants_accepted trivial
  | .accounts _, .get, rfl => exact fun _ => two fun _ _ => trivial
  | .accounts _, .post, rfl => exact fun _ => two fun _ _ => trivial
  | .accountBatch _, .post, rfl => exact fun _ => two fun _ _ => trivial
  | .chart _, .post, rfl => exact fun _ => one fun _ => trivial
  | .vatAccounts _, .get, rfl => exact fun _ => one fun _ => trivial
  | .accountByCode _ _, .get, rfl => exact fun _ => one fun _ => trivial
  | .account _, .get, rfl => exact fun _ => one fun _ => trivial
  | .account _, .patch, rfl => exact fun _ => two fun _ _ => trivial
  | .account _, .delete, rfl => exact fun _ => one fun _ => trivial
  | .accountArchive _, .post, rfl => exact fun _ => one fun _ => trivial
  | .journal, .post, rfl =>
      exact fun b => grants_map (inBody_grants Request.newEntry_grants b) fun _ he => he
  | .companyJournal _, .get, rfl => exact fun _ => two fun _ _ => trivial
  | .entryNumber _, .get, rfl => exact fun _ => two fun _ _ => trivial
  | .entry _, .get, rfl => exact fun _ => one fun _ => trivial
  | .entry _, .put, rfl =>
      exact fun b => grants_seq (inBody_grants Request.draftEdit_grants b) fun _ _ he => he
  | .entry _, .delete, rfl => exact fun _ => one fun _ => trivial
  | .entryPost _, .post, rfl => exact fun _ => one fun _ => trivial
  | .entryVoid _, .post, rfl => exact fun _ => one fun _ => trivial
  | .entryReverse _, .post, rfl => exact fun _ => two fun _ _ => trivial
  | .balances _, .get, rfl => exact fun _ => two fun _ _ => trivial
  | .trialBalance _, .get, rfl => exact fun _ => two fun _ _ => trivial
  | .ledger _, .get, rfl => exact fun _ => two fun _ _ => trivial
  | .invoiceTotals, .post, rfl =>
      exact fun b => grants_map (inBody_grants Request.invoiceLines_grants b) fun _ hl => hl
  | .invoices, .post, rfl =>
      exact fun b => grants_map (inBody_grants Request.newInvoice_grants b) fun _ hi => hi
  | .invoicePayments, .post, rfl =>
      exact fun b => grants_map (inBody_grants Request.payment_grants b) fun _ hp => hp
  | .expenses, .post, rfl =>
      exact fun b => grants_map (inBody_grants Request.receipt_grants b) fun _ hr => hr

namespace Incoming

variable {r : Incoming}

theorem settle_ok {x : Checked Call} {c : Call} (h : settle x = .ok c) : x = .accepted c := by
  cases x with
  | accepted c' =>
      cases h
      rfl
  | refused ps => cases h

theorem callAt_ok {endpoint : Endpoint} {Q : Call → Prop} {c : Call} (hQ : endpoint.Grants Q)
    (h : r.callAt endpoint = .ok c) : Q c := by
  cases endpoint with
  | ofQuery read => exact hQ _ c (settle_ok h)
  | ofBody read =>
      obtain ⟨body, -, hbody⟩ := bind_eq_ok h
      exact hQ body c (settle_ok hbody)

/-- The amounts of a call that was read from a request are within the bounds of their fields. -/
theorem call_admitted {c : Call} {path : String} (h : r.call = .ok (c, path)) : c.Admitted := by
  unfold call at h
  split at h
  · cases h
  · split at h
    · cases h
    · next endpoint hendpoint =>
        obtain ⟨method, -, hmethod⟩ := Option.bind_eq_some_iff.mp hendpoint
        obtain ⟨c', hc', hpair⟩ := bind_eq_ok h
        cases hpair
        exact callAt_ok (Resource.endpoint_grants hmethod) hc'

end Incoming

end Web

end Bookkeeping
