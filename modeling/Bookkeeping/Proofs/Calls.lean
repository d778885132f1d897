import Bookkeeping.Proofs.AllOrNothing
import Bookkeeping.Proofs.Writes
import Bookkeeping.Session

set_option autoImplicit false

/-! # What calls do

`Store.Step` lists all that a single call can do to the books, one case an event, with what the call
has made sure of before it writes. Every session takes such a step (`Session.run_step`); invariants of
the ledger are shown by going through its cases. Calls that fail do nothing
(`ServiceCall.allOrNothing`). Where an entry comes from that a call has created is told by the call
(`Session.event_origin`). -/

namespace Bookkeeping

/-! ## Steps -/

/-- The accounts of the lines can be looked up by one statement. -/
def Posting.FewAccounts (lines : List PostingLine) : Prop :=
  (lines.map PostingLine.account).eraseDups.length ≤ Store.maxValues

instance (lines : List PostingLine) : Decidable (Posting.FewAccounts lines) :=
  inferInstanceAs (Decidable (_ ≤ _))

namespace Store

/-- The check of double entry, against the accounts of the store. -/
def checkLines (s : Store) (company : Uuid) (lines : List PostingLine) : Posting.Outcome :=
  Posting.check (.ofList (s.accountsById (lines.map PostingLine.account).eraseDups)) (some company)
    lines

/-- The lines are accepted for a company: their accounts are found at once, and the check of double entry
    passes them. -/
structure Accepts (s : Store) (company : Uuid) (lines : List PostingLine) : Prop where
  few : Posting.FewAccounts lines
  checked : ∃ totals, (s.checkLines company lines).totals = .ok totals

/-- Of a store only the accounts count. -/
theorem Accepts.of_accounts_eq {s s' : Store} {company : Uuid} {lines : List PostingLine}
    (h : s.Accepts company lines) (accounts : s'.accounts = s.accounts) : s'.Accepts company lines := by
  refine ⟨h.few, ?_⟩
  rw [checkLines, accountsById, accounts]
  exact h.checked

end Store

/-- What may become of an account when it is saved, while there are lines on it or not. -/
structure Account.MayBecome (used : Bool) (old a : Account) : Prop where
  code : used → a.code = old.code
  type : used → a.type = old.type
  archived : old.isArchived → a.isArchived
  /-- An archived account is active only if it was before. -/
  active : a.isArchived → a.isActive → old.isArchived ∧ old.isActive
  /-- A system account is not archived. -/
  system : old.isSystem → a.isArchived → old.isArchived

namespace Store

/-- What a single call can do to the books, when entry numbers start with `word`. -/
inductive Step (clock : Clock) (word : String) (s : Store) : Event → Store → Prop where
  | nothing : Step clock word s .nothing s
  | accountsOpened {company : Uuid} {now : Instant} {drafts : List AccountDraft}
      {accounts : List Account} (made : accounts = makeAccounts company now s.issued drafts)
      (apart : s.accounts.Pairwise Account.Apart → (s.accounts ++ accounts).Pairwise Account.Apart) :
      Step clock word s (.accountsOpened accounts)
        { s with accounts := s.accounts ++ accounts, issued := s.issued + accounts.length }
  | accountKept {a : Account} : Step clock word s (.accountSaved a) s
  | accountSaved {old a : Account} (found : s.account? a.id = some old)
      (company : a.company = old.company) (isSystem : a.isSystem = old.isSystem)
      (createdAt : a.createdAt = old.createdAt) (free : s.codeTaken a = false)
      (edited : old.MayBecome (s.hasLines a.id) a) :
      Step clock word s (.accountSaved a)
        { s with accounts := s.accounts.map fun c => if c.id == a.id then a else c }
  | accountDeleted {id : Uuid} {old : Account} (found : s.account? id = some old)
      (ordinary : old.isSystem = false) (unused : s.hasLines id = false) :
      Step clock word s (.accountDeleted id)
        { s with accounts := s.accounts.filter fun a => a.id != id }
  | entryCreated {h : EntryHeader} {lines : List PostingLine} {post : Bool} {now : Instant} {n : Int}
      {counters : List Counter} {cells : List (Line Cell)} {number : String} {status : EntryStatus}
      {postedBy : Option String} (accepted : s.Accepts h.company lines) (clock_eq : clock = .ok now)
      (allocation : Allocation s h.company (EntryNumber.dayPrefix word h.date) n counters)
      (number_eq : number = EntryNumber.format (EntryNumber.dayPrefix word h.date) n)
      (status_eq : status = if post then .posted else .draft)
      (postedBy_eq : postedBy = if post then some h.createdBy else none)
      (stored : storeLines (numberLines 1 lines) = some cells)
      (new : s.stored? (Uuid.issue s.issued) = none)
      (free : s.numberTaken h.company number = false) :
      Step clock word s
        (.entryCreated
          (newEntry (Uuid.issue s.issued) now number h status postedBy (numberLines 1 lines)))
        (s.withEntry counters
          (newEntry (Uuid.issue s.issued) now number h status postedBy cells) n)
  | draftEdited {id : Uuid} {u : EntryUpdate} {lines : List PostingLine} {user : String}
      {old : StoredEntry} {now : Instant} {cells : List (Line Cell)}
      (found : s.stored? id = some old) (draft : old.isIn .draft = true)
      (accepted : s.Accepts old.entry.company lines) (clock_eq : clock = .ok now)
      (stored : storeLines (numberLines 1 lines) = some cells) :
      Step clock word s
        (.draftEdited { old.shown.edited u user now with lines := numberLines 1 lines })
        { s.updateStored id
            (StoredEntry.rewritten u user now s.writes old.entry.lines.length cells) with
          writes := s.writes + 1 }
  | entryPosted {id : Uuid} {user : String} {old : StoredEntry} {now : Instant}
      (found : s.stored? id = some old) (draft : old.isIn .draft = true)
      (accepted : s.Accepts old.entry.company (old.shown.lines.map Line.toPosting))
      (clock_eq : clock = .ok now) :
      Step clock word s (.entryPosted (old.moved .posted user now).shown)
        (s.updateStored id fun e => if e.isIn .draft then e.moved .posted user now else e)
  | entryVoided {id : Uuid} {user : String} {old : StoredEntry} {now : Instant}
      (found : s.stored? id = some old) (draft : old.isIn .draft = true) (clock_eq : clock = .ok now) :
      Step clock word s (.entryVoided (old.moved .void user now).shown)
        (s.updateStored id fun e => if e.isIn .draft then e.moved .void user now else e)
  | entryDeleted {id : Uuid} {old : StoredEntry} (found : s.stored? id = some old)
      (unposted : old.entry.status ≠ .posted) :
      Step clock word s (.entryDeleted id)
        { s with entries := s.entries.filter fun e => e.entry.id != id }

end Store

/-- The entry has this header and these lines. -/
def Entry.MadeFrom (h : EntryHeader) (lines : List PostingLine) (post : Bool) (e : Entry Decimal) :
    Prop :=
  ∃ id now number postedBy,
    e = Store.newEntry id now number h (if post then .posted else .draft) postedBy
      (numberLines 1 lines)

variable {clock : Clock} {word : String} {s : Store}

/-! ## The journal -/

namespace Journal

open Procedure

/-- An entry that is read is stored, with a status that is one. -/
theorem stored?_of_entry? {id : Uuid} {e : Entry Decimal} (h : s.entry? id = .ok (some e)) :
    ∃ old, s.stored? id = some old ∧ old.strange = none ∧ e = old.shown := by
  unfold Store.entry? Store.readFound at h
  cases hold : s.stored? id with
  | none => simp [hold] at h
  | some old =>
      refine ⟨old, rfl, ?_⟩
      cases hs : old.strange with
      | some word => simp [hold, StoredEntry.read, hs, Except.map] at h
      | none => simpa [hold, StoredEntry.read, hs, Except.map, eq_comm] using h

theorem getEntry_reads {id : Uuid} :
    (getEntry id).Reads clock s fun e =>
      ∃ old, s.stored? id = some old ∧ old.strange = none ∧ e = old.shown := by
  refine AllOrNothing.afterLook (fun _ _ h => h) fun e he => ?_
  cases e with
  | none => exact allOrNothing_reject
  | some e => exact allOrNothing_pure ⟨rfl, stored?_of_entry? he⟩

theorem validateLines_reads {company : Uuid} {lines : List PostingLine} :
    (validateLines lines company).Reads clock s fun _ => s.Accepts company lines := by
  refine AllOrNothing.afterLook (fun _ _ h => h) fun as found => ?_
  obtain ⟨few, rfl⟩ := Store.findAccounts_ok found
  refine AllOrNothing.afterRead (Q := fun _ => True) (fun r s' h => ?_) fun _ _ =>
    reads_ofExcept.mono fun t s' h => ⟨h.1, few, t, h.2⟩
  rw [yields_notes] at h
  obtain ⟨rfl, rfl⟩ := h
  exact ⟨rfl, trivial⟩

theorem nextEntryNumber_reads {st : Setting} {company : Uuid} {date : Date} :
    (nextEntryNumber st company date).Reads clock s fun _ => True := by
  refine AllOrNothing.afterLook (fun _ _ h => h) fun n _ => ?_
  dsimp only
  split
  · exact allOrNothing_fail
  · exact allOrNothing_pure ⟨rfl, trivial⟩

/-- However many attempts it takes, an entry is created once or not at all. -/
theorem tryCreate_allOrNothing {op : Op} {created : op.Result → Procedure (Entry Decimal)}
    {dayPrefix : String} {R : Entry Decimal → Store → Prop} (limit n : Nat)
    (hcreated : ∀ e t, op.Effect clock s e t → (created e).Succeeds clock t R) :
    (tryCreate op created dayPrefix limit n).AllOrNothing clock s R := by
  -- an attempt that fails leaves the store as it was for the next one
  induction n with
  | zero => exact allOrNothing_reject
  | succ n ih =>
      intro r s' h
      rcases yields_bind.mp h with ⟨e, he, -⟩ | ⟨x, t, hx, h⟩
      · rw [yields_attempt] at he
        obtain ⟨x, hx, -⟩ := he
        cases hx
      · rw [yields_attempt] at hx
        obtain ⟨y, hy, ho⟩ := hx
        cases hy
        cases x with
        | ok e =>
            obtain ⟨a, rfl, hR⟩ := hcreated e t ho r s' h
            exact hR
        | error f =>
            cases ho
            dsimp only at h
            split at h
            · exact (succeeds_log.thenAllOrNothing fun _ => ih) r s' h
            · exact allOrNothing_fail r s' h

/-- An entry that is created has the header and the lines that were given. -/
theorem createEntry_allOrNothing {st : Setting} {h : EntryHeader} {lines : List PostingLine}
    {post : Bool} :
    (createEntry st h lines post).AllOrNothing clock s fun e s' =>
      s.Step clock st.numberWord (.entryCreated e) s' ∧ e.MadeFrom h lines post := by
  refine AllOrNothing.afterRead validateLines_reads fun _ accepted => ?_
  refine tryCreate_allOrNothing _ _ fun e t he => succeeds_log_pure ?_
  obtain ⟨now, p, hnow, hp, hs⟩ := he
  obtain ⟨n, counters, cells, allocation, stored, new, free, rfl, rfl⟩ :=
    Store.createEntry_sent hp hs
  exact ⟨.entryCreated accepted hnow allocation rfl rfl rfl stored new free, _, _, _, _, rfl⟩

/-! ## Life of an entry -/

theorem requireDraft_reads {e : Entry Decimal} {action : String} :
    (requireDraft e action).Reads clock s fun _ => e.status = .draft := by
  unfold requireDraft ensureDraft
  cases e.status with
  | draft => exact allOrNothing_pure ⟨rfl, rfl⟩
  | posted => exact allOrNothing_reject
  | void => exact allOrNothing_reject

theorem isIn_of_shown {old : StoredEntry} {status : EntryStatus} (hs : old.strange = none)
    (h : old.shown.status = status) : old.isIn status = true := by
  simp only [StoredEntry.isIn, hs, Option.isNone_none, Bool.true_and, beq_iff_eq]
  exact h

theorem updateDraft_allOrNothing {id : Uuid} {u : EntryUpdate} {lines : List PostingLine}
    {user : String} :
    (updateDraft id u lines user).AllOrNothing clock s fun e s' =>
      s.Step clock word (.draftEdited e) s' ∧ e.id = id := by
  refine AllOrNothing.afterRead getEntry_reads ?_
  rintro _ ⟨old, found, hs, rfl⟩
  refine AllOrNothing.afterRead requireDraft_reads fun _ draft => ?_
  refine AllOrNothing.afterRead validateLines_reads fun _ accepted => ?_
  refine allOrNothing_perform.bind fun a t ⟨p, hp, sent⟩ => ?_
  -- the draft that is replaced is the one that was read: nobody else is at work
  obtain ⟨rfl, rfl⟩ | ⟨old', now, cells, hnow, found', -, stored, rfl, rfl⟩ :=
    Store.replaceDraft_sent hp sent
  · exact .inl ⟨rfl, allOrNothing_reject⟩
  · cases found.symm.trans found'
    exact .inr (succeeds_log_pure
      ⟨.draftEdited found (isIn_of_shown hs draft) accepted hnow stored, (Store.stored?_some found).2⟩)

/-- Taking a draft to another status, after it was read as a draft. -/
theorem transition_bind {id : Uuid} {target : EntryStatus} {user : String} {old : StoredEntry}
    {f : Option (Entry Decimal) → Procedure (Entry Decimal)} {R : Entry Decimal → Store → Prop}
    (found : s.stored? id = some old) (draft : old.isIn .draft = true)
    (hf : ∀ now, clock = .ok now → (f (some (old.moved target user now).shown)).Succeeds clock
      (s.updateStored id fun e => if e.isIn .draft then e.moved target user now else e) R) :
    (perform (.transition id .draft target user) >>= f).AllOrNothing clock s R := by
  refine allOrNothing_perform.bind fun a t ⟨now, hnow, sent⟩ => ?_
  obtain ⟨rfl, rfl⟩ := Store.transition_sent sent
  simp only [found, Option.filter_some, draft, if_true, Option.map_some]
  exact .inr (hf now hnow)

theorem postEntry_allOrNothing {id : Uuid} {user : String} :
    (postEntry id user).AllOrNothing clock s fun e s' =>
      s.Step clock word (.entryPosted e) s' ∧ e.id = id := by
  refine AllOrNothing.afterRead getEntry_reads ?_
  rintro _ ⟨old, found, hs, rfl⟩
  dsimp only
  split
  · exact allOrNothing_reject_bind
  refine AllOrNothing.afterRead requireDraft_reads fun _ draft => ?_
  have draft := isIn_of_shown hs draft
  refine AllOrNothing.afterRead validateLines_reads fun _ accepted => ?_
  exact transition_bind found draft fun now hnow =>
    succeeds_log_pure ⟨.entryPosted found draft accepted hnow, (Store.stored?_some found).2⟩

theorem voidEntry_allOrNothing {id : Uuid} {user : String} :
    (voidEntry id user).AllOrNothing clock s fun e s' =>
      s.Step clock word (.entryVoided e) s' ∧ e.id = id := by
  refine AllOrNothing.afterRead getEntry_reads ?_
  rintro _ ⟨old, found, hs, rfl⟩
  refine AllOrNothing.afterRead requireDraft_reads fun _ draft => ?_
  have draft := isIn_of_shown hs draft
  exact transition_bind found draft fun now hnow =>
    succeeds_log_pure ⟨.entryVoided found draft hnow, (Store.stored?_some found).2⟩

/-- Where no entry is found that reverses another one, there is none. -/
theorem unreversed_of_reversalOf? {id : Uuid} (h : s.reversalOf? id = .ok none) :
    ∀ r ∈ s.entries, r.entry.reversedEntry ≠ some id := by
  unfold Store.reversalOf? Store.readFound at h
  split at h
  · next r _ =>
      cases hr : r.read <;> simp [hr, Except.map] at h
  · next hnone => simpa [List.find?_eq_none] using hnone

/-- To reverse an entry is to create another one, once the entry was found posted and not reversed
    yet. -/
theorem reverseEntry_allOrNothing {st : Setting} {id : Uuid} {user : String}
    {reason : Option String} {date : Option Date} {R : Entry Decimal → Store → Prop}
    (created : ∀ old day, s.stored? id = some old → old.isIn .posted = true →
      (∀ r ∈ s.entries, r.entry.reversedEntry ≠ some id) →
        (createEntry st (reversalHeader old.shown user reason day) (reversalLines old.shown)
          true).AllOrNothing clock s R) :
    (reverseEntry st id user reason date).AllOrNothing clock s R := by
  refine AllOrNothing.afterRead getEntry_reads ?_
  rintro _ ⟨old, found, hs, rfl⟩
  dsimp only
  split
  · exact allOrNothing_reject_bind
  next posted =>
  have posted := isIn_of_shown hs (Decidable.not_not.mp posted)
  refine AllOrNothing.afterLook (fun _ _ h => h) fun reversal hreversal => ?_
  cases reversal with
  | some _ => exact allOrNothing_reject
  | none =>
      have reversal (day : Date) :
          (do let reversal ← createEntry st (reversalHeader old.shown user reason day)
                (reversalLines old.shown) true
              log .info ("Reversed " ++ old.shown.number ++ " with " ++ reversal.number)
              return reversal : Procedure (Entry Decimal)).AllOrNothing clock s R :=
        (created old day found posted (unreversed_of_reversalOf? hreversal)).thenSucceeds
          fun _ _ h => succeeds_log_pure h
      cases date with
      | some day => exact reversal day
      | none => exact AllOrNothing.afterRead reads_ofExcept fun now _ => reversal now.date

theorem deleteEntry_allOrNothing {id : Uuid} :
    (deleteEntry id).AllOrNothing clock s fun _ => s.Step clock word (.entryDeleted id) := by
  refine AllOrNothing.afterRead getEntry_reads ?_
  rintro _ ⟨old, found, hs, rfl⟩
  dsimp only
  split
  · exact allOrNothing_reject_bind
  next unposted =>
  refine allOrNothing_perform.thenSucceeds fun a t sent => ?_
  cases Store.deleteEntry_sent sent
  refine succeeds_log.mono fun _ s' h => h ▸ .entryDeleted found ?_
  exact fun h => unposted (beq_iff_eq.mpr h)

end Journal

/-! ## Documents -/

namespace Documents

open Procedure

theorem resolve_reads {company : Uuid} {account : Option Uuid} {usual : String} :
    (resolve company account usual).Reads clock s fun _ => True := by
  have owned (a : Account) :
      (do if a.company ≠ company then reject (.documentAccountForeign a.code)
          return a : Procedure Account).Reads clock s fun _ => True := by
    dsimp only
    split
    · exact allOrNothing_reject_bind
    · exact allOrNothing_pure ⟨rfl, trivial⟩
  cases account with
  | none =>
      refine AllOrNothing.afterLook (fun _ _ h => h) fun found _ => ?_
      cases found with
      | none => exact allOrNothing_reject_bind
      | some a => exact owned a
  | some id =>
      refine AllOrNothing.afterLook (fun _ _ h => h) fun found _ => ?_
      cases found with
      | none => exact allOrNothing_reject_bind
      | some a => exact owned a

/-- Creating any entry of a company that reverses nothing, posted or as a draft, comes to `R`. To post a
    document is to create such an entry, once its accounts were looked up. -/
abbrev CreatesPlain (clock : Clock) (st : Setting) (s : Store) (company : Uuid) (post : Bool)
    (R : Entry Decimal → Store → Prop) : Prop :=
  ∀ h lines, h.reversedEntry = none → h.company = company →
    (Journal.createEntry st h lines post).AllOrNothing clock s R

/-- An invoice becomes a draft. -/
theorem postInvoice_allOrNothing {st : Setting} {i : Invoice} {user : String}
    {R : Entry Decimal → Store → Prop} (created : CreatesPlain clock st s i.company false R) :
    (postInvoice st i user).AllOrNothing clock s R := by
  unfold postInvoice
  split
  · exact allOrNothing_reject_bind
  refine AllOrNothing.afterRead reads_ofAmount fun totals _ => ?_
  refine AllOrNothing.afterRead reads_ofAmount fun subtotal _ => ?_
  refine AllOrNothing.afterRead reads_ofAmount fun vat _ => ?_
  refine AllOrNothing.afterRead reads_ofAmount fun total _ => ?_
  refine AllOrNothing.afterRead reads_ofAmount fun bad _ => ?_
  split
  · exact allOrNothing_reject_bind
  refine AllOrNothing.afterRead resolve_reads fun receivable _ => ?_
  refine AllOrNothing.afterRead resolve_reads fun revenue _ => ?_
  dsimp only
  refine AllOrNothing.afterRead reads_ofAmount fun taxed _ => ?_
  split
  · exact AllOrNothing.afterRead resolve_reads fun _ _ => created _ _ rfl rfl
  · exact created _ _ rfl rfl

/-- A payment becomes a draft. -/
theorem recordPayment_allOrNothing {st : Setting} {p : Payment} {user : String}
    {R : Entry Decimal → Store → Prop} (created : CreatesPlain clock st s p.company false R) :
    (recordPayment st p user).AllOrNothing clock s R := by
  unfold recordPayment
  split
  · exact allOrNothing_reject_bind
  refine AllOrNothing.afterRead reads_ofAmount fun amount _ => ?_
  refine AllOrNothing.afterRead reads_ofAmount fun bad _ => ?_
  split
  · exact allOrNothing_reject_bind
  refine AllOrNothing.afterRead resolve_reads fun account _ => ?_
  dsimp only
  split
  · exact allOrNothing_reject_bind
  refine AllOrNothing.afterRead resolve_reads fun receivable _ => ?_
  exact created _ _ rfl rfl

/-- A receipt is posted. -/
theorem postExpense_allOrNothing {st : Setting} {r : Receipt} {user : String}
    {R : Entry Decimal → Store → Prop} (created : CreatesPlain clock st s r.company true R) :
    (postExpense st r user).AllOrNothing clock s R := by
  unfold postExpense
  split
  · exact allOrNothing_reject_bind
  refine AllOrNothing.afterRead reads_ofAmount fun gross _ => ?_
  refine AllOrNothing.afterRead reads_ofAmount fun bad _ => ?_
  split
  · exact allOrNothing_reject_bind
  refine AllOrNothing.afterRead resolve_reads fun expense _ => ?_
  refine AllOrNothing.afterRead resolve_reads fun payment _ => ?_
  dsimp only
  split
  · exact allOrNothing_reject_bind
  split
  · exact allOrNothing_reject_bind
  exact created _ _ rfl rfl

end Documents

/-! ## The registry -/

theorem Store.length_makeAccounts (company : Uuid) (now : Instant) (n : Nat)
    (drafts : List AccountDraft) : (makeAccounts company now n drafts).length = drafts.length := by
  induction drafts generalizing n with
  | nil => rfl
  | cons d rest ih => simp [makeAccounts, ih]

theorem Store.mem_makeAccounts {company : Uuid} {now : Instant} {n : Nat} {drafts : List AccountDraft}
    {a : Account} (h : a ∈ makeAccounts company now n drafts) :
    ∃ k d, n ≤ k ∧ k < n + drafts.length ∧ a = .ofDraft (Uuid.issue k) company now d := by
  induction drafts generalizing n with
  | nil => cases h
  | cons d rest ih =>
      rcases List.mem_cons.mp h with rfl | h
      · exact ⟨n, d, Nat.le_refl n, by simp, rfl⟩
      · obtain ⟨k, d', hn, hk, rfl⟩ := ih h
        refine ⟨k, d', by omega, ?_, rfl⟩
        rw [List.length_cons]
        omega

/-- No account was opened. -/
theorem Store.Step.opened_nil : s.Step clock word (.accountsOpened []) s := by
  have made : [] = makeAccounts ⟨0⟩ default s.issued [] := rfl
  have h : s.Step clock word (.accountsOpened []) _ := .accountsOpened made (by simp)
  simpa using h

namespace Registry

open Procedure

theorem getAccount_reads {id : Uuid} :
    (getAccount id).Reads clock s fun a => s.account? id = some a := by
  refine AllOrNothing.afterLook (fun _ _ h => h) fun found h => ?_
  cases found with
  | none => exact allOrNothing_reject
  | some a => exact allOrNothing_pure ⟨rfl, h.symm⟩

theorem getAccountByCode_reads {company : Uuid} {code : String} :
    (getAccountByCode company code).Reads clock s fun _ => True := by
  refine AllOrNothing.afterLook (fun _ _ h => h) fun found h => ?_
  cases found with
  | none => exact allOrNothing_reject
  | some a => exact allOrNothing_pure ⟨rfl, trivial⟩

/-- All accounts are opened or none. -/
theorem openAccounts_allOrNothing {company : Uuid} {drafts : List AccountDraft} :
    (openAccounts company drafts).AllOrNothing clock s fun as s' =>
      (s.Step clock word (.accountsOpened as) s' ∧ ∀ a ∈ as, a.company = company) ∧
        as.length = drafts.length := by
  unfold openAccounts
  cases drafts with
  | nil => exact allOrNothing_pure ⟨⟨.opened_nil, by simp⟩, rfl⟩
  | cons d ds =>
      dsimp only [List.isEmpty_cons, Bool.false_eq_true, if_false]
      rw [if_neg (by simp)]
      split
      · exact allOrNothing_reject_bind
      refine AllOrNothing.afterLook (fun _ _ h => h) fun existing _ => ?_
      split
      · exact allOrNothing_reject_bind
      refine allOrNothing_perform.thenSucceeds fun as t ⟨now, _, sent⟩ => succeeds_log_pure ?_
      obtain ⟨rfl, apart, rfl⟩ := Store.addAccounts_sent sent
      refine ⟨⟨.accountsOpened rfl apart, fun a ha => ?_⟩, Store.length_makeAccounts ..⟩
      obtain ⟨k, d, -, -, rfl⟩ := Store.mem_makeAccounts ha
      rfl

theorem openAccount_allOrNothing {company : Uuid} {draft : AccountDraft} :
    (openAccount company draft).AllOrNothing clock s fun a s' =>
      s.Step clock word (.accountsOpened [a]) s' ∧ ∀ b ∈ [a], b.company = company := by
  have opens : (openAccounts company [draft]).AllOrNothing clock s fun as s' =>
      (s.Step clock word (.accountsOpened as) s' ∧ ∀ a ∈ as, a.company = company) ∧ as.length = 1 :=
    openAccounts_allOrNothing
  refine opens.thenSucceeds fun as t ⟨opened, length⟩ => ?_
  match as, length with
  | [a], _ => exact succeeds_pure opened

theorem seedDefaultChart_allOrNothing {company : Uuid} :
    (seedDefaultChart company).AllOrNothing clock s fun as s' =>
      s.Step clock word (.accountsOpened as) s' ∧ ∀ a ∈ as, a.company = company := by
  refine AllOrNothing.afterLook (fun _ _ h => h) fun existing _ => ?_
  split
  · exact openAccounts_allOrNothing.mono fun _ _ h => h.1
  · exact succeeds_log.thenAllOrNothing fun _ => allOrNothing_pure ⟨.opened_nil, by simp⟩

/-- Saving an account that was read and edited since. -/
theorem saveAccount_allOrNothing {old a : Account} (found : s.account? a.id = some old)
    (edited : old.MayBecome (s.hasLines a.id) a) :
    (perform (.saveAccount a)).AllOrNothing clock s fun b s' =>
      s.Step clock word (.accountSaved b) s' ∧ b.id = a.id := by
  refine allOrNothing_perform.mono fun b s' ⟨now, p, _, hp, sent⟩ => ?_
  obtain ⟨old', found', rfl, free, rfl⟩ := Store.saveAccount_sent hp sent
  cases found.symm.trans found'
  obtain ⟨code, type, archived, active, system⟩ := edited
  exact ⟨.accountSaved found' rfl rfl rfl free ⟨code, type, archived, active, system⟩, rfl⟩

theorem archive_mayBecome {a b : Account} (h : a.archive clock = .ok b) :
    b.id = a.id ∧ ∀ used, a.MayBecome used b := by
  unfold Account.archive at h
  split at h
  · cases h
  · next ordinary =>
      obtain ⟨now, -, h⟩ := bind_eq_ok h
      cases h
      exact ⟨rfl, fun _ => ⟨fun _ => rfl, fun _ => rfl, fun _ => rfl, nofun,
        fun system => absurd system ordinary⟩⟩

theorem archiveAccount_allOrNothing {st : Setting} {id : Uuid} :
    (archiveAccount st id).AllOrNothing clock s fun a s' =>
      s.Step clock word (.accountSaved a) s' ∧ a.id = id := by
  refine AllOrNothing.afterRead getAccount_reads fun account found => ?_
  refine AllOrNothing.afterRead reads_ofExcept fun archived harchived => ?_
  obtain ⟨hid, edited⟩ := archive_mayBecome harchived
  obtain rfl : account.id = id := (Store.account?_some found).2
  rw [← hid] at found
  exact (saveAccount_allOrNothing found (edited _)).thenSucceeds fun _ _ h =>
    succeeds_log_pure ⟨h.1, h.2.trans hid⟩

theorem requireUnused_reads {id : Uuid} {u : AccountUpdate} {a : Account} :
    (requireUnused id u a).Reads clock s fun _ =>
      structuralChanges u a = [] ∨ s.hasLines id = false := by
  unfold requireUnused
  dsimp only
  split
  · refine AllOrNothing.afterLook (fun _ _ h => h) fun used h => ?_
    split
    · exact allOrNothing_reject
    · next unused => exact allOrNothing_pure ⟨rfl, .inr (by simpa [← h] using unused)⟩
  · next h => exact allOrNothing_pure ⟨rfl, .inl (by simpa using h)⟩

theorem requireFreeCode_reads {u : AccountUpdate} {a : Account} :
    (requireFreeCode u a).Reads clock s fun _ => True := by
  unfold requireFreeCode
  split
  · refine AllOrNothing.afterLook (fun _ _ h => h) fun found _ => ?_
    split
    · exact allOrNothing_reject
    · exact allOrNothing_pure ⟨rfl, trivial⟩
  · exact allOrNothing_pure ⟨rfl, trivial⟩

/-- Without structural changes code and type stay. -/
theorem apply_of_structuralChanges {u : AccountUpdate} {a : Account} (h : structuralChanges u a = [])
    (now : Instant) : (u.apply a now).code = a.code ∧ (u.apply a now).type = a.type := by
  simp only [structuralChanges, List.append_eq_nil_iff, AccountUpdate.changesType,
    AccountUpdate.changesCode] at h
  obtain ⟨htype, hcode⟩ := h
  constructor
  · cases hc : u.code <;> simp_all [AccountUpdate.apply]
  · cases ht : u.type <;> simp_all [AccountUpdate.apply]

theorem apply_mayBecome {u : AccountUpdate} {a : Account} {used : Bool}
    (structural : structuralChanges u a = [] ∨ used = false)
    (reactivated : ¬ (u.isActive == some true && a.isArchived) = true) (now : Instant) :
    a.MayBecome used (u.apply a now) := by
  refine ⟨fun hused => ?_, fun hused => ?_, id, fun archived active => ?_, fun _ h => h⟩
  · exact (apply_of_structuralChanges (structural.resolve_right (by simp [hused])) now).1
  · exact (apply_of_structuralChanges (structural.resolve_right (by simp [hused])) now).2
  · have archived : a.isArchived = true := archived
    refine ⟨archived, ?_⟩
    cases hu : u.isActive <;> simp_all [AccountUpdate.apply]

theorem updateAccount_allOrNothing {st : Setting} {id : Uuid} {u : AccountUpdate} :
    (updateAccount st id u).AllOrNothing clock s fun a s' =>
      s.Step clock word (.accountSaved a) s' ∧ a.id = id := by
  refine AllOrNothing.afterRead getAccount_reads fun account found => ?_
  dsimp only
  split
  · exact allOrNothing_pure ⟨.accountKept, (Store.account?_some found).2⟩
  refine AllOrNothing.afterRead requireUnused_reads fun _ structural => ?_
  refine AllOrNothing.afterRead requireFreeCode_reads fun _ _ => ?_
  split
  · exact allOrNothing_reject_bind
  next reactivated =>
  refine AllOrNothing.afterRead reads_ofExcept fun now _ => ?_
  obtain rfl : account.id = id := (Store.account?_some found).2
  exact saveAccount_allOrNothing found (apply_mayBecome structural reactivated now)

theorem deleteAccount_allOrNothing {id : Uuid} :
    (deleteAccount id).AllOrNothing clock s fun _ =>
      s.Step clock word (.accountDeleted id) := by
  refine AllOrNothing.afterRead getAccount_reads fun account found => ?_
  dsimp only
  split
  · exact allOrNothing_reject_bind
  next ordinary =>
  refine AllOrNothing.afterLook (fun _ _ h => h) fun used h => ?_
  split
  · exact allOrNothing_reject_bind
  next unused =>
  refine allOrNothing_perform.thenSucceeds fun a t sent => ?_
  obtain ⟨-, rfl⟩ := Store.deleteAccount_sent sent
  exact succeeds_log.mono fun _ s' ht =>
    ht ▸ .accountDeleted found (by simpa using ordinary) (by simpa [← h] using unused)

end Registry

/-! ## Sessions -/

/-- A call that only reads has done nothing. -/
theorem AllOrNothing.ofRead {α : Type} {p : Procedure α} {f : α → ServiceAnswer} {Q : α → Prop}
    (h : p.Reads clock s Q) :
    (do return f (← p) : Procedure ServiceAnswer).AllOrNothing clock s fun _ =>
      s.Step clock word .nothing :=
  (h.mono fun _ _ ⟨hs, _⟩ => hs ▸ .nothing).map

/-- Every call takes a step, or fails and leaves the store as it is. -/
theorem ServiceCall.allOrNothing (c : ServiceCall) (st : Setting) :
    (c.procedure st).AllOrNothing clock s fun a => s.Step clock st.numberWord (c.event a) := by
  have read {op : Op} (h : ∀ a s', op.Effect clock s a s' → s' = s) :
      (Procedure.perform op).Reads clock s fun _ => True :=
    Procedure.allOrNothing_perform.mono fun a s' ha => ⟨h a s' ha, trivial⟩
  have created (company : Uuid) (post : Bool) : Documents.CreatesPlain clock st s company post fun e =>
      s.Step clock st.numberWord (.entryCreated e) :=
    fun _ _ _ _ => Journal.createEntry_allOrNothing.mono fun _ _ h => h.1
  cases c with
  | getAccount => exact AllOrNothing.ofRead Registry.getAccount_reads
  | getAccountByCode => exact AllOrNothing.ofRead Registry.getAccountByCode_reads
  | listAccounts => exact AllOrNothing.ofRead (read fun _ _ h => h.2)
  | vatAccounts => exact AllOrNothing.ofRead (read fun _ _ h => h.2)
  | openAccount => exact .map (Registry.openAccount_allOrNothing.mono fun _ _ h => h.1)
  | openAccounts => exact .map (Registry.openAccounts_allOrNothing.mono fun _ _ h => h.1.1)
  | seedDefaultChart => exact .map (Registry.seedDefaultChart_allOrNothing.mono fun _ _ h => h.1)
  | updateAccount => exact .map (Registry.updateAccount_allOrNothing.mono fun _ _ h => h.1)
  | archiveAccount => exact .map (Registry.archiveAccount_allOrNothing.mono fun _ _ h => h.1)
  | deleteAccount => exact .map Registry.deleteAccount_allOrNothing
  | validateLines => exact AllOrNothing.ofRead Journal.validateLines_reads
  | getEntry => exact AllOrNothing.ofRead Journal.getEntry_reads
  | listEntries => exact AllOrNothing.ofRead (read fun _ _ h => h.2)
  | nextEntryNumber => exact AllOrNothing.ofRead Journal.nextEntryNumber_reads
  | createEntry => exact .map (Journal.createEntry_allOrNothing.mono fun _ _ h => h.1)
  | updateDraft => exact .map (Journal.updateDraft_allOrNothing.mono fun _ _ h => h.1)
  | postEntry => exact .map (Journal.postEntry_allOrNothing.mono fun _ _ h => h.1)
  | voidEntry => exact .map (Journal.voidEntry_allOrNothing.mono fun _ _ h => h.1)
  | reverseEntry =>
      exact .map (Journal.reverseEntry_allOrNothing fun _ _ _ _ _ =>
        Journal.createEntry_allOrNothing.mono fun _ _ h => h.1)
  | deleteEntry => exact .map Journal.deleteEntry_allOrNothing
  | postInvoice => exact .map (Documents.postInvoice_allOrNothing (created _ false))
  | recordPayment => exact .map (Documents.recordPayment_allOrNothing (created _ false))
  | postExpense => exact .map (Documents.postExpense_allOrNothing (created _ true))

/-! ## Where new entries come from -/

/-- The entry `e` was made to reverse the entry `old`. -/
structure StoredEntry.ReversedBy (old : StoredEntry) (e : Entry Decimal) : Prop where
  status : e.status = .posted
  source : e.source = .reversal
  sourceId : e.sourceId = some old.entry.id
  reversedEntry : e.reversedEntry = some old.entry.id
  company : e.company = old.entry.company
  lines : e.lines = numberLines 1 (Journal.reversalLines old.shown)

/-- What a call makes sure of when it creates the entry `e`. -/
def Store.Origin (s : Store) (e : Entry Decimal) : ServiceCall → Prop
  | .createEntry h _ _ => e.reversedEntry = h.reversedEntry
  | .reverseEntry id _ _ _ => ∃ old, s.stored? id = some old ∧ old.isIn .posted = true ∧
      (∀ r ∈ s.entries, r.entry.reversedEntry ≠ some id) ∧ old.ReversedBy e
  | _ => e.reversedEntry = none

theorem ServiceCall.origin (c : ServiceCall) (st : Setting) :
    (c.procedure st).AllOrNothing clock s fun a _ => ∀ e, c.event a = .entryCreated e →
      s.Origin e c := by
  have created (company : Uuid) (post : Bool) : Documents.CreatesPlain clock st s company post
      fun e _ => e.reversedEntry = none :=
    fun h lines plain _ => Journal.createEntry_allOrNothing.mono fun e _ ⟨_, made⟩ => by
      obtain ⟨id, now, number, postedBy, rfl⟩ := made
      exact plain
  have answer (P : Entry Decimal → Prop) (e : Entry Decimal) (h : P e) :
      ∀ e', Event.entryCreated e = .entryCreated e' → P e' := by
    rintro _ ⟨⟩
    exact h
  have plain := answer fun e => e.reversedEntry = none
  cases c with
  | createEntry =>
      refine .map (Journal.createEntry_allOrNothing.mono fun e _ ⟨_, made⟩ => answer _ e ?_)
      obtain ⟨id, now, number, postedBy, rfl⟩ := made
      rfl
  | reverseEntry id user reason date =>
      refine .map (Journal.reverseEntry_allOrNothing fun old day found posted unreversed =>
        Journal.createEntry_allOrNothing.mono fun e _ ⟨_, made⟩ => answer _ e ?_)
      obtain ⟨_, now, number, postedBy, rfl⟩ := made
      exact ⟨old, found, posted, unreversed, rfl, rfl, rfl, rfl, rfl, rfl⟩
  | postInvoice =>
      exact .map ((Documents.postInvoice_allOrNothing (created _ false)).mono fun e _ => plain e)
  | recordPayment =>
      exact .map ((Documents.recordPayment_allOrNothing (created _ false)).mono fun e _ => plain e)
  | postExpense =>
      exact .map ((Documents.postExpense_allOrNothing (created _ true)).mono fun e _ => plain e)
  | _ =>
      -- no other call creates an entry
      refine (ServiceCall.allOrNothing _ st).mono fun a _ _ e he => ?_
      cases a <;> cases he

namespace Session

variable (x : Session)

theorem run_yields (s : Store) :
    (x.call.procedure x.setting).Yields x.setting.clock s (x.run s).1 (x.run s).2 :=
  Procedure.run_yields (x.call.procedure x.setting) (w := x.world s) rfl

/-- What a call brings about together with its answer holds after a session that has answered. -/
theorem run_answered {x : Session} {R : ServiceAnswer → Store → Prop} {a : ServiceAnswer}
    (h : (x.call.procedure x.setting).AllOrNothing x.setting.clock s R) (answer : (x.run s).1 = .ok a) :
    R a (x.run s).2 := by
  have hy := x.run_yields s
  rw [answer] at hy
  exact h _ _ hy

/-- Every session takes a step. -/
theorem run_step (s : Store) :
    s.Step x.setting.clock x.setting.numberWord (x.event s) (x.run s).2 := by
  unfold event
  cases hr : (x.run s).1 with
  | ok a => exact run_answered (x.call.allOrNothing x.setting) hr
  | error f =>
      have hy := x.run_yields s
      rw [hr] at hy
      have hs : (x.run s).2 = s := x.call.allOrNothing x.setting _ _ hy
      rw [hs]
      exact .nothing

variable {x}

/-- An entry that a session creates is what its call has made sure of. -/
theorem event_origin {e : Entry Decimal} (h : x.event s = .entryCreated e) : s.Origin e x.call := by
  unfold event at h
  cases hr : (x.run s).1 with
  | ok a =>
      rw [hr] at h
      exact run_answered (x.call.origin x.setting) hr e h
  | error f => simp [hr] at h

end Session

end Bookkeeping
