import Bookkeeping.Proofs.Balances

set_option autoImplicit false

/-! # What reports do not see

Reports read the accounts and the posted entries, and nothing else of a store: two stores that agree in
these give the same reports (`Store.SameBooks.reports`); nor do reports see who updated an entry last
(`StoredEntry.Notes.reports`). Drafts are written, edited, made void and deleted beside the posted
entries, so no call that does only this changes a report, whether it succeeds or fails
(`drafts_invisible`).

An edited or deleted entry is found by its identifier, so that it is no posted one needs that
identifiers in the store are distinct (`Store.Sound`). -/

namespace Bookkeeping

variable {clock clock' : Clock} {word : String} {w w' : World} {s s' : Store} {ev : Event}

/-! ## Calls that read the same in two worlds -/

namespace Procedure

variable {α β : Type} {p : Procedure α} {f : α → Procedure β}

/-- The call answers the same in both worlds, whatever the time, and leaves them as they are. -/
def AnswersAlike (clock clock' : Clock) (w w' : World) (p : Procedure α) : Prop :=
  ∃ r, p.exec clock w = (r, w) ∧ p.exec clock' w' = (r, w')

theorem answersAlike_done (r : Except Failure α) : (done r).AnswersAlike clock clock' w w' :=
  ⟨r, rfl, rfl⟩

/-- An operation that only reads, when both stores read the same. -/
theorem answersAlike_perform {op : Op} (idle : w.pending = none) (idle' : w'.pending = none)
    (read : Store → Except Failure op.Result)
    (reads : ∀ clock w, op.perform clock w = (read w.store, w)) (same : read w'.store = read w.store) :
    (perform op).AnswersAlike clock clock' w w' := by
  have exec_eq (clock : Clock) {w : World} (idle : w.pending = none) :
      (perform op).exec clock w = (read w.store, w) := by
    unfold perform exec Op.exec
    rw [idle]
    dsimp only
    rw [reads]
    rfl
  refine ⟨read w.store, exec_eq clock idle, ?_⟩
  rw [exec_eq clock' idle', same]

theorem AnswersAlike.bind (hp : p.AnswersAlike clock clock' w w')
    (hf : ∀ a, (f a).AnswersAlike clock clock' w w') : (p >>= f).AnswersAlike clock clock' w w' := by
  obtain ⟨r, hw, hw'⟩ := hp
  cases r with
  | error e =>
      refine ⟨.error e, ?_, ?_⟩
      · rw [exec_bind, hw]
      · rw [exec_bind, hw']
  | ok a =>
      obtain ⟨r, hr, hr'⟩ := hf a
      refine ⟨r, ?_, ?_⟩
      · rw [exec_bind, hw]
        exact hr
      · rw [exec_bind, hw']
        exact hr'

theorem AnswersAlike.run (h : p.AnswersAlike clock clock' w w') :
    (p.run clock w).1 = (p.run clock' w').1 := by
  obtain ⟨r, hw, hw'⟩ := h
  rw [Procedure.run, Procedure.run, hw, hw']

end Procedure

/-- All reports answer the same in both worlds, for every company and range, and for every account and
    filter. -/
structure Reports.Alike (clock clock' : Clock) (w w' : World) : Prop where
  balances : ∀ company range,
    ((balances company range).run clock w).1 = ((balances company range).run clock' w').1
  trialBalance : ∀ company range,
    ((trialBalance company range).run clock w).1 = ((trialBalance company range).run clock' w').1
  ledgerFor : ∀ id f, ((ledgerFor id f).run clock w).1 = ((ledgerFor id f).run clock' w').1

/-! ## What reports read -/

namespace Store

/-- The stores agree in what reports read: in their accounts and in their posted entries. -/
structure SameBooks (s s' : Store) : Prop where
  accounts : s'.accounts = s.accounts
  posted : s'.entries.filter StoredEntry.isPosted = s.entries.filter StoredEntry.isPosted

namespace SameBooks

/-- They agree in any choice among the posted entries. -/
theorem filter (h : s.SameBooks s') (p : StoredEntry → Bool) :
    (s'.entries.filter fun e => e.isPosted && p e) = s.entries.filter fun e => e.isPosted && p e := by
  rw [filter_and, filter_and, h.posted]

theorem postedEntries (h : s.SameBooks s') (company : Uuid) (range : DateRange) :
    s'.postedEntries company range = s.postedEntries company range := by
  have hfilter (t : Store) : (t.entries.filter fun e =>
      e.entry.company == company && e.isPosted && range.holds e.entry.date) =
      t.entries.filter fun e =>
        e.isPosted && (e.entry.company == company && range.holds e.entry.date) := by
    refine List.filter_congr fun e _ => ?_
    rw [Bool.and_comm (e.entry.company == company), Bool.and_assoc]
  rw [Store.postedEntries, Store.postedEntries, hfilter, hfilter, h.filter]

theorem postedTotals (h : s.SameBooks s') (company : Uuid) (range : DateRange) :
    s'.postedTotals company range = s.postedTotals company range := by
  rw [Store.postedTotals, Store.postedTotals, h.postedEntries]

theorem postedTotalsBefore (h : s.SameBooks s') (id : Uuid) (day : Date) :
    s'.postedTotalsBefore id day = s.postedTotalsBefore id day := by
  rw [Store.postedTotalsBefore, Store.postedTotalsBefore, h.filter]

theorem postedLines (h : s.SameBooks s') (id : Uuid) (range : DateRange) (search : Option String) :
    s'.postedLines id range search = s.postedLines id range search := by
  simp only [Store.postedLines, h.filter]

end SameBooks

end Store

/-! ## Reports that read the same -/

section Reports

open Procedure

variable (idle : w.pending = none) (idle' : w'.pending = none)
include idle idle'

theorem Reports.balances_alike {company : Uuid} {range : DateRange}
    (accounts : w'.store.accountsOf company true = w.store.accountsOf company true)
    (totals : w'.store.postedTotals company range = w.store.postedTotals company range) :
    (balances company range).AnswersAlike clock clock' w w' := by
  have accounts : (perform (.accountsOf company true)).AnswersAlike clock clock' w w' :=
    answersAlike_perform idle idle' (fun s => .ok (s.accountsOf company true)) (fun _ _ => rfl)
      (congrArg Except.ok accounts)
  have totals : (perform (.postedTotals company range)).AnswersAlike clock clock' w w' :=
    answersAlike_perform idle idle' (Store.postedTotals · company range) (fun _ _ => rfl) totals
  exact accounts.bind fun _ => totals.bind fun _ => answersAlike_done _

theorem Reports.ledgerFor_alike {id : Uuid} {f : LedgerFilters}
    (account : w'.store.account? id = w.store.account? id)
    (before : ∀ day, w'.store.postedTotalsBefore id day = w.store.postedTotalsBefore id day)
    (lines : ∀ range search, w'.store.postedLines id range search =
      w.store.postedLines id range search) :
    (ledgerFor id f).AnswersAlike clock clock' w w' := by
  have account : (perform (.account id)).AnswersAlike clock clock' w w' :=
    answersAlike_perform idle idle' (fun s => .ok (s.account? id)) (fun _ _ => rfl)
      (congrArg Except.ok account)
  have before (day : Date) : (perform (.postedTotalsBefore id day)).AnswersAlike clock clock' w w' :=
    answersAlike_perform idle idle' (Store.postedTotalsBefore · id day) (fun _ _ => rfl) (before day)
  have lines (range : DateRange) (search : Option String) :
      (perform (.postedLines id range search)).AnswersAlike clock clock' w w' :=
    answersAlike_perform idle idle' (Store.postedLines · id range search) (fun _ _ => rfl)
      (lines range search)
  refine account.bind fun found => ?_
  cases found with
  | none => exact answersAlike_done _
  | some a =>
      dsimp only
      rcases f.start with _ | day
      case' some => refine (before day).bind fun _ => (answersAlike_done _).bind fun _ => ?_
      -- what is computed from the opening balance and the lines is the same
      all_goals
        refine (lines _ _).bind fun _ => ?_
        refine (answersAlike_done _).bind fun _ => (answersAlike_done _).bind fun _ => ?_
        exact (answersAlike_done _).bind fun _ => (answersAlike_done _).bind fun _ => answersAlike_done _

end Reports

/-- The trial balance shows the balances. -/
theorem Reports.trialBalance_alike {company : Uuid} {range : DateRange}
    (h : (balances company range).AnswersAlike clock clock' w w') :
    (trialBalance company range).AnswersAlike clock clock' w w' :=
  h.bind fun _ => Procedure.answersAlike_done _

/-- Stores with the same accounts give the same reports when they read the same posted lines. -/
theorem Reports.alike (idle : w.pending = none) (idle' : w'.pending = none)
    (accounts : w'.store.accounts = w.store.accounts)
    (totals : ∀ company range, w'.store.postedTotals company range = w.store.postedTotals company range)
    (before : ∀ id day, w'.store.postedTotalsBefore id day = w.store.postedTotalsBefore id day)
    (lines : ∀ id range search, w'.store.postedLines id range search =
      w.store.postedLines id range search) : Alike clock clock' w w' := by
  have accountsOf (company : Uuid) (archived : Bool) :
      w'.store.accountsOf company archived = w.store.accountsOf company archived := by
    rw [Store.accountsOf, Store.accountsOf, Store.companyAccounts, Store.companyAccounts, accounts]
  have account (id : Uuid) : w'.store.account? id = w.store.account? id := by
    rw [Store.account?, Store.account?, accounts]
  have balances (company : Uuid) (range : DateRange) :
      (balances company range).AnswersAlike clock clock' w w' :=
    balances_alike idle idle' (accountsOf company true) (totals company range)
  refine ⟨fun company range => (balances company range).run,
    fun company range => (trialBalance_alike (balances company range)).run, fun id f => ?_⟩
  exact (ledgerFor_alike idle idle' (account id) (before id) (lines id)).run

/-- Stores that agree in their accounts and posted entries give the same reports. -/
theorem Store.SameBooks.reports (same : w.store.SameBooks w'.store) (idle : w.pending = none)
    (idle' : w'.pending = none) : Reports.Alike clock clock' w w' :=
  Reports.alike idle idle' same.accounts same.postedTotals same.postedTotalsBefore same.postedLines

/-! ## Notes of the last update -/

/-- The entry with another note of its last update. -/
def StoredEntry.noted (user : Option String) (now : Option Instant) (e : StoredEntry) : StoredEntry :=
  { e with entry := { e.entry with updatedBy := user, updatedAt := now } }

/-- The function changes nothing but notes of the last update. -/
def StoredEntry.Notes (k : StoredEntry → StoredEntry) : Prop := ∀ e, ∃ user now, k e = e.noted user now

namespace StoredEntry.Notes

variable {k : StoredEntry → StoredEntry} {es : List StoredEntry}

theorem apply {α : Type} (h : Notes k) {g : StoredEntry → α}
    (unseen : ∀ e user now, g (e.noted user now) = g e) (e : StoredEntry) : g (k e) = g e := by
  obtain ⟨user, now, hk⟩ := h e
  rw [hk, unseen]

theorem filter (h : Notes k) {p : StoredEntry → Bool}
    (unseen : ∀ e user now, p (e.noted user now) = p e) : (es.map k).filter p = (es.filter p).map k := by
  rw [List.filter_map]
  congr 1
  exact List.filter_congr fun e _ => h.apply unseen e

theorem flatMap {α : Type} (h : Notes k) {g : StoredEntry → List α}
    (unseen : ∀ e user now, g (e.noted user now) = g e) : (es.map k).flatMap g = es.flatMap g := by
  rw [List.flatMap_map]
  exact List.flatMap_congr fun e _ => h.apply unseen e

theorem mergeSort (h : Notes k) {le : StoredEntry → StoredEntry → Bool}
    (left : ∀ e user now, le (e.noted user now) = le e)
    (right : ∀ a e user now, le a (e.noted user now) = le a e) :
    (es.map k).mergeSort le = (es.mergeSort le).map k := by
  refine (List.map_mergeSort fun a _ b _ => ?_).symm
  rw [h.apply left, h.apply (right a)]

/-- Reports do not see when an entry was updated last, nor by whom. -/
theorem reports (h : Notes k) (accounts : w'.store.accounts = w.store.accounts)
    (entries : w'.store.entries = w.store.entries.map k) (idle : w.pending = none)
    (idle' : w'.pending = none) : Reports.Alike clock clock' w w' := by
  have totals (company : Uuid) (range : DateRange) :
      w'.store.postedTotals company range = w.store.postedTotals company range := by
    rw [Store.postedTotals, Store.postedTotals, Store.postedEntries, Store.postedEntries, entries,
      h.filter fun _ _ _ => rfl, h.mergeSort (fun _ _ _ => rfl) fun _ _ _ _ => rfl,
      h.flatMap fun _ _ _ => rfl]
  have before (id : Uuid) (day : Date) :
      w'.store.postedTotalsBefore id day = w.store.postedTotalsBefore id day := by
    rw [Store.postedTotalsBefore, Store.postedTotalsBefore, entries, h.filter fun _ _ _ => rfl,
      h.mergeSort (fun _ _ _ => rfl) fun _ _ _ _ => rfl, h.flatMap fun _ _ _ => rfl]
  have lines (id : Uuid) (range : DateRange) (search : Option String) :
      w'.store.postedLines id range search = w.store.postedLines id range search := by
    simp only [Store.postedLines, entries]
    rw [h.filter fun _ _ _ => rfl, h.flatMap fun _ _ _ => rfl]
  exact Reports.alike idle idle' accounts totals before lines

end StoredEntry.Notes

/-! ## Steps beside the posted entries -/

/-- The event touches no account and no posted entry. -/
def Event.Quiet : Event → Prop
  | .nothing | .draftEdited _ | .entryVoided _ | .entryDeleted _ => True
  | .entryCreated e => e.status = .draft
  | .accountsOpened _ | .accountSaved _ | .accountDeleted _ | .entryPosted _ => False

namespace Store

theorem isPosted_eq_false {e : StoredEntry} (h : e.entry.status ≠ .posted) : e.isPosted = false := by
  rw [Bool.eq_false_iff, ne_eq, StoredEntry.isPosted, StoredEntry.isIn_iff]
  exact fun posted => h posted.2

/-- A change of an entry that is posted neither before nor after it. -/
theorem Sound.posted_updateStored (sound : s.Sound) {id : Uuid} {old : StoredEntry}
    (found : s.stored? id = some old) {f : StoredEntry → StoredEntry}
    (before : old.entry.status ≠ .posted) (after : (f old).entry.status ≠ .posted) :
    (s.updateStored id f).entries.filter StoredEntry.isPosted =
      s.entries.filter StoredEntry.isPosted := by
  obtain ⟨hold, rfl⟩ := stored?_some found
  have only {e : StoredEntry} (he : e ∈ s.entries) (hid : e.entry.id = old.entry.id) : e = old :=
    sound.eq_of_id he hold hid
  refine filter_map_of_unchosen fun e he => ?_
  by_cases hid : e.entry.id = old.entry.id
  · rw [if_pos (beq_iff_eq.mpr hid), only he hid]
    exact .inr ⟨isPosted_eq_false before, isPosted_eq_false after⟩
  · exact .inl (if_neg (by simpa using hid))

/-- The removal of an entry that is not posted. -/
theorem Sound.posted_removed (sound : s.Sound) {id : Uuid} {old : StoredEntry}
    (found : s.stored? id = some old) (unposted : old.entry.status ≠ .posted) :
    (s.entries.filter fun e => e.entry.id != id).filter StoredEntry.isPosted =
      s.entries.filter StoredEntry.isPosted := by
  obtain ⟨hold, rfl⟩ := stored?_some found
  refine filter_filter_of_unchosen fun e he hid => ?_
  rw [sound.eq_of_id he hold (by simpa using hid)]
  exact isPosted_eq_false unposted

/-- A step beside the posted entries leaves what reports read. -/
theorem SameBooks.step (sound : s.Sound) (hs : s.Step clock word ev s') (quiet : ev.Quiet) :
    s.SameBooks s' := by
  cases hs with
  | nothing => exact ⟨rfl, rfl⟩
  | accountsOpened | accountKept | accountSaved | accountDeleted | entryPosted => exact quiet.elim
  | entryCreated accepted clock_eq allocation number_eq status_eq postedBy_eq stored new free =>
      refine ⟨rfl, ?_⟩
      rw [withEntry, List.filter_append, List.filter_singleton, isPosted_eq_false, cond_false,
        List.append_nil]
      intro posted
      exact absurd (quiet.symm.trans posted) (by decide)
  | draftEdited found draft accepted clock_eq stored =>
      have draft := (StoredEntry.isIn_iff.mp draft).2
      refine ⟨rfl, sound.posted_updateStored found ?_ ?_⟩
      · rw [draft]
        decide
      · intro posted
        exact absurd (draft.symm.trans posted) (by decide)
  | entryVoided found draft clock_eq =>
      refine ⟨rfl, sound.posted_updateStored found ?_ ?_⟩
      · rw [(StoredEntry.isIn_iff.mp draft).2]
        decide
      · rw [if_pos draft]
        intro posted
        cases posted
  | entryDeleted found unposted => exact ⟨rfl, sound.posted_removed found unposted⟩

end Store

/-! ## Calls beside the posted entries -/

/-- Does the call never post an entry and never write an account? -/
def ServiceCall.neverPosts : ServiceCall → Bool
  | .createEntry _ _ post => !post
  | .postInvoice .. | .recordPayment .. | .updateDraft .. | .voidEntry .. | .deleteEntry .. => true
  | .getAccount .. | .getAccountByCode .. | .listAccounts .. | .vatAccounts .. | .validateLines ..
  | .getEntry .. | .listEntries .. | .nextEntryNumber .. => true
  | .openAccount .. | .openAccounts .. | .seedDefaultChart .. | .updateAccount ..
  | .archiveAccount .. | .deleteAccount .. | .postEntry .. | .reverseEntry .. | .postExpense .. => false

theorem ServiceCall.quiet (c : ServiceCall) (st : Setting) (h : c.neverPosts = true) :
    (c.procedure st).AllOrNothing clock s fun a _ => (c.event a).Quiet := by
  have created (company : Uuid) : Documents.CreatesPlain clock st s company false fun e _ =>
      e.status = .draft := by
    intro h lines _ _
    refine Journal.createEntry_allOrNothing.mono fun e _ made => ?_
    obtain ⟨-, id, now, number, postedBy, rfl⟩ := made
    rfl
  cases c with
  | createEntry header lines post =>
      cases post with
      | true => cases h
      | false =>
          refine .map (Journal.createEntry_allOrNothing.mono fun e _ made => ?_)
          obtain ⟨-, id, now, number, postedBy, rfl⟩ := made
          rfl
  | postInvoice => exact .map (Documents.postInvoice_allOrNothing (created _))
  | recordPayment => exact .map (Documents.recordPayment_allOrNothing (created _))
  | openAccount | openAccounts | seedDefaultChart | updateAccount | archiveAccount | deleteAccount
  | postEntry | reverseEntry | postExpense => cases h
  | _ =>
      -- the event is quiet whatever is answered
      refine (ServiceCall.allOrNothing _ st).mono fun a _ _ => ?_
      cases a <;> exact trivial

/-- A call that never posts leaves what reports read, whether it answers or fails. -/
theorem Session.sameBooks {x : Session} (sound : s.Sound) (h : x.call.neverPosts = true) :
    s.SameBooks (x.run s).2 := by
  refine .step sound (x.run_step s) ?_
  unfold event
  cases hr : (x.run s).1 with
  | ok a => exact run_answered (x.call.quiet x.setting h) hr
  | error f => exact trivial

/-- After any run, a call that never posts changes no report of any company or account, whatever the
    faults that strike it. -/
theorem drafts_invisible (sessions : List Session) (x : Session) (h : x.call.neverPosts = true)
    (clock clock' : Clock) (before : w.store = Store.after sessions)
    (after : w'.store = Store.after (sessions ++ [x])) (idle : w.pending = none)
    (idle' : w'.pending = none) : Reports.Alike clock clock' w w' := by
  have same := x.sameBooks (Store.after_sound sessions) h
  rw [← Store.after_concat, ← before, ← after] at same
  exact same.reports idle idle'

/-- A draft that moves 7 on the later day. -/
def draftsSeven : Session where
  call := .moving laterDay (.finite false 7 0) false
  setting := { clock := .ok default }

/-- The draft is stored as a third entry beside the two that are posted. -/
theorem drafts_invisible_draftsSeven :
    draftsSeven.call.neverPosts = true ∧
      (Store.after (movesOnTwoDays ++ [draftsSeven])).entries.map (fun e => e.entry.status) =
        [.posted, .posted, .draft] ∧
      Reports.Alike (.ok default) (.ok default) { store := Store.after movesOnTwoDays }
        { store := Store.after (movesOnTwoDays ++ [draftsSeven]) } := by
  refine ⟨rfl, by decide +kernel, ?_⟩
  exact drafts_invisible (w := { store := Store.after movesOnTwoDays }) movesOnTwoDays draftsSeven rfl
    (.ok default) (.ok default) rfl rfl rfl rfl

end Bookkeeping
