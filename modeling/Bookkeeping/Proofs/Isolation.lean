import Bookkeeping.Proofs.AccountLedger
import Bookkeeping.Proofs.Invisible

set_option autoImplicit false

/-! # Companies apart

One store keeps the books of all companies, and a line names its account by an identifier that says
nothing of a company. Still, what is called for one company leaves all that is read for another one
(`companies_apart`).

A call changes accounts, entries and counters only of the company that it is made for
(`ServiceCall.IsFor.step`, `SameCompany.step`). The ledger of an account looks for lines in the entries
of all companies; those of other companies have none on the account, because no line was ever accepted
on an account of another company than that of its entry (`Store.Chartered`). -/

namespace Bookkeeping

variable {clock clock' : Clock} {word : String} {w w' : World} {s s' : Store} {ev : Event}
  {company own other : Uuid}

/-! ## What is kept for a company -/

namespace Store

/-- The stores agree in the accounts, the entries and the counters of a company. -/
structure SameCompany (s : Store) (company : Uuid) (s' : Store) : Prop where
  accounts : (s'.accounts.filter fun a => a.company == company) =
    s.accounts.filter fun a => a.company == company
  entries : (s'.entries.filter fun e => e.entry.company == company) =
    s.entries.filter fun e => e.entry.company == company
  counters : ∀ dayPrefix, s'.counter? company dayPrefix = s.counter? company dayPrefix

namespace SameCompany

theorem refl (s : Store) (company : Uuid) : s.SameCompany company s := ⟨rfl, rfl, fun _ => rfl⟩

variable (h : s.SameCompany company s')
include h

/-- They agree in any choice among the accounts of the company. -/
theorem filter_accounts (p : Account → Bool) :
    (s'.accounts.filter fun a => a.company == company && p a) =
      s.accounts.filter fun a => a.company == company && p a := by
  rw [filter_and, filter_and, h.accounts]

/-- They agree in any choice among the entries of the company. -/
theorem filter_entries (p : StoredEntry → Bool) :
    (s'.entries.filter fun e => e.entry.company == company && p e) =
      s.entries.filter fun e => e.entry.company == company && p e := by
  rw [filter_and, filter_and, h.entries]

theorem mem_accounts {a : Account} (ha : a ∈ s.accounts) (hcompany : a.company = company) :
    a ∈ s'.accounts := by
  have hmem : a ∈ s.accounts.filter fun a => a.company == company :=
    List.mem_filter.mpr ⟨ha, beq_iff_eq.mpr hcompany⟩
  rw [← h.accounts] at hmem
  exact List.mem_of_mem_filter hmem

theorem mem_entries {e : StoredEntry} (he : e ∈ s.entries) (hcompany : e.entry.company = company) :
    e ∈ s'.entries := by
  have hmem : e ∈ s.entries.filter fun e => e.entry.company == company :=
    List.mem_filter.mpr ⟨he, beq_iff_eq.mpr hcompany⟩
  rw [← h.entries] at hmem
  exact List.mem_of_mem_filter hmem

/-! ## Reads of stores that agree -/

theorem account? (chartered : s'.Chartered) {id : Uuid} {a : Account} (found : s.account? id = some a)
    (hcompany : a.company = company) : s'.account? id = s.account? id := by
  obtain ⟨ha, rfl⟩ := account?_some found
  rw [found, chartered.account?_eq (h.mem_accounts ha hcompany)]

theorem stored? (sound : s'.Sound) {id : Uuid} {e : StoredEntry} (found : s.stored? id = some e)
    (hcompany : e.entry.company = company) : s'.stored? id = s.stored? id := by
  obtain ⟨he, rfl⟩ := stored?_some found
  rw [found, sound.stored?_eq (h.mem_entries he hcompany)]

theorem accountByCode? (code : String) :
    s'.accountByCode? company code = s.accountByCode? company code := by
  have hfind (t : Store) : t.accountByCode? company code =
      (t.accounts.filter fun a => a.company == company && a.code == code).head? := by
    rw [List.head?_filter]
    rfl
  rw [hfind, hfind, h.filter_accounts]

theorem companyAccounts (p : Account → Bool) :
    s'.companyAccounts company p = s.companyAccounts company p := by
  rw [Store.companyAccounts, Store.companyAccounts, h.filter_accounts]

theorem entriesOf (status : Option EntryStatus) :
    s'.entriesOf company status = s.entriesOf company status := by
  unfold Store.entriesOf
  dsimp only
  rw [h.filter_entries]

theorem peekSequence (dayPrefix : String) :
    s'.peekSequence company dayPrefix = s.peekSequence company dayPrefix := by
  unfold Store.peekSequence highestExisting numbersLike
  rw [h.counters, h.entries]

theorem postedTotals (range : DateRange) :
    s'.postedTotals company range = s.postedTotals company range := by
  have hposted : s'.postedEntries company range = s.postedEntries company range := by
    simp only [Store.postedEntries, Bool.and_assoc, h.filter_entries]
  rw [Store.postedTotals, Store.postedTotals, hposted]

end SameCompany

/-! ## Lines on an account of the company -/

theorem writtenLe_trans (a b c : StoredEntry) (hab : writtenLe a b) (hbc : writtenLe b c) :
    writtenLe a c :=
  decide_eq_true (Nat.le_trans (of_decide_eq_true hab) (of_decide_eq_true hbc))

theorem writtenLe_total (a b : StoredEntry) : writtenLe a b || writtenLe b a := by
  rw [Bool.or_eq_true]
  exact (Nat.le_total a.written b.written).imp decide_eq_true decide_eq_true

namespace SameCompany

variable {a : Account} {β : Type} {f : StoredEntry → List β}

/-- What is made of the lines on an account is made of entries of its company. -/
theorem flatMap_filter (chartered : s.Chartered) (ha : a ∈ s.accounts)
    (nothing : ∀ e, e.linesOn a.id = [] → f e = []) {es : List StoredEntry} (hes : es ⊆ s.entries) :
    (es.filter fun e => e.entry.company == a.company).flatMap f = es.flatMap f :=
  flatMap_filter_of_nil fun e he hother =>
    nothing e (chartered.linesOn_nil ha (hes he) (by simpa using hother))

variable (h : s.SameCompany a.company s') (chartered : s.Chartered) (chartered' : s'.Chartered)
  (ha : a ∈ s.accounts)
include h chartered chartered' ha

theorem flatMap_chosen (nothing : ∀ e, e.linesOn a.id = [] → f e = []) (p : StoredEntry → Bool) :
    (s'.entries.filter p).flatMap f = (s.entries.filter p).flatMap f := by
  rw [← flatMap_filter chartered' (h.mem_accounts ha rfl) nothing (List.filter_subset_self _),
    ← flatMap_filter chartered ha nothing (List.filter_subset_self _), List.filter_comm, h.entries,
    List.filter_comm]

theorem flatMap_written (nothing : ∀ e, e.linesOn a.id = [] → f e = []) (p : StoredEntry → Bool) :
    ((s'.entries.filter p).mergeSort writtenLe).flatMap f =
      ((s.entries.filter p).mergeSort writtenLe).flatMap f := by
  have within (t : Store) : (t.entries.filter p).mergeSort writtenLe ⊆ t.entries :=
    fun e he => List.mem_of_mem_filter (List.mem_mergeSort.mp he)
  rw [← flatMap_filter chartered' (h.mem_accounts ha rfl) nothing (within s'),
    ← flatMap_filter chartered ha nothing (within s), filter_mergeSort writtenLe_trans writtenLe_total,
    filter_mergeSort writtenLe_trans writtenLe_total, List.filter_comm, h.entries, List.filter_comm]

theorem postedTotalsBefore (day : Date) :
    s'.postedTotalsBefore a.id day = s.postedTotalsBefore a.id day := by
  rw [Store.postedTotalsBefore, Store.postedTotalsBefore,
    h.flatMap_written chartered chartered' ha fun _ hnone => hnone]

theorem postedLines (range : DateRange) (search : Option String) :
    s'.postedLines a.id range search = s.postedLines a.id range search := by
  unfold Store.postedLines
  dsimp only
  rw [h.flatMap_chosen chartered chartered' ha]
  intro e hnone
  rw [hnone, List.map_nil]

end SameCompany

end Store

/-! ## Reports of stores that agree -/

/-- The reports of a company and of its accounts answer the same in both worlds, for every range and
    every filter. -/
structure Reports.AlikeFor (company : Uuid) (clock clock' : Clock) (w w' : World) : Prop where
  balances : ∀ range,
    ((balances company range).run clock w).1 = ((balances company range).run clock' w').1
  trialBalance : ∀ range,
    ((trialBalance company range).run clock w).1 = ((trialBalance company range).run clock' w').1
  ledgerFor : ∀ a ∈ w.store.accounts, a.company = company → ∀ f,
    ((ledgerFor a.id f).run clock w).1 = ((ledgerFor a.id f).run clock' w').1

theorem Store.SameCompany.reports (h : w.store.SameCompany company w'.store)
    (chartered : w.store.Chartered) (chartered' : w'.store.Chartered) (idle : w.pending = none)
    (idle' : w'.pending = none) : Reports.AlikeFor company clock clock' w w' := by
  have balances (range : DateRange) :
      (Reports.balances company range).AnswersAlike clock clock' w w' :=
    Reports.balances_alike idle idle' (h.companyAccounts _) (h.postedTotals range)
  refine ⟨fun range => (balances range).run,
    fun range => (Reports.trialBalance_alike (balances range)).run, ?_⟩
  rintro a ha rfl f
  exact (Reports.ledgerFor_alike idle idle' (h.account? chartered' (chartered.account?_eq ha) rfl)
    (h.postedTotalsBefore chartered chartered' ha) (h.postedLines chartered chartered' ha)).run

/-! ## Calls that read the books of a company -/

open Procedure

/-- The call reads the books of the company: its accounts, its entries or its next numbers. -/
def ServiceCall.ReadsFor (s : Store) (company : Uuid) : ServiceCall → Prop
  | .getAccount id => ∃ a, s.account? id = some a ∧ a.company = company
  | .getEntry id => ∃ e, s.stored? id = some e ∧ e.entry.company = company
  | .getAccountByCode c _ | .listAccounts c _ | .vatAccounts c | .listEntries c _
  | .nextEntryNumber c _ => c = company
  | _ => False

/-- A call that reads the books of a company answers the same where they are the same. -/
theorem ServiceCall.ReadsFor.alike {c : ServiceCall} {st : Setting}
    (reads : c.ReadsFor w.store company) (h : w.store.SameCompany company w'.store)
    (sound' : w'.store.Sound) (chartered' : w'.store.Chartered) (idle : w.pending = none)
    (idle' : w'.pending = none) : (c.procedure st).AnswersAlike clock clock' w w' := by
  cases c with
  | getAccount id =>
      obtain ⟨a, found, hcompany⟩ := reads
      have look : (perform (.account id)).AnswersAlike clock clock' w w' :=
        answersAlike_perform idle idle' (fun s => .ok (s.account? id)) (fun _ _ => rfl)
          (congrArg Except.ok (h.account? chartered' found hcompany))
      refine (look.bind fun found => ?_).bind fun _ => answersAlike_done _
      cases found <;> exact answersAlike_done _
  | getEntry id =>
      obtain ⟨e, found, hcompany⟩ := reads
      have look : (perform (.entry id)).AnswersAlike clock clock' w w' :=
        answersAlike_perform idle idle' (Store.entry? · id) (fun _ _ => rfl)
          (congrArg Store.readFound (h.stored? sound' found hcompany))
      refine (look.bind fun found => ?_).bind fun _ => answersAlike_done _
      cases found <;> exact answersAlike_done _
  | getAccountByCode c code =>
      obtain rfl : c = company := reads
      have look : (perform (.accountByCode c code)).AnswersAlike clock clock' w w' :=
        answersAlike_perform idle idle' (fun s => .ok (s.accountByCode? c code)) (fun _ _ => rfl)
          (congrArg Except.ok (h.accountByCode? code))
      refine (look.bind fun found => ?_).bind fun _ => answersAlike_done _
      cases found <;> exact answersAlike_done _
  | listAccounts c archived =>
      obtain rfl : c = company := reads
      have look : (perform (.accountsOf c archived)).AnswersAlike clock clock' w w' :=
        answersAlike_perform idle idle' (fun s => .ok (s.accountsOf c archived)) (fun _ _ => rfl)
          (congrArg Except.ok (h.companyAccounts _))
      exact look.bind fun _ => answersAlike_done _
  | vatAccounts c =>
      obtain rfl : c = company := reads
      have look : (perform (.vatAccountsOf c)).AnswersAlike clock clock' w w' :=
        answersAlike_perform idle idle' (fun s => .ok (s.vatAccountsOf c)) (fun _ _ => rfl)
          (congrArg Except.ok (h.companyAccounts _))
      exact look.bind fun _ => answersAlike_done _
  | listEntries c status =>
      obtain rfl : c = company := reads
      have look : (perform (.entriesOf c status)).AnswersAlike clock clock' w w' :=
        answersAlike_perform idle idle' (Store.entriesOf · c status) (fun _ _ => rfl)
          (h.entriesOf status)
      exact look.bind fun _ => answersAlike_done _
  | nextEntryNumber c date =>
      obtain rfl : c = company := reads
      have look (dayPrefix : String) :
          (perform (.peekSequence c dayPrefix)).AnswersAlike clock clock' w w' :=
        answersAlike_perform idle idle' (Store.peekSequence · c dayPrefix) (fun _ _ => rfl)
          (h.peekSequence dayPrefix)
      refine ((look _).bind fun sequence => ?_).bind fun _ => answersAlike_done _
      dsimp only
      split <;> exact answersAlike_done _
  | _ => exact reads.elim

/-! ## What a call is for -/

/-- The event concerns only accounts and entries of the company. -/
def Event.IsFor (s : Store) (company : Uuid) : Event → Prop
  | .nothing => True
  | .accountsOpened as => ∀ a ∈ as, a.company = company
  | .accountSaved a => ∀ old, s.account? a.id = some old → old.company = company
  | .accountDeleted id => ∀ old, s.account? id = some old → old.company = company
  | .entryCreated e => e.company = company
  | .draftEdited e | .entryPosted e | .entryVoided e =>
      ∀ old, s.stored? e.id = some old → old.entry.company = company
  | .entryDeleted id => ∀ old, s.stored? id = some old → old.entry.company = company

/-- The call is made for the company: for one that it names, or for the one that owns the account or the
    entry that it names. The accounts in lines and documents may be any. -/
def ServiceCall.IsFor (s : Store) (company : Uuid) : ServiceCall → Prop
  | .getAccountByCode c _ | .listAccounts c _ | .vatAccounts c | .openAccount c _ | .openAccounts c _
  | .seedDefaultChart c | .validateLines _ c | .listEntries c _ | .nextEntryNumber c _ => c = company
  | .getAccount id | .updateAccount id _ | .archiveAccount id | .deleteAccount id =>
      ∀ a, s.account? id = some a → a.company = company
  | .createEntry h _ _ => h.company = company
  | .getEntry id | .updateDraft id _ _ _ | .postEntry id _ | .voidEntry id _ | .reverseEntry id _ _ _
  | .deleteEntry id => ∀ e, s.stored? id = some e → e.entry.company = company
  | .postInvoice i _ => i.company = company
  | .recordPayment p _ => p.company = company
  | .postExpense r _ => r.company = company

/-- A call takes a step that concerns only the company that it is made for, or fails and leaves the store
    as it is. -/
theorem ServiceCall.IsFor.step {c : ServiceCall} (isFor : c.IsFor s company) (st : Setting) :
    (c.procedure st).AllOrNothing clock s fun a s' =>
      s.Step clock st.numberWord (c.event a) s' ∧ (c.event a).IsFor s company := by
  have created (company : Uuid) (post : Bool) : Documents.CreatesPlain clock st s company post
      fun e s' => s.Step clock st.numberWord (.entryCreated e) s' ∧ e.company = company := by
    intro h lines _ hcompany
    refine Journal.createEntry_allOrNothing.mono fun e _ ⟨hs, made⟩ => ⟨hs, ?_⟩
    obtain ⟨id, now, number, postedBy, rfl⟩ := made
    exact hcompany
  cases c with
  | openAccount =>
      obtain rfl := isFor
      exact .map (Registry.openAccount_allOrNothing.mono fun _ _ h => ⟨h.1, h.2⟩)
  | openAccounts =>
      obtain rfl := isFor
      exact .map (Registry.openAccounts_allOrNothing.mono fun _ _ h => ⟨h.1.1, h.1.2⟩)
  | seedDefaultChart =>
      obtain rfl := isFor
      exact .map (Registry.seedDefaultChart_allOrNothing.mono fun _ _ h => ⟨h.1, h.2⟩)
  | updateAccount =>
      exact .map (Registry.updateAccount_allOrNothing.mono fun _ _ h => ⟨h.1, h.2 ▸ isFor⟩)
  | archiveAccount =>
      exact .map (Registry.archiveAccount_allOrNothing.mono fun _ _ h => ⟨h.1, h.2 ▸ isFor⟩)
  | deleteAccount =>
      exact .map (Registry.deleteAccount_allOrNothing.mono fun _ _ h => ⟨h, isFor⟩)
  | updateDraft =>
      exact .map (Journal.updateDraft_allOrNothing.mono fun _ _ h => ⟨h.1, h.2 ▸ isFor⟩)
  | postEntry =>
      exact .map (Journal.postEntry_allOrNothing.mono fun _ _ h => ⟨h.1, h.2 ▸ isFor⟩)
  | voidEntry =>
      exact .map (Journal.voidEntry_allOrNothing.mono fun _ _ h => ⟨h.1, h.2 ▸ isFor⟩)
  | deleteEntry =>
      exact .map (Journal.deleteEntry_allOrNothing.mono fun _ _ h => ⟨h, isFor⟩)
  | createEntry h lines post =>
      obtain rfl := isFor
      refine .map (Journal.createEntry_allOrNothing.mono fun e _ ⟨hs, made⟩ => ⟨hs, ?_⟩)
      obtain ⟨id, now, number, postedBy, rfl⟩ := made
      rfl
  | reverseEntry =>
      refine .map (Journal.reverseEntry_allOrNothing fun old day found _ _ =>
        Journal.createEntry_allOrNothing.mono fun e _ ⟨hs, made⟩ => ⟨hs, ?_⟩)
      obtain ⟨_, now, number, postedBy, rfl⟩ := made
      exact isFor old found
  | postInvoice =>
      obtain rfl := isFor
      exact .map (Documents.postInvoice_allOrNothing (created _ false))
  | recordPayment =>
      obtain rfl := isFor
      exact .map (Documents.recordPayment_allOrNothing (created _ false))
  | postExpense =>
      obtain rfl := isFor
      exact .map (Documents.postExpense_allOrNothing (created _ true))
  | _ =>
      -- the other calls only read
      refine (ServiceCall.allOrNothing _ st).mono fun a _ h => ⟨h, ?_⟩
      cases a <;> exact trivial

/-! ## Steps for one company -/

namespace Store

/-- A change of one entry of another company. -/
theorem Sound.company_updateStored (sound : s.Sound) {id : Uuid} {old : StoredEntry}
    (found : s.stored? id = some old) {f : StoredEntry → StoredEntry}
    (kept : ∀ e, (f e).entry.company = e.entry.company) (foreign : old.entry.company ≠ company) :
    ((s.updateStored id f).entries.filter fun e => e.entry.company == company) =
      s.entries.filter fun e => e.entry.company == company := by
  obtain ⟨hold, rfl⟩ := stored?_some found
  refine filter_map_of_unchosen fun e he => ?_
  by_cases hid : e.entry.id = old.entry.id
  · obtain rfl := sound.eq_of_id he hold hid
    rw [if_pos (beq_self_eq_true _), kept]
    exact .inr ⟨beq_false_of_ne foreign, beq_false_of_ne foreign⟩
  · exact .inl (if_neg (by simpa using hid))

/-- A step for one company leaves all that is kept for another one. -/
theorem SameCompany.step (sound : s.Sound) (chartered : s.Chartered)
    (hs : s.Step clock word ev s') (isFor : ev.IsFor s own) (apart : own ≠ other) :
    s.SameCompany other s' := by
  cases hs with
  | nothing | accountKept => exact .refl s other
  | @accountsOpened _ _ _ accounts made distinct =>
      refine ⟨?_, rfl, fun _ => rfl⟩
      have hnone : (accounts.filter fun a => a.company == other) = [] := by
        refine List.filter_eq_nil_iff.mpr fun a ha hother => apart ?_
        exact (isFor a ha).symm.trans (beq_iff_eq.mp hother)
      rw [List.filter_append, hnone, List.append_nil]
  | @accountSaved old a found company isSystem createdAt free edited =>
      refine ⟨filter_map_of_unchosen fun c hc => ?_, rfl, fun _ => rfl⟩
      obtain ⟨hold, hid⟩ := account?_some found
      have foreign : old.company ≠ other := isFor old found ▸ apart
      by_cases hca : c.id = a.id
      · obtain rfl := chartered.eq_of_id hc hold (hca.trans hid.symm)
        rw [if_pos (beq_iff_eq.mpr hca), company]
        exact .inr ⟨beq_false_of_ne foreign, beq_false_of_ne foreign⟩
      · exact .inl (if_neg (by simpa using hca))
  | @accountDeleted id old found ordinary unused =>
      refine ⟨filter_filter_of_unchosen fun c hc hid => ?_, rfl, fun _ => rfl⟩
      obtain ⟨hold, rfl⟩ := account?_some found
      obtain rfl := chartered.eq_of_id hc hold (by simpa using hid)
      exact beq_false_of_ne (isFor c found ▸ apart)
  | @entryCreated h _ _ _ _ _ _ _ _ _ _ _ allocation _ _ _ _ _ _ =>
      have foreign : h.company ≠ other := (show h.company = own from isFor) ▸ apart
      refine ⟨rfl, ?_, fun dayPrefix => allocation.others _ _ fun same => foreign same.1.symm⟩
      rw [withEntry, List.filter_append, List.filter_singleton]
      dsimp only [newEntry]
      rw [beq_false_of_ne foreign, cond_false, List.append_nil]
  | draftEdited found draft accepted clock_eq stored =>
      have foreign := isFor _ (sound.stored?_eq (stored?_some found).1) ▸ apart
      exact ⟨rfl, sound.company_updateStored found (fun _ => rfl) foreign, fun _ => rfl⟩
  | @entryPosted id user old now found draft accepted clock_eq =>
      have foreign := isFor old (sound.stored?_eq (stored?_some found).1) ▸ apart
      refine ⟨rfl, sound.company_updateStored found (fun e => ?_) foreign, fun _ => rfl⟩
      split <;> rfl
  | @entryVoided id user old now found draft clock_eq =>
      have foreign := isFor old (sound.stored?_eq (stored?_some found).1) ▸ apart
      refine ⟨rfl, sound.company_updateStored found (fun e => ?_) foreign, fun _ => rfl⟩
      split <;> rfl
  | @entryDeleted id old found unposted =>
      refine ⟨rfl, filter_filter_of_unchosen fun e he hid => ?_, fun _ => rfl⟩
      obtain ⟨hold, rfl⟩ := stored?_some found
      obtain rfl := sound.eq_of_id he hold (by simpa using hid)
      exact beq_false_of_ne (isFor e found ▸ apart)

end Store

/-! ## Calls for one company -/

/-- A session for one company leaves all that is kept for another one, whether it answers or fails. -/
theorem Session.sameCompany {x : Session} (sound : s.Sound) (chartered : s.Chartered)
    (isFor : x.call.IsFor s own) (apart : own ≠ other) : s.SameCompany other (x.run s).2 := by
  cases hr : (x.run s).1 with
  | ok a =>
      obtain ⟨step, concerns⟩ := run_answered (isFor.step x.setting) hr
      exact .step sound chartered step concerns apart
  | error f =>
      have hs := isFor.step x.setting _ _ (hr ▸ x.run_yields s)
      rw [show (x.run s).2 = s from hs]
      exact .refl s other

/-- After any run, a call for one company, whatever accounts its lines and documents name, and whether it
    succeeds or fails, leaves every answer about the books of another company: its accounts, its entries
    and its next numbers, its balances and trial balances, and the ledgers of its accounts. -/
theorem companies_apart (sessions : List Session) (x : Session) (apart : own ≠ other)
    (isFor : x.call.IsFor (Store.after sessions) own) :
    (∀ y : Session, y.call.ReadsFor (Store.after sessions) other →
      (y.run (Store.after (sessions ++ [x]))).1 = (y.run (Store.after sessions)).1) ∧
      ∀ (clock clock' : Clock) (w w' : World), w.store = Store.after sessions →
        w'.store = Store.after (sessions ++ [x]) → w.pending = none → w'.pending = none →
          Reports.AlikeFor other clock clock' w w' := by
  have sound' := Store.after_sound (sessions ++ [x])
  have chartered := Store.after_chartered sessions
  have chartered' := Store.after_chartered (sessions ++ [x])
  have same := x.sameCompany (Store.after_sound sessions) chartered isFor apart
  rw [← Store.after_concat] at same
  refine ⟨fun y reads => ?_, fun clock clock' w w' before after idle idle' => ?_⟩
  · have reads : y.call.ReadsFor (y.world (Store.after sessions)).store other := reads
    have alike : (y.call.procedure y.setting).AnswersAlike y.setting.clock y.setting.clock
        (y.world (Store.after sessions)) (y.world (Store.after (sessions ++ [x]))) :=
      reads.alike same sound' chartered' rfl rfl
    exact alike.run.symm
  · rw [← before] at same chartered
    rw [← after] at same chartered'
    exact same.reports chartered chartered' idle idle'

/-- Beside the company that has moved amounts another one opens an account. -/
def twoCompanies : List Session :=
  movesOnTwoDays ++
    [{ call := .openAccount ⟨2⟩ { code := "1000", nameEn := "Bank", type := .asset }
       setting := { clock := .ok default } }]

/-- The first company moves 7 on the later day. -/
def movesSeven : Session where
  call := .moving laterDay (.finite false 7 0) true
  setting := { clock := .ok default }

/-- The accounts of the second company are listed. -/
def listsSecond : Session where
  call := .listAccounts ⟨2⟩ true
  setting := { clock := .ok default }

/-- The second company has one account, after a third entry of the first company as before it. -/
theorem companies_apart_twoCompanies :
    (⟨1⟩ : Uuid) ≠ ⟨2⟩ ∧ movesSeven.call.IsFor (Store.after twoCompanies) ⟨1⟩ ∧
      listsSecond.call.ReadsFor (Store.after twoCompanies) ⟨2⟩ ∧
      (Store.after twoCompanies).entries.length = 2 ∧
      (Store.after (twoCompanies ++ [movesSeven])).entries.length = 3 ∧
      (listsSecond.run (Store.after (twoCompanies ++ [movesSeven]))).1 =
        (listsSecond.run (Store.after twoCompanies)).1 ∧
      Reports.AlikeFor ⟨2⟩ (.ok default) (.ok default) { store := Store.after twoCompanies }
        { store := Store.after (twoCompanies ++ [movesSeven]) } := by
  have apart : (⟨1⟩ : Uuid) ≠ ⟨2⟩ := by decide
  obtain ⟨reads, reports⟩ := companies_apart twoCompanies movesSeven apart rfl
  refine ⟨apart, rfl, rfl, by decide +kernel, by decide +kernel, reads listsSecond rfl, ?_⟩
  exact reports _ _ _ _ rfl rfl rfl rfl

end Bookkeeping
