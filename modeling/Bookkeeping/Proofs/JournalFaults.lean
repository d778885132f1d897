import Bookkeeping.Proofs.AmountFaults
import Bookkeeping.Proofs.InvoicePosting

set_option autoImplicit false

/-! # When calls to the journal fail without a status

While other writers cause nothing but conflicts (`World.Contended`), each call that writes to the journal
comes to a value or to a failure that is answered with a status of its own, unless the lines that it looks
at cannot be checked (`Store.Checkable`): their accounts are too many for one statement, or their amounts do
not add up. Where new entries are numbered with a word that is too long to search for
(`EntryNumber.LongWord`), a number may be missing as well. Whatever else a transaction would need to fail in
the database is ruled out: lines can be stored, and statuses are read. -/

namespace Bookkeeping

open Procedure

variable {clock : Clock} {w : World} {s : Store} {now : Instant} {user : String} {A L : Prop}

/-! ## Procedures -/

namespace FaultsUnless

variable {α β : Type} {p : Procedure α} {f : α → Procedure β} {a : α} {v : World}

theorem holds {a : α} (h : FaultsUnless A L (.ok a)) : A := by
  cases h with
  | ok _ h => exact h

/-- What is always answered is answered where `A` holds. -/
theorem of_answered {r : Except Failure α} (h : FaultsUnless True L r) (hA : A) : FaultsUnless A L r :=
  h.congr (by simp [hA])

/-- Go on behind a part that answers. -/
theorem after (h : p.exec clock w = (.ok a, v)) (rest : FaultsUnless A L ((f a).exec clock v).1) :
    FaultsUnless A L ((p >>= f).exec clock w).1 := by
  rw [exec_bind_ok h]
  exact rest

/-- A part that fails so is followed by nothing. -/
theorem bind (h : FaultsUnless A L (p.exec clock w).1)
    (rest : ∀ a v, p.exec clock w = (.ok a, v) → FaultsUnless A L ((f a).exec clock v).1) :
    FaultsUnless A L ((p >>= f).exec clock w).1 := by
  rcases hp : p.exec clock w with ⟨r, v⟩
  cases r with
  | ok a => exact after hp (rest a v hp)
  | error e =>
      rw [exec_bind_error hp]
      rw [hp] at h
      cases h with
      | refused answerable h => exact .refused answerable h
      | unnumbered long h => exact .unnumbered long h
      | fault g h => exact .fault g h
      | crowded h => exact .crowded h

/-- A part is followed by something that answers. -/
theorem followed {g : α → β} (h : FaultsUnless A L (p.exec clock w).1)
    (rest : ∀ a v, ((f a).exec clock v).1 = .ok (g a)) : FaultsUnless A L ((p >>= f).exec clock w).1 := by
  refine FaultsUnless.bind h fun a v hv => ?_
  rw [rest a v]
  rw [hv] at h
  exact .ok _ h.holds

theorem reject {e : LedgerError} (kind : e.kind ≠ .ledger) (h : A) :
    FaultsUnless A L ((Procedure.reject e : Procedure α).exec clock w).1 := .refused kind h

end FaultsUnless

/-! ## Contention -/

/-- The disturbance is a conflict about a number: another writer has taken it, or holds its counter. -/
def Disturbance.Contends : Disturbance → Prop
  | .raised f => f.isRetried = true
  | .struck strike => Attempt.ofFault strike.fault = .conflict

/-- A session may meet conflicts about numbers, and other writers may change statuses just before they are
    looked at; nothing else disturbs it on the store `s`. -/
structure World.Contended (s : Store) (w : World) : Prop where
  store : w.store = s
  idle : w.pending = none
  lines : w.faults.lines = none
  writes : w.faults.writes = none
  creations : ∀ d, some d ∈ w.faults.creations → d.Contends

theorem World.Contended.ready (h : w.Contended s) : w.Ready s w.faults.creations :=
  ⟨h.store, h.idle, h.lines, rfl⟩

theorem World.Contended.logged (h : w.Contended s) (log : List LogRecord) :
    ({ w with log } : World).Contended s := ⟨h.store, h.idle, h.lines, h.writes, h.creations⟩

/-- After another writer has changed a status the session meets nothing else than before. -/
theorem World.Contended.interfere (h : w.Contended s) (id : Uuid) :
    ∃ t, (w.interfere id).Contended t := by
  unfold World.interfere
  split
  · exact ⟨_, rfl, h.idle, h.lines, h.writes, h.creations⟩
  · exact ⟨s, h⟩

/-! ## The check of double entry -/

namespace Store

/-- The amounts of the lines add up, as far as the check of double entry comes. -/
def AddsUp (s : Store) (company : Uuid) (lines : List PostingLine) : Prop :=
  Posting.AddsUp s.account? company .zero .zero lines

/-- The lines can be checked: their accounts are found at once, and their amounts add up. -/
structure Checkable (s : Store) (company : Uuid) (lines : List PostingLine) : Prop where
  few : Posting.FewAccounts lines
  addsUp : s.AddsUp company lines

variable {company : Uuid} {lines : List PostingLine}

theorem checkLines_faultsUnless (numbers : ∀ l ∈ lines, Posting.Numbers l) :
    FaultsUnless (s.AddsUp company lines) L (s.checkLines company lines).totals := by
  refine (Posting.check_faultsUnless numbers).congr (Posting.AddsUp.congr fun l hl => ?_)
  exact Posting.Directory.ofList_accountsById (List.mem_eraseDups.mpr (List.mem_map_of_mem hl))

end Store

namespace Journal

variable {company : Uuid} {lines : List PostingLine}

/-- The check of lines comes to its totals, and leaves notes. -/
theorem exec_validateLines (idle : w.pending = none) (few : Posting.FewAccounts lines) :
    (validateLines lines company).exec clock w =
      ((w.store.checkLines company lines).totals,
        { w with log := (w.store.checkLines company lines).notes.reverse ++ w.log }) := by
  have looked : (perform (.accountsById (lines.map PostingLine.account).eraseDups)).Looks clock w
      (w.store.accountsById (lines.map PostingLine.account).eraseDups) :=
    looks_perform idle (congrArg (·, w) (Store.findAccounts_of_few few))
  exact (exec_bind_ok looked).trans (exec_bind_ok (performs_notes _).exec)

/-- The accounts of the lines are too many to be looked up. -/
theorem exec_validateLines_crowded (idle : w.pending = none) (crowded : ¬ Posting.FewAccounts lines) :
    (validateLines lines company).exec clock w = (.error Store.tooManyValues, w) := by
  have refused : (perform (.accountsById (lines.map PostingLine.account).eraseDups)).exec clock w =
      (.error Store.tooManyValues, w) := by
    refine (performs_perform ?_).exec
    rw [Op.exec, idle]
    exact congrArg (·, w) (if_pos (Nat.not_le.mp crowded))
  exact exec_bind_error refused

end Journal

/-! ## Creating entries -/

namespace Creation

variable {c : Creation} {schedule : List (Option Disturbance)}

/-- An attempt under contention is clean or meets a conflict. -/
theorem meeting_contended {d : Option Disturbance} (contends : ∀ x, d = some x → x.Contends) :
    c.meeting s d = .clean ∨ c.meeting s d = .conflict := by
  rcases d with _ | ⟨f⟩ | strike
  · exact .inl rfl
  · exact .inr (Attempt.ofFailure_eq_conflict.mpr (contends _ rfl))
  · have conflict : Attempt.ofFault strike.fault = .conflict := contends _ rfl
    cases hp : c.write s with
    | error f => exact .inl (by simp only [meeting, hp])
    | ok p =>
        obtain ⟨after, fault⟩ := strike
        by_cases due : after ≤ p.statements.length
        · exact .inr (by simpa only [meeting, hp, Strike.due, if_pos due] using conflict)
        · exact .inl (by simp only [meeting, hp, Strike.due, if_neg due])

/-- Attempts under contention end with a new entry, or give up at last, unless no number can be searched
    for. -/
theorem tries_answered (possible : c.Possible s)
    (prepared : (∃ p, c.write s = .ok p) ∨ L ∧ c.write s = .error Store.longPattern) (n : Nat)
    (ready : w.Ready s schedule) (contends : ∀ d, some d ∈ schedule → d.Contends) :
    FaultsUnless True L ((c.tries n).exec c.setting.clock w).1 := by
  -- a conflict leaves the store as it was and the rest of the schedule, so the next attempt starts alike
  induction n generalizing w schedule with
  | zero => exact .reject nofun trivial
  | succ n ih =>
      have first (x) (hx : schedule.head?.join = some x) : x.Contends := by
        refine contends x (List.mem_of_mem_head? ?_)
        rw [Option.mem_def, ← Option.join_eq_some_iff]
        exact hx
      rcases meeting_contended (c := c) (s := s) first with clean | conflict
      · obtain ⟨v, hexec, -⟩ := exec_clean possible ready clean
        rcases prepared with ⟨p, hp⟩ | ⟨long, hp⟩
        · obtain ⟨t, -, houtcome⟩ := possible.outcome_ok hp
          rw [houtcome] at hexec
          rw [(tries_ok hexec).exec]
          exact .ok _ trivial
        · rw [outcome, hp] at hexec
          rw [(tries_error hexec rfl).exec]
          exact .unnumbered long trivial
      · obtain ⟨f, v, hexec, retried, hv⟩ := exec_conflict possible ready conflict
        refine .after (performs_attempt hexec).exec ?_
        dsimp only
        rw [if_pos retried]
        exact .after performs_log.exec
          (ih (hv.note _) fun d hd => contends d (List.mem_of_mem_tail hd))

end Creation

/-! ## What runs leave -/

/-- The word is too long for the numbers of some day to be searched for. -/
def EntryNumber.LongWord (word : String) : Prop :=
  ∃ date, Text.isPatternTooLong (dayPrefix word date ++ "-%") = true

/-- A word of ordinary length is not too long. -/
theorem EntryNumber.not_longWord {word : String} (h : word.utf8ByteSize ≤ 1000) : ¬ LongWord word := by
  rintro ⟨date, long⟩
  rw [pattern_short h date] at long
  cases long

/-- A number can be allocated for an entry of the day, unless the word is too long. -/
def Store.Supplies (s : Store) (word : String) (company : Uuid) (date : Date) : Prop :=
  (∃ q, s.allocate company (EntryNumber.dayPrefix word date) = .ok q) ∨
    EntryNumber.LongWord word ∧
      s.allocate company (EntryNumber.dayPrefix word date) = .error longPattern

/-- What is stored can be read and added to: statuses and amounts are some, counters stand ahead of the
    numbers, and numbers are supplied. -/
structure Store.Orderly (s : Store) : Prop where
  sound : s.Sound
  counted : s.Counted
  supplied : ∀ word company date, s.Supplies word company date
  numbers : ∀ a ∈ s.entries, ∀ l ∈ a.shown.lines, Posting.Numbers l.toPosting

/-- A stored amount is read as a number. -/
theorem Cell.isNumber_toDecimal {a : Decimal} {c : Cell} (h : ofDecimal? a = some c) :
    c.toDecimal.IsNumber := by
  have stored : Binary64.ofDecimal a ≠ .nan := by
    intro hnan
    rw [ofDecimal?, hnan] at h
    cases h
  rw [toDecimal]
  rcases toBinary64_ofDecimal? h with hc | hc
  · rw [hc]
    cases hx : Binary64.ofDecimal a with
    | nan => exact absurd hx stored
    | finite s u => trivial
    | infinity s => trivial
  · rw [hc]
    cases hx : Binary64.ofDecimal a with
    | nan => exact absurd hx stored
    | finite s u => cases u <;> trivial
    | infinity s => trivial

/-- What a run leaves is orderly, when it is not too long. -/
theorem Store.after_orderly (sessions : List Session) (few : sessions.length + 2 < 2 ^ 63) :
    (after sessions).Orderly where
  sound := after_sound sessions
  counted := after_counted sessions
  supplied word company date :=
    ((after_ahead sessions (by omega)).allocate few company (EntryNumber.dayPrefix word date)).imp_right
      fun ⟨long, unallocated⟩ => ⟨⟨date, long⟩, unallocated⟩
  numbers a ha l hl := by
    obtain ⟨lines, -, stored, -⟩ := after_written sessions a ha
    obtain ⟨c, hc, rfl⟩ := List.mem_map.mp hl
    obtain ⟨given, -, hgiven⟩ := exists_left_of_forall₂ (storeLines_storedAs stored) hc
    exact ⟨Cell.isNumber_toDecimal hgiven.debit, Cell.isNumber_toDecimal hgiven.credit⟩

/-- An entry can be written where a number is supplied for it. -/
theorem Store.Supplies.write {c : Creation}
    (h : s.Supplies c.setting.numberWord c.header.company c.header.date) (time : c.setting.clock = .ok now) :
    (∃ p, c.write s = .ok p) ∨
      EntryNumber.LongWord c.setting.numberWord ∧ c.write s = .error longPattern := by
  have write : c.write s =
      s.createEntry now c.header c.lines c.dayPrefix c.status c.postedBy := by
    rw [Creation.write, time]
    rfl
  rw [write, Store.createEntry]
  rcases h with ⟨q, hq⟩ | ⟨long, unallocated⟩
  · left
    rw [Creation.dayPrefix, hq]
    exact ⟨_, rfl⟩
  · right
    rw [Creation.dayPrefix, unallocated]
    exact ⟨long, rfl⟩

/-! ## The entry that a call is about -/

namespace FaultsUnless

variable {α : Type} {id : Uuid} {old : StoredEntry}

/-- The entry is read, or there is none. -/
theorem getEntry {f : Entry Decimal → Procedure α} {P : StoredEntry → Prop} (sound : s.Sound)
    (contended : w.Contended s)
    (rest : ∀ old, s.stored? id = some old → FaultsUnless (P old) L ((f old.shown).exec clock w).1) :
    FaultsUnless (∀ old, s.stored? id = some old → P old) L
      ((Journal.getEntry id >>= f).exec clock w).1 := by
  obtain rfl := contended.store
  cases found : w.store.stored? id with
  | none =>
      have read : w.store.entry? id = .ok none := by
        rw [Store.entry?, found]
        rfl
      have looked : (perform (.entry id)).Looks clock w none :=
        looks_perform contended.idle (congrArg (·, w) read)
      have ended : (Journal.getEntry id).exec clock w = (.error (.ledger (.entryNotFound id)), w) :=
        exec_bind_ok looked
      rw [exec_bind_error ended]
      exact .refused (by rintro ⟨⟩) fun old h => by cases h
  | some old =>
      have known := (sound.coherent old (Store.stored?_some found).1).known
      have answered := after (Journal.looks_getEntry contended.idle found known) (rest old found)
      exact answered.congr (by simp)

/-- An entry that is no draft is refused. -/
theorem requireDraft {f : Unit → Procedure α} {action : String} (known : old.strange = none)
    (rest : old.isIn .draft = true → FaultsUnless A L ((f ()).exec clock w).1) :
    FaultsUnless (old.isIn .draft = true → A) L
      ((Journal.requireDraft old.shown action >>= f).exec clock w).1 := by
  by_cases draft : old.isIn .draft = true
  · have status : old.shown.status = .draft := (StoredEntry.isIn_iff.mp draft).2
    have passed : (Journal.requireDraft old.shown action).exec clock w = (.ok (), w) := by
      rw [Journal.requireDraft, status]
      rfl
    exact (after passed (rest draft)).congr (by simp [draft])
  · unfold Journal.requireDraft ensureDraft
    cases status : old.shown.status with
    | draft => exact absurd (StoredEntry.isIn_iff.mpr ⟨known, status⟩) draft
    | posted => exact .refused (by rintro ⟨⟩) fun h => absurd h draft
    | void => exact .refused (by rintro ⟨⟩) fun h => absurd h draft

/-- Lines are accepted or refused, unless they cannot be checked. -/
theorem validateLines {f : Decimal × Decimal → Procedure α} {company : Uuid} {lines : List PostingLine}
    (contended : w.Contended s) (numbers : ∀ l ∈ lines, Posting.Numbers l)
    (rest : ∀ totals v, s.Accepts company lines → v.Contended s →
      FaultsUnless True L ((f totals).exec clock v).1) :
    FaultsUnless (s.Checkable company lines) L
      ((Journal.validateLines lines company >>= f).exec clock w).1 := by
  obtain rfl := contended.store
  by_cases few : Posting.FewAccounts lines
  · have checked : (Journal.validateLines lines company).exec clock w = _ :=
      Journal.exec_validateLines contended.idle few
    have verdict : FaultsUnless (w.store.Checkable company lines) L
        (w.store.checkLines company lines).totals :=
      (Store.checkLines_faultsUnless numbers).congr ⟨fun addsUp => ⟨few, addsUp⟩, fun h => h.addsUp⟩
    refine FaultsUnless.bind (by rw [checked]; exact verdict) fun totals v hv => ?_
    rw [checked] at hv
    obtain ⟨accepted, rfl⟩ := Prod.mk.inj hv
    rw [accepted] at verdict
    exact (rest totals _ ⟨few, totals, accepted⟩ (contended.logged _)).of_answered verdict.holds
  · rw [exec_bind_error (Journal.exec_validateLines_crowded contended.idle few)]
    exact .crowded fun h => few h.few

end FaultsUnless

/-! ## Writes that the database takes -/

namespace Statement

/-- Lines are deleted as often as one likes. -/
theorem deleteLines_applies (id : Uuid) (n : Nat) (s : Store) :
    ∃ t, applyAll (List.replicate n (.deleteLine id)) s = .ok t := by
  induction n generalizing s with
  | zero => exact ⟨s, rfl⟩
  | succ n ih =>
      obtain ⟨t, ht⟩ := ih (s.updateStored id StoredEntry.withoutLine)
      exact ⟨t, applyAll_cons_ok.mpr ⟨_, rfl, ht⟩⟩

end Statement

section

variable {α : Type} {p : Write α}

/-- A write whose statements can be sent is answered. -/
theorem World.Contended.write_answers {t : Store} (contended : w.Contended s)
    (applies : Statement.applyAll p.statements s = .ok t) (handling : Handling) :
    ∃ v, w.write handling w.faults.writes p = (.ok p.answer, v) := by
  by_cases nothing : p.statements = []
  · refine ⟨w, ?_⟩
    rw [World.write, if_pos (by simpa using nothing)]
  · have calm : Strike.due p.statements.length none = none := rfl
    obtain ⟨v, hv, -⟩ := contended.ready.write_through nothing applies handling calm
    exact ⟨v, by rw [contended.writes, hv]⟩

/-- The change of a status is answered, whatever another writer does to the status before. -/
theorem exec_transition_answers (contended : w.Contended s) (id : Uuid) (expected target : EntryStatus)
    (user : String) (now : Instant) :
    ∃ r v, (perform (.transition id expected target user)).exec (.ok now) w = (.ok r, v) := by
  obtain ⟨t, interfered⟩ := contended.interfere id
  obtain ⟨v, hv⟩ := interfered.write_answers (p := t.transition now id expected target user) rfl
    (.always WriteFault.plain)
  refine ⟨(t.transition now id expected target user).answer, v, ?_⟩
  have performed : Op.exec (.ok now) (.transition id expected target user) w =
      (.ok (t.transition now id expected target user).answer, v) := by
    rw [Op.exec, contended.idle, ← hv, ← interfered.store]
    rfl
  exact (performs_perform performed).exec

/-- The edit of a draft is answered, whatever another writer does to its status before. -/
theorem exec_replaceDraft_answers (contended : w.Contended s) (id : Uuid) {lines : List PostingLine}
    (finite : ∀ l ∈ lines, l.debit.isFinite ∧ l.credit.isFinite) (u : EntryUpdate) (user : String)
    (now : Instant) :
    ∃ r v, (perform (.replaceDraft id u lines user)).exec (.ok now) w = (.ok r, v) := by
  obtain ⟨t, interfered⟩ := contended.interfere id
  obtain ⟨p, hp, t', applies⟩ : ∃ p, t.replaceDraft (.ok now) id u lines user = .ok p ∧
      ∃ t', Statement.applyAll p.statements t = .ok t' := by
    unfold Store.replaceDraft
    split
    · exact ⟨_, rfl, t, rfl⟩
    · next old _ =>
        have numbered (l) (hl : l ∈ numberLines 1 lines) : l.debit.isFinite ∧ l.credit.isFinite := by
          have hmem := List.mem_map_of_mem (f := Line.toPosting) hl
          rw [map_toPosting_numberLines] at hmem
          exact finite l.toPosting hmem
        obtain ⟨cells, stored⟩ := storeLines_of_finite numbered
        obtain ⟨t₁, inserted⟩ := Statement.insertLines_applies id stored
          { t.updateStored id (StoredEntry.edited u user now t.writes) with writes := t.writes + 1 }
        obtain ⟨t₂, deleted⟩ := Statement.deleteLines_applies id old.entry.lines.length t₁
        exact ⟨_, rfl, t₂, Statement.applyAll_cons_ok.mpr
          ⟨_, rfl, Statement.applyAll_append_ok.mpr ⟨t₁, inserted, deleted⟩⟩⟩
  obtain ⟨v, hv⟩ := interfered.write_answers applies (.always WriteFault.plain)
  refine ⟨p.answer, v, ?_⟩
  have performed : Op.exec (.ok now) (.replaceDraft id u lines user) w = (.ok p.answer, v) := by
    rw [Op.exec, contended.idle, ← hv]
    simp only [Op.perform]
    rw [interfered.store, hp]
    rfl
  exact (performs_perform performed).exec

/-- The deletion of an entry is answered. -/
theorem exec_deleteEntry_answers (contended : w.Contended s) (id : Uuid) (clock : Clock) :
    ∃ v, (perform (.deleteEntry id)).exec clock w = (.ok (), v) := by
  obtain ⟨t, applies⟩ : ∃ t, Statement.applyAll (s.deleteEntry id).statements s = .ok t := by
    unfold Store.deleteEntry
    split
    · exact ⟨s, rfl⟩
    · next old _ =>
        obtain ⟨t, ht⟩ := Statement.deleteLines_applies id old.entry.lines.length s
        exact ⟨_, Statement.applyAll_append_ok.mpr ⟨t, ht, Statement.applyAll_cons_ok.mpr ⟨_, rfl, rfl⟩⟩⟩
  obtain ⟨v, hv⟩ := contended.write_answers applies (.always WriteFault.plain)
  refine ⟨v, ?_⟩
  have performed : Op.exec clock (.deleteEntry id) w = (.ok (), v) := by
    rw [Op.exec, contended.idle, ← hv, ← contended.store]
    rfl
  exact (performs_perform performed).exec

end

/-! ## The calls -/

namespace Journal

variable {word : String} {st : Setting} {id : Uuid} {header : EntryHeader} {lines : List PostingLine}
  {post : Bool}

/-- An entry is created or refused, unless its lines cannot be checked; its number may be missing only under
    a long word. -/
theorem createEntry_faultsUnless (orderly : s.Orderly) (contended : w.Contended s)
    (time : st.clock = .ok now) (numbers : ∀ l ∈ lines, Posting.Numbers l) :
    FaultsUnless (s.Checkable header.company lines) (EntryNumber.LongWord st.numberWord)
      ((createEntry st header lines post).exec st.clock w).1 := by
  refine .validateLines contended numbers fun totals v accepted contended => ?_
  let c : Creation := ⟨st, header, lines, post⟩
  have possible : c.Possible s := Creation.possible_of_counted orderly.counted orderly.sound accepted
    fun f hf => by cases time.symm.trans hf
  have supplied : s.Supplies c.setting.numberWord c.header.company c.header.date := orderly.supplied ..
  exact Creation.tries_answered possible (supplied.write time) st.attempts contended.ready
    contended.creations

/-- An edited draft is written or refused, unless the new lines cannot be checked. -/
theorem updateDraft_faultsUnless (orderly : s.Orderly) (contended : w.Contended s)
    (numbers : ∀ l ∈ lines, Posting.Numbers l) (u : EntryUpdate) :
    FaultsUnless
      (∀ old, s.stored? id = some old → old.isIn .draft = true → s.Checkable old.entry.company lines) L
      ((updateDraft id u lines user).exec (.ok now) w).1 := by
  refine .getEntry orderly.sound contended fun old found => ?_
  refine .requireDraft (orderly.sound.coherent old (Store.stored?_some found).1).known fun _ => ?_
  refine .validateLines contended numbers fun totals v accepted contended => ?_
  obtain ⟨-, totals, checked⟩ := accepted
  have finite (l) (hl : l ∈ lines) : l.debit.isFinite ∧ l.credit.isFinite :=
    (Posting.check_passed checked |>.oneSided hl).finite
  obtain ⟨r, v, replaced⟩ := exec_replaceDraft_answers contended id finite u user now
  refine .after replaced ?_
  cases r with
  | none => exact .reject nofun trivial
  | some updated => exact .ok _ trivial

/-- A draft is posted or refused, unless its lines cannot be checked as they are read back. -/
theorem postEntry_faultsUnless (orderly : s.Orderly) (contended : w.Contended s) :
    FaultsUnless
      (∀ old, s.stored? id = some old → old.isIn .draft = true →
        s.Checkable old.entry.company (old.shown.lines.map Line.toPosting)) L
      ((postEntry id user).exec (.ok now) w).1 := by
  refine .getEntry orderly.sound contended fun old found => ?_
  have stored := (Store.stored?_some found).1
  have known := (orderly.sound.coherent old stored).known
  have numbers (l) (hl : l ∈ old.shown.lines.map Line.toPosting) : Posting.Numbers l := by
    obtain ⟨k, hk, rfl⟩ := List.mem_map.mp hl
    exact orderly.numbers old stored k hk
  by_cases posted : old.shown.status = .posted
  · rw [posted]
    refine .refused nofun fun draft => ?_
    have status : old.shown.status = .draft := (StoredEntry.isIn_iff.mp draft).2
    cases posted.symm.trans status
  · have unposted : (old.shown.status == .posted) = false := beq_eq_false_iff_ne.mpr posted
    rw [unposted, if_neg Bool.false_ne_true]
    refine .requireDraft known fun _ => ?_
    refine .validateLines contended numbers fun totals v accepted contended => ?_
    obtain ⟨r, v, moved⟩ := exec_transition_answers contended id .draft .posted user now
    refine .after moved ?_
    cases r with
    | none => exact .reject nofun trivial
    | some updated => exact .ok _ trivial

/-- A draft is made void or the call refused. -/
theorem voidEntry_answered (orderly : s.Orderly) (contended : w.Contended s) :
    FaultsUnless True L ((voidEntry id user).exec (.ok now) w).1 := by
  refine FaultsUnless.congr (A := ∀ old, s.stored? id = some old → old.isIn .draft = true → True)
    (.getEntry orderly.sound contended fun old found => ?_) (by simp)
  refine .requireDraft (orderly.sound.coherent old (Store.stored?_some found).1).known fun _ => ?_
  obtain ⟨r, v, moved⟩ := exec_transition_answers contended id .draft .void user now
  refine .after moved ?_
  cases r with
  | none => exact .reject nofun trivial
  | some updated => exact .ok _ trivial

/-- An entry is deleted or the call refused. -/
theorem deleteEntry_answered (orderly : s.Orderly) (contended : w.Contended s) :
    FaultsUnless True L ((deleteEntry id).exec clock w).1 := by
  refine FaultsUnless.congr (A := ∀ old, s.stored? id = some old → True)
    (.getEntry orderly.sound contended fun old found => ?_) (by simp)
  by_cases posted : old.shown.status = .posted
  · rw [posted]
    exact .refused nofun trivial
  · have unposted : (old.shown.status == .posted) = false := beq_eq_false_iff_ne.mpr posted
    rw [unposted, if_neg Bool.false_ne_true]
    obtain ⟨v, deleted⟩ := exec_deleteEntry_answers contended id clock
    exact .after deleted (.ok _ trivial)

/-- The entry that reverses another one is looked up. -/
theorem looks_reversalOf (sound : s.Sound) (contended : w.Contended s) (id : Uuid) :
    (perform (.reversalOf id)).Looks clock w
      ((s.entries.find? fun e => e.entry.reversedEntry == some id).map StoredEntry.shown) := by
  obtain rfl := contended.store
  refine looks_perform contended.idle (congrArg (·, w) ?_)
  rw [Store.reversalOf?]
  cases reversal : w.store.entries.find? fun e => e.entry.reversedEntry == some id with
  | none => rfl
  | some existing =>
      rw [Store.readFound, sound.read_eq (List.mem_of_find?_eq_some reversal)]
      rfl

/-- The entry that reverses a stored one is created or refused, unless the lines read back cannot be checked
    when their amounts are exchanged; its number may be missing only under a long word. -/
theorem reversal_faultsUnless {old : StoredEntry} (orderly : s.Orderly) (contended : w.Contended s)
    (time : st.clock = .ok now) (stored : old ∈ s.entries) (user : String) (reason : Option String)
    (day : Date) :
    FaultsUnless (s.Checkable old.entry.company (reversalLines old.shown))
      (EntryNumber.LongWord st.numberWord)
      ((do
        let reversal ← createEntry st (reversalHeader old.shown user reason day)
          (reversalLines old.shown) true
        log .info ("Reversed " ++ old.shown.number ++ " with " ++ reversal.number)
        return reversal : Procedure (Entry Decimal)).exec st.clock w).1 := by
  have numbers (l) (hl : l ∈ reversalLines old.shown) : Posting.Numbers l := by
    obtain ⟨k, hk, rfl⟩ := List.mem_map.mp hl
    obtain ⟨debit, credit⟩ := orderly.numbers old stored k hk
    exact ⟨credit, debit⟩
  have created : FaultsUnless (s.Checkable (reversalHeader old.shown user reason day).company
      (reversalLines old.shown)) (EntryNumber.LongWord st.numberWord)
      ((createEntry st (reversalHeader old.shown user reason day)
        (reversalLines old.shown) true).exec st.clock w).1 :=
    createEntry_faultsUnless orderly contended time numbers
  exact created.followed fun e v => rfl

/-- A posted entry that no other one reverses is reversed or the call refused, unless its lines cannot be
    checked as they are read back and exchanged; a number may be missing only under a long word. -/
theorem reverseEntry_faultsUnless (orderly : s.Orderly) (contended : w.Contended s)
    (time : st.clock = .ok now) (reason : Option String) (date : Option Date) :
    FaultsUnless
      (∀ old, s.stored? id = some old → old.isIn .posted = true →
        (∀ e ∈ s.entries, e.entry.reversedEntry ≠ some id) →
          s.Checkable old.entry.company (reversalLines old.shown))
      (EntryNumber.LongWord st.numberWord)
      ((reverseEntry st id user reason date).exec st.clock w).1 := by
  refine .getEntry orderly.sound contended fun old found => ?_
  have stored := (Store.stored?_some found).1
  have known := (orderly.sound.coherent old stored).known
  by_cases posted : old.shown.status = .posted
  · rw [if_neg (not_not.mpr posted)]
    have isPosted : old.isIn .posted = true := StoredEntry.isIn_iff.mpr ⟨known, posted⟩
    refine .after (looks_reversalOf orderly.sound contended id) ?_
    cases reversal : s.entries.find? fun e => e.entry.reversedEntry == some id with
    | some existing =>
        refine .reject nofun fun _ unreversed => ?_
        have reverses := List.find?_some reversal
        exact absurd (beq_iff_eq.mp reverses) (unreversed existing (List.mem_of_find?_eq_some reversal))
    | none =>
        have unreversed : ∀ e ∈ s.entries, e.entry.reversedEntry ≠ some id := fun e he h =>
          List.find?_eq_none.mp reversal e he (beq_iff_eq.mpr h)
        have rest (day : Date) := reversal_faultsUnless orderly contended time stored user reason day
        refine FaultsUnless.congr ?_
          ⟨fun h _ _ => h, fun h => h isPosted unreversed⟩
        cases date with
        | some day => exact rest day
        | none =>
            have clock : (ofExcept st.clock : Procedure Instant).exec st.clock w = (.ok now, w) := by
              rw [time]
              rfl
            exact .after clock (rest now.date)
  · rw [if_pos posted]
    exact .refused nofun fun isPosted => absurd (StoredEntry.isIn_iff.mp isPosted).2 posted

end Journal

end Bookkeeping
