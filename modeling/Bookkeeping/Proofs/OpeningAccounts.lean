import Bookkeeping.Proofs.Balances
import Bookkeeping.Proofs.Retries

set_option autoImplicit false

/-! # Opening accounts

A batch of accounts is refused with the codes that occur twice in it, or else with the codes that the
company has already; each such code is named once and they are in ascending order (`mem_repeatedCodes`,
`mem_takenCodes`, `sortCodes_ascending`). Any other batch is opened as a whole, one account a draft, and
accounts of other companies play no part in it (`Session.batch_opened`). -/

namespace Bookkeeping

variable {clock : Clock} {s t : Store} {w : World} {company : Uuid} {codes : List String}

/-! ## Codes -/

namespace Registry

theorem mem_repeatedCodes {c : String} : c ∈ repeatedCodes codes ↔ 2 ≤ codes.count c := by
  induction codes with
  | nil => simp [repeatedCodes]
  | cons d rest ih =>
      have once : d ∈ rest ↔ 1 ≤ rest.count d := List.one_le_count_iff.symm
      unfold repeatedCodes
      dsimp only
      by_cases hc : c = d
      · subst hc
        rw [List.count_cons_self]
        split
        · next new =>
            have hmem : c ∈ rest := by simpa using (Bool.and_eq_true_iff.mp new).1
            have := once.mp hmem
            simp only [List.mem_cons, true_or, true_iff]
            omega
        · next old =>
            rw [ih]
            have hmem : c ∈ rest → 2 ≤ rest.count c := by
              intro hmem
              rw [← ih]
              simpa [hmem] using old
            constructor
            · omega
            · intro h
              exact hmem (once.mpr (by omega))
      · rw [List.count_cons_of_ne (Ne.symm hc)]
        split
        · rw [List.mem_cons, or_iff_right hc, ih]
        · exact ih

theorem repeatedCodes_nodup (codes : List String) : (repeatedCodes codes).Nodup := by
  induction codes with
  | nil => exact List.nodup_nil
  | cons c rest ih =>
      unfold repeatedCodes
      dsimp only
      split
      · next new =>
          refine List.nodup_cons.mpr ⟨?_, ih⟩
          simpa using (Bool.and_eq_true_iff.mp new).2
      · exact ih

/-- No code is repeated when all are different. -/
theorem repeatedCodes_isEmpty : (repeatedCodes codes).isEmpty = true ↔ codes.Nodup := by
  rw [List.isEmpty_iff, List.eq_nil_iff_forall_not_mem, List.nodup_iff_count_le_one]
  refine forall_congr' fun c => ?_
  rw [mem_repeatedCodes]
  omega

theorem mem_sortCodes {c : String} : c ∈ sortCodes codes ↔ c ∈ codes := List.mem_mergeSort

/-- Different codes are sorted in strictly ascending order. -/
theorem sortCodes_ascending (distinct : codes.Nodup) : (sortCodes codes).Pairwise (· < ·) := by
  have le (a b : String) : Store.textLe a b = true ↔ a ≤ b := by
    rw [Store.textLe, Bool.not_eq_true', decide_eq_false_iff_not]
    exact String.not_lt
  have sorted : (sortCodes codes).Pairwise fun a b => Store.textLe a b = true := by
    refine List.pairwise_mergeSort (fun a b c hab hbc => ?_) (fun a b => ?_) codes
    · rw [le] at *
      exact String.le_trans hab hbc
    · rw [Bool.or_eq_true, le, le]
      exact String.le_total a b
  have different : (sortCodes codes).Nodup := (List.mergeSort_perm codes _).nodup_iff.mpr distinct
  refine (sorted.and different).imp fun h => String.not_le.mp fun reversed => ?_
  exact h.2 (String.le_antisymm ((le _ _).mp h.1) reversed)

end Registry

namespace Store

/-- The company has an account with the code, archived or not. -/
def HasCode (s : Store) (company : Uuid) (code : String) : Prop :=
  ∃ a ∈ s.accounts, a.company = company ∧ a.code = code

/-- The codes among the given ones that the company has already. -/
def takenCodes (s : Store) (company : Uuid) (codes : List String) : List String :=
  codes.filter fun c => (s.accountsOf company true).any fun a => a.code == c

theorem mem_takenCodes {c : String} :
    c ∈ s.takenCodes company codes ↔ c ∈ codes ∧ s.HasCode company c := by
  simp only [takenCodes, List.mem_filter, List.any_eq_true, mem_accountsOf, beq_iff_eq, HasCode,
    and_assoc]

/-- Only accounts of the company take codes. -/
theorem takenCodes_congr
    (same : t.accounts.filter (·.company == company) = s.accounts.filter (·.company == company)) :
    t.takenCodes company codes = s.takenCodes company codes := by
  unfold takenCodes accountsOf companyAccounts
  simp only [Bool.true_or, Bool.and_true, same]

/-- No account has an identifier that is still to be given out. -/
def Fresh (s : Store) : Prop := ∀ a ∈ s.accounts, ∀ k, s.issued ≤ k → a.id ≠ Uuid.issue k

theorem Chartered.fresh (h : s.Chartered) : s.Fresh := by
  intro a ha k hk hid
  obtain ⟨j, hj, issued⟩ := h.issued a ha
  have := Uuid.issue_injective (issued.symm.trans hid)
  omega

end Store

/-! ## New accounts -/

/-- The account is opened as the draft says: it is active and not archived, and never was edited. -/
structure Account.OpenedAs (company : Uuid) (now : Instant) (d : AccountDraft) (a : Account) : Prop where
  company : a.company = company
  code : a.code = d.code
  nameEn : a.nameEn = d.nameEn
  nameAr : a.nameAr = d.nameAr
  type : a.type = d.type
  isVat : a.isVat = d.isVat
  isSystem : a.isSystem = d.isSystem
  active : a.isActive = true
  unarchived : a.isArchived = false
  createdAt : a.createdAt = now
  updatedAt : a.updatedAt = none

namespace Store

variable {now : Instant} {drafts : List AccountDraft}

/-- One account is made of each draft, in their order. -/
theorem makeAccounts_openedAs (company : Uuid) (now : Instant) (n : Nat) (drafts : List AccountDraft) :
    List.Forall₂ (Account.OpenedAs company now) drafts (makeAccounts company now n drafts) := by
  induction drafts generalizing n with
  | nil => exact .nil
  | cons d rest ih => exact .cons ⟨rfl, rfl, rfl, rfl, rfl, rfl, rfl, rfl, rfl, rfl, rfl⟩ (ih (n + 1))

/-- Accounts made of drafts with different codes are apart. -/
theorem makeAccounts_apart (distinct : (drafts.map AccountDraft.code).Nodup) (n : Nat) :
    (makeAccounts company now n drafts).Pairwise Account.Apart := by
  induction drafts generalizing n with
  | nil => exact .nil
  | cons d rest ih =>
      rw [List.map_cons, List.nodup_cons] at distinct
      refine List.pairwise_cons.mpr ⟨fun a ha => ⟨fun hid => ?_, fun _ hcode => ?_⟩, ih distinct.2 _⟩
      · obtain ⟨k, e, hn, -, rfl⟩ := mem_makeAccounts ha
        have := Uuid.issue_injective hid
        omega
      · obtain ⟨e, he, opened⟩ := exists_left_of_forall₂ (makeAccounts_openedAs company now _ rest) ha
        refine distinct.1 (List.mem_map.mpr ⟨e, he, ?_⟩)
        rw [← opened.code, ← hcode]
        rfl

/-- New accounts with free codes are apart from those that are there. -/
theorem Fresh.apart_made (fresh : s.Fresh) (free : ∀ d ∈ drafts, ¬ s.HasCode company d.code) {a b : Account}
    (ha : a ∈ s.accounts) (hb : b ∈ makeAccounts company now s.issued drafts) : a.Apart b := by
  obtain ⟨d, hd, opened⟩ := exists_left_of_forall₂ (makeAccounts_openedAs company now _ drafts) hb
  obtain ⟨k, e, hk, -, rfl⟩ := mem_makeAccounts hb
  refine ⟨fresh a ha k hk, fun hcompany hcode => free d hd ⟨a, ha, ?_, ?_⟩⟩
  · exact hcompany.trans opened.company
  · exact hcode.trans opened.code

/-- An account that is apart from those that are there may be inserted. -/
theorem free_of_apart {a : Account} (apart : ∀ b ∈ s.accounts, b.Apart a) :
    (s.codeTaken a || (s.account? a.id).isSome) = false := by
  rw [Bool.or_eq_false_iff, Option.isSome_eq_false_iff, Option.isNone_iff_eq_none, account?,
    List.find?_eq_none, codeTaken, List.any_eq_false]
  refine ⟨fun b hb taken => ?_, fun b hb => ?_⟩
  · simp only [Bool.and_eq_true, bne_iff_ne, beq_iff_eq] at taken
    exact (apart b hb).code taken.1.2 taken.2
  · simpa using (apart b hb).id

/-- Accounts that are apart from each other and from those that are there can be inserted. -/
theorem insertAccounts_applies {accounts : List Account} (among : accounts.Pairwise Account.Apart)
    (old : ∀ a ∈ s.accounts, ∀ b ∈ accounts, a.Apart b) :
    Statement.applyAll (accounts.map .insertAccount) s =
      .ok { s with accounts := s.accounts ++ accounts, issued := s.issued + accounts.length } := by
  suffices h : ∃ s', Statement.applyAll (accounts.map .insertAccount) s = .ok s' by
    obtain ⟨s', hs⟩ := h
    rw [hs, insertAccounts_ok hs]
  induction accounts generalizing s with
  | nil => exact ⟨s, rfl⟩
  | cons a rest ih =>
      obtain ⟨first, among⟩ := List.pairwise_cons.mp among
      have inserts : (Statement.insertAccount a).apply s =
          .ok { s with accounts := s.accounts ++ [a], issued := s.issued + 1 } :=
        Statement.violated_ok.mpr ⟨free_of_apart fun b hb => old b hb a (by simp), rfl⟩
      obtain ⟨s', hs⟩ := @ih { s with accounts := s.accounts ++ [a], issued := s.issued + 1 } among
        fun b hb c hc => by
          rcases List.mem_append.mp hb with hb | hb
          · exact old b hb c (by simp [hc])
          · rw [List.mem_singleton.mp hb]
            exact first c hc
      exact ⟨s', Statement.applyAll_cons_ok.mpr ⟨_, inserts, hs⟩⟩

end Store

/-! ## The call -/

namespace Registry

open Procedure

variable {drafts : List AccountDraft} {now : Instant}

/-- A batch with repeated codes is refused before anything is read. -/
theorem exec_openAccounts_repeated (twice : ¬ (drafts.map AccountDraft.code).Nodup) :
    (openAccounts company drafts).exec clock w =
      (.error (.ledger (.duplicateCodes (sortCodes (repeatedCodes (drafts.map AccountDraft.code))))),
        w) := by
  have something : drafts.isEmpty = false := by
    cases drafts with
    | nil => exact absurd List.nodup_nil twice
    | cons d ds => rfl
  have repeated : (repeatedCodes (drafts.map AccountDraft.code)).isEmpty = false := by
    rw [Bool.eq_false_iff, ne_eq, repeatedCodes_isEmpty]
    exact twice
  unfold openAccounts
  dsimp only
  rw [something, repeated, if_neg Bool.false_ne_true, if_pos Bool.not_false]
  rfl

variable (idle : w.pending = none) (distinct : (drafts.map AccountDraft.code).Nodup)

include idle distinct

/-- A batch with codes that the company has is refused. -/
theorem exec_openAccounts_taken
    (taken : w.store.takenCodes company (drafts.map AccountDraft.code) ≠ []) :
    (openAccounts company drafts).exec clock w =
      (.error (.ledger (.duplicateCodes
        (sortCodes (w.store.takenCodes company (drafts.map AccountDraft.code))))), w) := by
  have something : drafts.isEmpty = false := by
    cases drafts with
    | nil => exact absurd rfl taken
    | cons d ds => rfl
  have read : (perform (.accountsOf company true)).Looks clock w (w.store.accountsOf company true) :=
    looks_perform idle rfl
  have found : (w.store.takenCodes company (drafts.map AccountDraft.code)).isEmpty = false := by
    rw [Bool.eq_false_iff, ne_eq, List.isEmpty_iff]
    exact taken
  unfold openAccounts
  dsimp only
  rw [something, repeatedCodes_isEmpty.mpr distinct, if_neg Bool.false_ne_true,
    if_neg (by simp)]
  refine (exec_bind_ok read).trans ?_
  rw [← Store.takenCodes, found, if_pos Bool.not_false]
  rfl

/-- Accounts with different and free codes are added. -/
theorem exec_addAccounts (now : Instant) (quiet : w.faults.writes = none) (lines : w.faults.lines = none)
    (fresh : w.store.Fresh) (free : w.store.takenCodes company (drafts.map AccountDraft.code) = []) :
    ∃ v, (perform (.addAccounts company drafts)).exec (.ok now) w =
        (.ok (Store.makeAccounts company now w.store.issued drafts), v) ∧
      v.store = { w.store with
        accounts := w.store.accounts ++ Store.makeAccounts company now w.store.issued drafts
        issued := w.store.issued + drafts.length } := by
  have untaken : ∀ e ∈ drafts, ¬ w.store.HasCode company e.code := by
    intro e he has
    have := Store.mem_takenCodes.mpr ⟨List.mem_map_of_mem he, has⟩
    rw [free] at this
    cases this
  have ready : w.Ready w.store w.faults.creations := ⟨rfl, idle, lines, rfl⟩
  have apart : (Store.makeAccounts company now w.store.issued drafts).Pairwise Account.Apart :=
    Store.makeAccounts_apart distinct w.store.issued
  have applies := Store.insertAccounts_applies apart fun a ha b hb => fresh.apart_made untaken ha hb
  rw [Store.length_makeAccounts] at applies
  cases drafts with
  | nil =>
      have performed : Op.exec (.ok now) (.addAccounts company []) w = (.ok [], w) := by
        rw [Op.exec, idle]
        rfl
      exact ⟨w, (performs_perform performed).exec, by simp [Store.makeAccounts]⟩
  | cons d ds =>
      let p := w.store.addAccounts company now (d :: ds)
      have due : Strike.due p.statements.length w.faults.writes = none := by
        rw [quiet]
        rfl
      obtain ⟨v, written, hv⟩ := World.Ready.write_through
        (p := p) (by simp [p, Store.addAccounts, Store.makeAccounts]) applies ready
        (Store.addingAccounts (d :: ds)) due
      have performed : Op.exec (.ok now) (.addAccounts company (d :: ds)) w = (.ok p.answer, v) := by
        rw [Op.exec, idle]
        exact written
      exact ⟨v, (performs_perform performed).exec, hv.store⟩

/-- A batch with different and free codes is opened. -/
theorem exec_openAccounts_free (now : Instant) (quiet : w.faults.writes = none)
    (lines : w.faults.lines = none) (fresh : w.store.Fresh)
    (free : w.store.takenCodes company (drafts.map AccountDraft.code) = []) :
    ∃ v, (openAccounts company drafts).exec (.ok now) w =
        (.ok (Store.makeAccounts company now w.store.issued drafts), v) ∧
      v.store = { w.store with
        accounts := w.store.accounts ++ Store.makeAccounts company now w.store.issued drafts
        issued := w.store.issued + drafts.length } := by
  cases drafts with
  | nil => exact ⟨w, rfl, by simp [Store.makeAccounts]⟩
  | cons d ds =>
      have read : (perform (.accountsOf company true)).Looks (.ok now) w
          (w.store.accountsOf company true) := looks_perform idle rfl
      obtain ⟨v, added, hv⟩ := exec_addAccounts idle distinct now quiet lines fresh free
      let made := Store.makeAccounts company now w.store.issued (d :: ds)
      refine ⟨v.note ⟨.info, .services, "Created " ++ Text.natText made.length
        ++ " accounts for company " ++ company.toText⟩, ?_, hv⟩
      unfold openAccounts
      dsimp only
      rw [List.isEmpty_cons, repeatedCodes_isEmpty.mpr distinct, if_neg Bool.false_ne_true,
        if_neg (by simp)]
      refine (exec_bind_ok read).trans ?_
      rw [← Store.takenCodes, free, if_neg (by simp)]
      exact (exec_bind_ok added).trans rfl

end Registry

/-! ## Sessions -/

namespace Session

variable {drafts : List AccountDraft} {st : Setting}

open Registry

/-- What a session comes to, from what its call performs. -/
theorem run_of_exec {x : Session} {r : Except Failure ServiceAnswer} {v : World}
    (h : (x.call.procedure x.setting).exec x.setting.clock (x.world s) = (r, v)) (hv : v.store = t) :
    x.run s = (r, t) := by
  rw [run, Procedure.run, h, ← hv]
  rfl

theorem run_openAccounts_repeated (twice : ¬ (drafts.map AccountDraft.code).Nodup) :
    run { call := .openAccounts company drafts, setting := st } s =
      (.error (.ledger (.duplicateCodes (sortCodes (repeatedCodes (drafts.map AccountDraft.code))))),
        s) :=
  run_of_exec (Procedure.exec_bind_error (exec_openAccounts_repeated twice)) rfl

theorem run_openAccounts_taken (distinct : (drafts.map AccountDraft.code).Nodup)
    (taken : s.takenCodes company (drafts.map AccountDraft.code) ≠ []) :
    run { call := .openAccounts company drafts, setting := st } s =
      (.error (.ledger (.duplicateCodes
        (sortCodes (s.takenCodes company (drafts.map AccountDraft.code))))), s) :=
  run_of_exec (Procedure.exec_bind_error (exec_openAccounts_taken rfl distinct taken)) rfl

theorem run_openAccounts_free {now : Instant} (time : st.clock = .ok now) (fresh : s.Fresh)
    (distinct : (drafts.map AccountDraft.code).Nodup)
    (free : s.takenCodes company (drafts.map AccountDraft.code) = []) :
    run { call := .openAccounts company drafts, setting := st } s =
      (.ok (.accounts (Store.makeAccounts company now s.issued drafts)),
        { s with
          accounts := s.accounts ++ Store.makeAccounts company now s.issued drafts
          issued := s.issued + drafts.length }) := by
  let x : Session := { call := .openAccounts company drafts, setting := st }
  obtain ⟨v, opened, hv⟩ := exec_openAccounts_free (w := x.world s) rfl distinct now rfl rfl fresh free
  have answered : (x.call.procedure st).exec st.clock (x.world s) =
      (.ok (.accounts (Store.makeAccounts company now s.issued drafts)), v) := by
    rw [time]
    exact (Procedure.exec_bind_ok opened).trans rfl
  exact run_of_exec answered hv

/-- A batch of accounts is opened as a whole or refused. It is refused with exactly the codes that are
    repeated in it, or else with exactly those that the company has already, in ascending order;
    otherwise one active account is added for each draft, in their order, and nothing else changes.
    Accounts of other companies make no difference. -/
theorem batch_opened (s : Store) (fresh : s.Fresh) (company : Uuid) (drafts : List AccountDraft)
    (st : Setting) {now : Instant} (time : st.clock = .ok now) :
    let codes := drafts.map AccountDraft.code
    let outcome (s : Store) := run { call := .openAccounts company drafts, setting := st } s
    (drafts = [] → outcome s = (.ok (.accounts []), s)) ∧
    (¬ codes.Nodup → ∃ named,
      outcome s = (.error (.ledger (.duplicateCodes named)), s) ∧ named.Pairwise (· < ·) ∧
        ∀ c, c ∈ named ↔ 2 ≤ codes.count c) ∧
    (codes.Nodup → (∃ c ∈ codes, s.HasCode company c) → ∃ named,
      outcome s = (.error (.ledger (.duplicateCodes named)), s) ∧ named.Pairwise (· < ·) ∧
        ∀ c, c ∈ named ↔ c ∈ codes ∧ s.HasCode company c) ∧
    (codes.Nodup → (∀ c ∈ codes, ¬ s.HasCode company c) → ∃ opened,
      outcome s = (.ok (.accounts opened),
        { s with accounts := s.accounts ++ opened, issued := s.issued + opened.length }) ∧
        List.Forall₂ (Account.OpenedAs company now) drafts opened ∧
        (opened.map Account.id).Nodup ∧ ∀ a ∈ opened, ∀ b ∈ s.accounts, a.id ≠ b.id) ∧
    (∀ t : Store, t.Fresh → t.issued = s.issued →
      t.accounts.filter (·.company == company) = s.accounts.filter (·.company == company) →
        (outcome t).1 = (outcome s).1) := by
  intro codes outcome
  have taken_nil : s.takenCodes company codes = [] ↔ ∀ c ∈ codes, ¬ s.HasCode company c := by
    rw [List.eq_nil_iff_forall_not_mem]
    exact forall_congr' fun c => by rw [Store.mem_takenCodes, not_and]
  refine ⟨fun h => ?_, fun twice => ?_, fun distinct ⟨c, hc, has⟩ => ?_, fun distinct free => ?_,
    fun t hfresh issued same => ?_⟩
  · subst h
    rfl
  · exact ⟨_, run_openAccounts_repeated twice, sortCodes_ascending (repeatedCodes_nodup _),
      fun c => mem_sortCodes.trans mem_repeatedCodes⟩
  · have taken : s.takenCodes company codes ≠ [] :=
      List.ne_nil_of_mem (Store.mem_takenCodes.mpr ⟨hc, has⟩)
    exact ⟨_, run_openAccounts_taken distinct taken,
      sortCodes_ascending (distinct.sublist List.filter_sublist),
      fun c => mem_sortCodes.trans Store.mem_takenCodes⟩
  · have untaken : ∀ d ∈ drafts, ¬ s.HasCode company d.code :=
      fun d hd => free d.code (List.mem_map_of_mem hd)
    refine ⟨Store.makeAccounts company now s.issued drafts, ?_, Store.makeAccounts_openedAs ..,
      ?_, fun a ha b hb => ?_⟩
    · rw [Store.length_makeAccounts]
      exact run_openAccounts_free time fresh distinct (taken_nil.mpr free)
    · rw [List.nodup_iff_pairwise_ne, List.pairwise_map]
      have apart : (Store.makeAccounts company now s.issued drafts).Pairwise Account.Apart :=
        Store.makeAccounts_apart distinct s.issued
      exact apart.imp fun h => h.id
    · exact (fresh.apart_made untaken hb ha).id.symm
  · have sameTaken : t.takenCodes company codes = s.takenCodes company codes :=
      Store.takenCodes_congr same
    by_cases distinct : codes.Nodup
    · by_cases free : s.takenCodes company codes = []
      · have hs : outcome s = _ := run_openAccounts_free time fresh distinct free
        have ht : outcome t = _ := run_openAccounts_free time hfresh distinct (sameTaken.trans free)
        rw [hs, ht, issued]
      · have hs : outcome s = _ := run_openAccounts_taken distinct free
        have ht : outcome t = _ := run_openAccounts_taken distinct (sameTaken ▸ free)
        rw [hs, ht, sameTaken]
    · have hs : outcome s = _ := run_openAccounts_repeated distinct
      have ht : outcome t = _ := run_openAccounts_repeated distinct
      rw [hs, ht]

/-- Three accounts, two of them with codes that the company has after its first two accounts. -/
def threeMore : List AccountDraft :=
  [{ code := "3000", nameEn := "Equity", type := .equity },
    { code := "2000", nameEn := "Loans", type := .liability },
    { code := "1000", nameEn := "Bank", type := .asset }]

/-- One company is told both codes that it has, another one opens all three accounts. -/
theorem batch_opened_threeMore :
    let s := Store.after [opensTwoAccounts]
    let outcome (company : Uuid) :=
      run { call := .openAccounts company threeMore, setting := { clock := .ok default } } s
    s.Fresh ∧ (Except.ok default : Clock) = .ok default ∧
    (∃ named, outcome ⟨1⟩ = (.error (.ledger (.duplicateCodes named)), s) ∧
      named.Pairwise (· < ·) ∧
        ∀ c, c ∈ named ↔ c ∈ threeMore.map AccountDraft.code ∧ s.HasCode ⟨1⟩ c) ∧
    ∃ opened, outcome ⟨2⟩ = (.ok (.accounts opened),
      { s with accounts := s.accounts ++ opened, issued := s.issued + opened.length }) ∧
      List.Forall₂ (Account.OpenedAs ⟨2⟩ default) threeMore opened ∧
      (opened.map Account.id).Nodup ∧ ∀ a ∈ opened, ∀ b ∈ s.accounts, a.id ≠ b.id := by
  intro s outcome
  have fresh : s.Fresh := (Store.after_chartered _).fresh
  have distinct : (threeMore.map AccountDraft.code).Nodup := by decide
  have has : s.HasCode ⟨1⟩ "3000" := by
    have : ∃ a ∈ (Store.after [opensTwoAccounts]).accounts, a.company = ⟨1⟩ ∧ a.code = "3000" := by
      decide +kernel
    exact this
  have free : ∀ c ∈ threeMore.map AccountDraft.code, ¬ s.HasCode ⟨2⟩ c := by
    have : ∀ a ∈ (Store.after [opensTwoAccounts]).accounts, a.company ≠ ⟨2⟩ := by decide +kernel
    exact fun c _ ⟨a, ha, hcompany, _⟩ => this a ha hcompany
  exact ⟨fresh, rfl,
    (batch_opened s fresh ⟨1⟩ threeMore _ rfl).2.2.1 distinct ⟨"3000", by decide, has⟩,
    (batch_opened s fresh ⟨2⟩ threeMore _ rfl).2.2.2.1 distinct free⟩

end Session

end Bookkeeping
