import Bookkeeping.Proofs.AccountLedger

set_option autoImplicit false

/-! # Running and closing balances

The ledger of an account takes the same amounts two ways: the running balance adds the movement of one
line after the other, while the closing balance is a single movement of the totals of both sides. The
two agree as long as nothing is rounded on either way (`Reports.running_and_closing`). Here amounts of
either sign are allowed, and what is bounded is their magnitude (`Decimal.CentsWithin`).

What a ledger says of its whole window is one computation on the lines that were read
(`Reports.replay`); the page is cut out of it afterwards (`Reports.ledgerFor_exec`). -/

namespace Bookkeeping

open Decimal (WholeCents IsCents)

variable {clock : Clock} {w : World}

/-! ## Whole cents of a bounded magnitude -/

namespace Decimal

variable {x y : Decimal} {b c : ℚ}

/-- A number of whole cents, of at most `b` in magnitude. -/
structure CentsWithin (x : Decimal) (b : ℚ) : Prop where
  finite : x.isFinite
  whole : WholeCents x.value
  le : |x.value| ≤ b

namespace CentsWithin

theorem zero : Decimal.zero.CentsWithin 0 := by
  refine ⟨rfl, ?_, ?_⟩
  · rw [value_zero]
    exact .zero
  · rw [value_zero, abs_zero]

theorem nonneg (h : x.CentsWithin b) : 0 ≤ b := (abs_nonneg x.value).trans h.le

theorem isCents (h : x.CentsWithin b) (hb : b < 10 ^ 26) : IsCents x.value := ⟨h.whole, h.le.trans_lt hb⟩

theorem mono (h : x.CentsWithin b) (hbc : b ≤ c) : x.CentsWithin c := ⟨h.finite, h.whole, h.le.trans hbc⟩

/-- An amount that is written with two places. -/
theorem of_places (s : Bool) (n : Nat) : (Decimal.finite s n (-2)).CentsWithin (n * 10 ^ (-2 : Int)) := by
  refine ⟨rfl, ⟨signed s n, ?_⟩, (abs_value s n (-2)).le⟩
  rw [value, zpow_neg, div_eq_mul_inv]
  norm_num

/-- Where a sum stays within the digits of amounts, so do its terms. -/
theorem bounds (hx : x.CentsWithin b) (hy : y.CentsWithin c) (h : b + c < 10 ^ 26) :
    b < 10 ^ 26 ∧ c < 10 ^ 26 := by
  have hb := hx.nonneg
  have hc := hy.nonneg
  constructor <;> linarith

theorem add (hx : x.CentsWithin b) (hy : y.CentsWithin c) (h : b + c < 10 ^ 26) :
    ∃ z, x.add y = .ok z ∧ z.CentsWithin (b + c) ∧ z.value = x.value + y.value := by
  obtain ⟨hb, hc⟩ := hx.bounds hy h
  have hle : |x.value + y.value| ≤ b + c := (abs_add_le _ _).trans (add_le_add hx.le hy.le)
  have hwhole := hx.whole.add hy.whole
  obtain ⟨z, hz, hfinite, hvalue⟩ := add_exact hx.finite hy.finite (hx.isCents hb) (hy.isCents hc)
    ⟨hwhole, hle.trans_lt h⟩
  refine ⟨z, hz, ⟨hfinite, ?_, ?_⟩, hvalue⟩
  · rw [hvalue]
    exact hwhole
  · rw [hvalue]
    exact hle

theorem sub (hx : x.CentsWithin b) (hy : y.CentsWithin c) (h : b + c < 10 ^ 26) :
    ∃ z, x.sub y = .ok z ∧ z.CentsWithin (b + c) ∧ z.value = x.value - y.value := by
  obtain ⟨hb, hc⟩ := hx.bounds hy h
  have hle : |x.value - y.value| ≤ b + c := (abs_sub _ _).trans (add_le_add hx.le hy.le)
  have hwhole := hx.whole.sub hy.whole
  obtain ⟨z, hz, hfinite, hvalue⟩ := sub_exact hx.finite hy.finite (hx.isCents hb) (hy.isCents hc)
    ⟨hwhole, hle.trans_lt h⟩
  refine ⟨z, hz, ⟨hfinite, ?_, ?_⟩, hvalue⟩
  · rw [hvalue]
    exact hwhole
  · rw [hvalue]
    exact hle

/-- Adding up amounts of a bounded magnitude is exact, whatever their signs. -/
theorem foldlM_add {xs : List Decimal} (each : ∀ y ∈ xs, y.CentsWithin c) (hx : x.CentsWithin b)
    (h : b + xs.length * c < 10 ^ 26) :
    ∃ z, xs.foldlM Decimal.add x = .ok z ∧ z.CentsWithin (b + xs.length * c) ∧
      z.value = x.value + (xs.map value).sum := by
  induction xs generalizing x b with
  | nil => exact ⟨x, rfl, by simpa using hx, by simp⟩
  | cons y rest ih =>
      have hy := each y (by simp)
      have hlength : b + (y :: rest).length * c = b + c + rest.length * c := by
        rw [List.length_cons]
        push_cast
        ring
      rw [hlength] at h ⊢
      have hrest := mul_nonneg (Nat.cast_nonneg rest.length) hy.nonneg
      obtain ⟨z, hz, hzc, hzv⟩ := hx.add hy (by linarith)
      obtain ⟨r, hr, hrc, hrv⟩ := ih (fun y hy => each y (by simp [hy])) hzc h
      refine ⟨r, ?_, hrc, ?_⟩
      · rw [List.foldlM_cons, hz]
        exact hr
      · rw [hrv, hzv, List.map_cons, List.sum_cons, add_assoc]

theorem sum {α : Type} {as : List α} {f : α → Decimal} (each : ∀ a ∈ as, (f a).CentsWithin c)
    (h : as.length * c < 10 ^ 26) :
    ∃ z, Decimal.sum (as.map f) = .ok z ∧ z.CentsWithin (as.length * c) ∧
      z.value = (as.map fun a => (f a).value).sum := by
  have hall : ∀ y ∈ as.map f, y.CentsWithin c := by
    intro y hy
    obtain ⟨a, ha, rfl⟩ := List.mem_map.mp hy
    exact each a ha
  obtain ⟨z, hz, hzc, hzv⟩ := foldlM_add hall zero (by simpa using h)
  refine ⟨z, hz, ?_, ?_⟩
  · simpa using hzc
  · rw [hzv, value_zero, zero_add, List.map_map]
    rfl

/-- A movement of bounded amounts is exact. -/
theorem signedMovement (t : AccountType) (hx : x.CentsWithin b) (hy : y.CentsWithin c)
    (h : b + c < 10 ^ 26) :
    ∃ m, t.signedMovement x y = .ok m ∧ m.CentsWithin (b + c) ∧ m.value = t.movement x.value y.value := by
  unfold AccountType.signedMovement AccountType.movement
  split
  · exact hx.sub hy h
  · rw [add_comm] at h ⊢
    exact hy.sub hx h

end CentsWithin

end Decimal

/-- The movements of lines come to the movement of their totals. -/
theorem AccountType.sum_movement (t : AccountType) {α : Type} (as : List α) (debit credit : α → ℚ) :
    (as.map fun a => t.movement (debit a) (credit a)).sum =
      t.movement (as.map debit).sum (as.map credit).sum := by
  induction as with
  | nil =>
      unfold movement
      simp
  | cons a rest ih => rw [List.map_cons, List.sum_cons, ih, ← movement_add, List.map_cons, List.map_cons,
      List.sum_cons, List.sum_cons]

/-! ## Replaying lines -/

namespace Reports

variable {a : Account} {t : AccountType} {b c : ℚ} {opening : Decimal} {rows : List PostedLine}

/-- The balance after some ledger lines that start from an opening balance. -/
def lastBalance (opening : Decimal) (lines : List LedgerLine) : Decimal :=
  (lines.getLast?.map LedgerLine.runningBalance).getD opening

theorem lastBalance_cons (opening : Decimal) (l : LedgerLine) (rest : List LedgerLine) :
    lastBalance opening (l :: rest) = lastBalance l.runningBalance rest := by
  cases rest with
  | nil => rfl
  | cons l' rest => simp [lastBalance, List.getLast?_cons]

/-- To replay lines one after the other is to replay the first ones, and then the others from the balance
    after the first ones. -/
theorem runningBalances_append (t : AccountType) (opening : Decimal) (xs ys : List PostedLine) :
    runningBalances t opening (xs ++ ys) = (do
      let first ← runningBalances t opening xs
      let rest ← runningBalances t (lastBalance opening first) ys
      return first ++ rest) := by
  induction xs generalizing opening with
  | nil =>
      show runningBalances t opening ys = _ >>= pure
      exact (bind_pure _).symm
  | cons x xs ih =>
      rw [List.cons_append, runningBalances, runningBalances]
      simp only [ih, bind_assoc, pure_bind, lastBalance_cons, List.cons_append]

/-- Replaying lines lists them. -/
theorem map_line_runningBalances {lines : List LedgerLine}
    (h : runningBalances t opening rows = .ok lines) : lines.map LedgerLine.line = rows := by
  induction rows generalizing opening lines with
  | nil =>
      cases h
      rfl
  | cons l rest ih =>
      rw [runningBalances] at h
      obtain ⟨m, -, h⟩ := bind_eq_ok h
      obtain ⟨y, -, h⟩ := bind_eq_ok h
      obtain ⟨lines', hlines, h⟩ := bind_eq_ok h
      cases h
      rw [List.map_cons, ih hlines]

/-- Both amounts of each line are whole cents of a bounded magnitude. -/
def RowsWithin (c : ℚ) (rows : List PostedLine) : Prop :=
  ∀ l ∈ rows, l.debit.CentsWithin c ∧ l.credit.CentsWithin c

/-- The movements of lines, in value. -/
def moved (t : AccountType) (rows : List PostedLine) : ℚ :=
  (rows.map fun l => t.movement l.debit.value l.credit.value).sum

/-- The running balance after each line is the opening balance and the movements up to that line. -/
theorem runningBalances_exact (fits : RowsWithin c rows) (hopening : opening.CentsWithin b)
    (h : b + rows.length * (c + c) < 10 ^ 26) :
    ∃ lines, runningBalances t opening rows = .ok lines ∧
      (∀ k (hk : k < lines.length),
        lines[k].runningBalance.Holds (opening.value + moved t (rows.take (k + 1)))) ∧
      (lastBalance opening lines).Holds (opening.value + moved t rows) := by
  induction rows generalizing opening b with
  | nil =>
      refine ⟨[], rfl, ?_, ?_⟩
      · intro k hk
        cases hk
      · exact ⟨hopening.finite, by simp [lastBalance, moved]⟩
  | cons l rest ih =>
      obtain ⟨debit, credit⟩ := fits l (by simp)
      have hc := debit.nonneg
      have hrest := mul_nonneg (Nat.cast_nonneg (α := ℚ) rest.length) (add_nonneg hc hc)
      have hlength : b + (l :: rest).length * (c + c) = b + (c + c) + rest.length * (c + c) := by
        rw [List.length_cons]
        push_cast
        ring
      rw [hlength] at h
      have hb := hopening.nonneg
      obtain ⟨m, hm, hmc, hmv⟩ := debit.signedMovement t credit (by linarith)
      obtain ⟨y, hy, hyc, hyv⟩ := hopening.add hmc (by linarith)
      obtain ⟨lines, hlines, each, last⟩ := ih (fun l hl => fits l (by simp [hl])) hyc h
      have hmoved (ls : List PostedLine) :
          opening.value + moved t (l :: ls) = y.value + moved t ls := by
        rw [hyv, hmv, moved, List.map_cons, List.sum_cons, ← add_assoc]
        rfl
      refine ⟨⟨l, shownDescription l, y⟩ :: lines, ?_, ?_, ?_⟩
      · rw [runningBalances, hm]
        show (opening.add m >>= _) = _
        rw [hy]
        show (runningBalances t y rest >>= _) = _
        rw [hlines]
        rfl
      · intro k hk
        rw [List.take_succ_cons, hmoved]
        cases k with
        | zero => exact ⟨hyc.finite, by simp [moved]⟩
        | succ k => exact each k (Nat.lt_of_succ_lt_succ hk)
      · rw [lastBalance_cons, hmoved]
        exact last

/-! ## The whole window -/

/-- The ledger of an account over lines that follow an opening balance, all on one page. -/
def replay (a : Account) (opening : Decimal) (rows : List PostedLine) :
    Except Decimal.Fault AccountLedger := do
  let entries ← runningBalances a.type opening rows
  let totalDebit ← Decimal.sum (rows.map PostedLine.debit)
  let totalCredit ← Decimal.sum (rows.map PostedLine.credit)
  let closing ← opening.add (← a.type.signedMovement totalDebit totalCredit)
  return ⟨a, entries, opening, totalDebit, totalCredit, closing, entries.length⟩

/-- Lines that stay small together can be replayed, and the balance that is told from their totals is the
    opening balance and all of their movements. -/
theorem replay_exact (a : Account) (fits : RowsWithin c rows) (hopening : opening.CentsWithin b)
    (h : b + rows.length * (c + c) < 10 ^ 26) {lines : List LedgerLine}
    (hlines : runningBalances a.type opening rows = .ok lines) :
    ∃ ledger, replay a opening rows = .ok ledger ∧ ledger.entries = lines ∧
      ledger.closingBalance.Holds (opening.value + moved a.type rows) := by
  have hb := hopening.nonneg
  have hlength : b + (rows.length * c + rows.length * c) < 10 ^ 26 := by
    rw [← mul_add]
    exact h
  -- each side alone needs no more room than both
  have hside : (rows.length : ℚ) * c < 10 ^ 26 := by
    cases rows with
    | nil => simp
    | cons l rest =>
        have hc := mul_nonneg (Nat.cast_nonneg (α := ℚ) (l :: rest).length) (fits l (by simp)).1.nonneg
        linarith
  obtain ⟨d, hd, hdc, hdv⟩ := Decimal.CentsWithin.sum (fun l hl => (fits l hl).1) hside
  obtain ⟨e, he, hec, hev⟩ := Decimal.CentsWithin.sum (fun l hl => (fits l hl).2) hside
  obtain ⟨m, hm, hmc, hmv⟩ := hdc.signedMovement a.type hec (by linarith)
  obtain ⟨z, hz, hzc, hzv⟩ := hopening.add hmc hlength
  refine ⟨⟨a, lines, opening, d, e, z, lines.length⟩, ?_, rfl, hzc.finite, ?_⟩
  · unfold replay
    rw [hlines, hd, he]
    show (a.type.signedMovement d e >>= _) = _
    rw [hm]
    show (opening.add m >>= _) = _
    rw [hz]
    rfl
  · rw [hzv, hmv, hdv, hev, moved, AccountType.sum_movement]

/-! ## The call -/

/-- The balance that the ledger of an account opens with. -/
def openingOf (s : Store) (a : Account) : Option Date → Except Failure Decimal
  | none => .ok .zero
  | some day => do
      let (debit, credit) ← s.postedTotalsBefore a.id day
      liftAmount (a.type.signedMovement debit credit)

/-- The ledger of an account in a store, before a page of it is taken. -/
def wholeLedger (s : Store) (a : Account) (f : LedgerFilters) : Except Failure AccountLedger := do
  let opening ← openingOf s a f.start
  let rows ← s.postedLines a.id f.range (searchTerm f.search)
  liftAmount (replay a opening rows)

/-- The page of a ledger that filters ask for. -/
def AccountLedger.paged (l : AccountLedger) (f : LedgerFilters) : AccountLedger :=
  { l with entries := f.page l.entries }

end Reports

namespace Procedure

variable {α β : Type}

/-- The call ends with `r`, and leaves the world as it is. -/
def Tells (clock : Clock) (w : World) (p : Procedure α) (r : Except Failure α) : Prop :=
  p.exec clock w = (r, w)

theorem Tells.bind {p : Procedure α} {f : α → Procedure β} {r : Except Failure α}
    {g : α → Except Failure β} (hp : p.Tells clock w r) (hf : ∀ a, (f a).Tells clock w (g a)) :
    (p >>= f).Tells clock w (r >>= g) := by
  unfold Tells at hp hf ⊢
  rw [exec_bind, hp]
  cases r with
  | ok a => exact hf a
  | error e => rfl

theorem tells_pure {a : α} : (pure a : Procedure α).Tells clock w (.ok a) := rfl

theorem tells_ofAmount {x : Except Decimal.Fault α} : (ofAmount x).Tells clock w (liftAmount x) := rfl

theorem tells_perform {op : Op} {r : Except Failure op.Result} (idle : w.pending = none)
    (h : op.perform clock w = (r, w)) : (perform op).Tells clock w r := exec_perform idle h

end Procedure

theorem liftAmount_bind {α β : Type} (x : Except Decimal.Fault α) (f : α → Except Decimal.Fault β) :
    liftAmount (x >>= f) = liftAmount x >>= fun a => liftAmount (f a) := by
  cases x <;> rfl

theorem map_bind_except {ε α β γ : Type} (x : Except ε α) (g : α → Except ε β) (h : β → γ) :
    (x >>= g).map h = x >>= fun a => (g a).map h := by
  cases x <;> rfl

namespace Reports

open Procedure

variable {a : Account}

/-- What is computed of the lines that are read is their replay. -/
theorem tells_replay (f : LedgerFilters) (opening : Decimal) (rows : List PostedLine) : (do
    let entries ← ofAmount (runningBalances a.type opening rows)
    let totalDebit ← ofAmount (Decimal.sum (rows.map PostedLine.debit))
    let totalCredit ← ofAmount (Decimal.sum (rows.map PostedLine.credit))
    let closing ← ofAmount (do opening.add (← a.type.signedMovement totalDebit totalCredit))
    return ⟨a, f.page entries, opening, totalDebit, totalCredit, closing, entries.length⟩ :
    Procedure AccountLedger).Tells clock w
      ((liftAmount (replay a opening rows)).map fun l => l.paged f) := by
  refine (tells_ofAmount.bind fun entries => tells_ofAmount.bind fun totalDebit =>
    tells_ofAmount.bind fun totalCredit => tells_ofAmount.bind fun closing => tells_pure).trans ?_
  simp only [replay, liftAmount_bind, map_bind_except, bind_assoc]
  rfl

/-- The call reads the whole ledger of an account from the store, and answers a page of it. -/
theorem ledgerFor_exec (idle : w.pending = none) (found : w.store.account? a.id = some a)
    (f : LedgerFilters) :
    (ledgerFor a.id f).exec clock w = ((wholeLedger w.store a f).map fun l => l.paged f, w) := by
  have account : (perform (.account a.id)).exec clock w = (.ok (some a), w) :=
    exec_perform idle (congrArg (fun x => (Except.ok x, w)) found)
  have lines : (perform (.postedLines a.id f.range (searchTerm f.search))).Tells clock w
      (w.store.postedLines a.id f.range (searchTerm f.search)) := tells_perform idle rfl
  have rest (opening : Decimal) := lines.bind fun rows => tells_replay (a := a) f opening rows
  rw [ledgerFor, exec_bind_ok account, wholeLedger]
  dsimp only
  cases f.start with
  | none =>
      refine (rest .zero).trans ?_
      rw [openingOf, ← map_bind_except]
      rfl
  | some day =>
      have totals : (perform (.postedTotalsBefore a.id day)).Tells clock w
          (w.store.postedTotalsBefore a.id day) := tells_perform idle rfl
      refine (totals.bind fun x => tells_ofAmount.bind rest).trans ?_
      rw [openingOf, bind_assoc]
      simp only [map_bind_except]

/-! ## Both balances -/

/-- For an opening balance of at most `10 ^ 24` and up to `10 ^ 8` lines of at most `10 ^ 16` on a side,
    all in whole cents: the running balances are the opening balance and the movements so far, without
    any rounding; the closing balance is the last of them; lines may be replayed in two parts; and this is
    what the ledger of an account answers when these are the lines of its window. -/
theorem running_and_closing (a : Account) {opening : Decimal} {rows : List PostedLine}
    (hopening : opening.CentsWithin (10 ^ 24)) (few : rows.length ≤ 10 ^ 8)
    (fits : RowsWithin (10 ^ 16) rows) :
    ∃ ledger, replay a opening rows = .ok ledger ∧
      runningBalances a.type opening rows = .ok ledger.entries ∧
      ledger.entries.map LedgerLine.line = rows ∧
      (∀ k (hk : k < ledger.entries.length),
        ledger.entries[k].runningBalance.Holds (opening.value + moved a.type (rows.take (k + 1)))) ∧
      ledger.closingBalance.eq (lastBalance opening ledger.entries) = .ok true ∧
      (∀ xs ys, rows = xs ++ ys → ∃ first rest, runningBalances a.type opening xs = .ok first ∧
        runningBalances a.type (lastBalance opening first) ys = .ok rest ∧
        ledger.entries = first ++ rest) ∧
      ∀ (clock : Clock) (w : World) (f : LedgerFilters), w.pending = none →
        w.store.account? a.id = some a → openingOf w.store a f.start = .ok opening →
        w.store.postedLines a.id f.range (searchTerm f.search) = .ok rows →
          (ledgerFor a.id f).run clock w = (.ok (ledger.paged f), w) := by
  have few : (rows.length : ℚ) ≤ 10 ^ 8 := by exact_mod_cast few
  have small : (10 : ℚ) ^ 24 + rows.length * (10 ^ 16 + 10 ^ 16) < 10 ^ 26 := by linarith
  obtain ⟨lines, hlines, each, last⟩ := runningBalances_exact (t := a.type) fits hopening small
  obtain ⟨ledger, hledger, rfl, hclosing⟩ := replay_exact a fits hopening small hlines
  refine ⟨ledger, hledger, hlines, map_line_runningBalances hlines, each, hclosing.eq last, ?_, ?_⟩
  · rintro xs ys rfl
    rw [runningBalances_append] at hlines
    obtain ⟨first, hfirst, hlines⟩ := bind_eq_ok hlines
    obtain ⟨rest, hrest, hlines⟩ := bind_eq_ok hlines
    exact ⟨first, rest, hfirst, hrest, (Except.ok.inj hlines).symm⟩
  · intro clock w f idle found hopen hrows
    refine run_of_exec ?_ idle
    rw [ledgerFor_exec idle found, wholeLedger, hopen]
    show ((w.store.postedLines a.id f.range (searchTerm f.search) >>= _).map _, w) = _
    rw [hrows]
    show ((liftAmount (replay a opening rows)).map _, w) = _
    rw [hledger]
    rfl

/-- An income account. -/
def sales : Account where
  id := Uuid.issue 0
  company := ⟨1⟩
  code := "4000"
  nameEn := "Sales"
  nameAr := none
  type := .income
  isVat := false
  isSystem := false
  isActive := true
  isArchived := false
  createdAt := default
  updatedAt := none

/-- A posted line with amounts in cents. -/
def rowOfCents (number debit credit : Nat) : PostedLine where
  entry := Uuid.issue number
  entryNumber := "JE-20240105-001"
  date := firstDay
  memo := none
  source := .manual
  status := .posted
  debit := .finite false debit (-2)
  credit := .finite false credit (-2)
  description := none
  sequence := 1
  lineNumber := number

/-- Sales open with 20.05, and 80.00 and 19.95 are earned and 0.50 is taken back. -/
theorem running_and_closing_sales :
    ∃ ledger, replay sales (.finite false 2005 (-2))
        [rowOfCents 1 0 8000, rowOfCents 2 50 0, rowOfCents 3 0 1995] = .ok ledger ∧
      ledger.closingBalance.eq (lastBalance (.finite false 2005 (-2)) ledger.entries) = .ok true := by
  have within (n : Nat) (hn : n ≤ 8000) : (Decimal.finite false n (-2)).CentsWithin (10 ^ 16) := by
    refine (Decimal.CentsWithin.of_places false n).mono ?_
    have hn : (n : ℚ) ≤ 8000 := by exact_mod_cast hn
    norm_num
    linarith
  have fits : RowsWithin (10 ^ 16) [rowOfCents 1 0 8000, rowOfCents 2 50 0, rowOfCents 3 0 1995] := by
    intro l hl
    simp only [List.mem_cons, List.not_mem_nil, or_false] at hl
    rcases hl with rfl | rfl | rfl
    · exact ⟨within 0 (by norm_num), within 8000 (by norm_num)⟩
    · exact ⟨within 50 (by norm_num), within 0 (by norm_num)⟩
    · exact ⟨within 0 (by norm_num), within 1995 (by norm_num)⟩
  obtain ⟨ledger, hledger, -, -, -, hclosing, -⟩ := running_and_closing sales
    ((within 2005 (by norm_num)).mono (by norm_num)) (by norm_num) fits
  exact ⟨ledger, hledger, hclosing⟩

end Reports

end Bookkeeping
