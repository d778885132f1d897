import Bookkeeping.Proofs.Balances
import Bookkeeping.Proofs.DoubleEntry
import Mathlib.Algebra.BigOperators.Group.List.Basic
import Mathlib.Algebra.Order.Group.MinMax

set_option autoImplicit false

/-! # The trial balance

Netting each account and adding up both columns keeps the difference of debits and credits, and so does
sorting lines by account. The columns of a trial balance therefore differ by what the entries in its
range lack to balance, each at most a cent (`trialBalance_difference`). A trial balance is balanced
within one cent as a whole, though, so many entries that each pass need not. -/

namespace Bookkeeping

open Decimal (WholeCents TotalCents)

variable {w : World} {s : Store} {ls : List (Line Cell)}

/-! ## Lines by account -/

/-- A sum over lines that are on one of some accounts, taken account by account. -/
theorem Line.sum_map_on (f : Line Cell → ℚ) {ids : List Uuid}
    (distinct : ids.Nodup) (known : ∀ l ∈ ls, l.account ∈ ids) :
    (ids.map fun id => ((on ls id).map f).sum).sum = (ls.map f).sum := by
  induction ls with
  | nil => simp [on]
  | cons l rest ih =>
      have hknown : ∀ l ∈ rest, l.account ∈ ids := fun l hl => known l (by simp [hl])
      have hsplit : (fun id => ((on (l :: rest) id).map f).sum) = fun id =>
          (if id = l.account then f l else 0) + ((on rest id).map f).sum := by
        funext id
        rw [on, List.filter_cons]
        by_cases hid : id = l.account
        · rw [if_pos hid, hid, if_pos (beq_self_eq_true _)]
          simp [on]
        · rw [if_neg hid, if_neg (by simpa using fun h => hid h.symm), zero_add, on]
      have hcount : ids.count l.account = 1 := List.count_eq_one_of_mem distinct (known l (by simp))
      rw [hsplit, List.sum_map_add, ih hknown, List.sum_map_ite_eq, hcount]
      simp

/-! ## Rows and columns -/

namespace Reports.TrialBalance

variable {b : AccountBalance} {bs : List AccountBalance} {t : TrialBalance} {q r : ℚ}

/-- The net amount of an account stands in the column of the side that prevails. -/
theorem row_holds (hd : b.debit.HoldsTotal q) (hc : b.credit.HoldsTotal r) :
    ∃ x, row b = .ok x ∧ x.debit.HoldsTotal (max (q - r) 0) ∧
      x.credit.HoldsTotal (max (r - q) 0) := by
  obtain ⟨net, hnet, hvalue⟩ := hd.sub hc
  obtain ⟨m, hm, hmvalue⟩ := hvalue.neg (hd.total.sub hc.total)
  rw [neg_sub] at hmvalue
  have hdebit : Decimal.zero.lt net = .ok (decide (r < q)) := by
    rw [Decimal.lt_finite rfl hvalue.finite, hvalue.value, Decimal.value_zero]
    exact congrArg Except.ok (decide_eq_decide.mpr sub_pos)
  have hcredit : net.lt Decimal.zero = .ok (decide (q < r)) := by
    rw [Decimal.lt_finite hvalue.finite rfl, hvalue.value, Decimal.value_zero]
    exact congrArg Except.ok (decide_eq_decide.mpr sub_neg)
  have columns {x : TrialBalanceRow} (debit : x.debit.Holds (max (q - r) 0))
      (credit : x.credit.Holds (max (r - q) 0)) (hx : row b = .ok x) :
      ∃ x, row b = .ok x ∧ x.debit.HoldsTotal (max (q - r) 0) ∧
        x.credit.HoldsTotal (max (r - q) 0) :=
    ⟨x, hx, ⟨debit, hd.total.net hc.total⟩, credit, hc.total.net hd.total⟩
  rcases lt_trichotomy q r with h | rfl | h
  · rw [max_eq_right (sub_nonpos.mpr h.le), max_eq_left (sub_nonneg.mpr h.le)] at columns ⊢
    refine columns (x := ⟨b.account, .zero, m⟩) .zero hmvalue ?_
    simp [row, hnet, hdebit, hcredit, h, h.le.not_gt, hm, bind, Except.bind, pure, Except.pure]
  · rw [sub_self, max_self] at columns ⊢
    refine columns (x := ⟨b.account, .zero, .zero⟩) .zero .zero ?_
    simp [row, hnet, hdebit, hcredit, bind, Except.bind, pure, Except.pure]
  · rw [max_eq_left (sub_nonneg.mpr h.le), max_eq_right (sub_nonpos.mpr h.le)] at columns ⊢
    refine columns (x := ⟨b.account, net, .zero⟩) hvalue .zero ?_
    simp [row, hnet, hdebit, hcredit, h, h.le.not_gt, bind, Except.bind, pure, Except.pure]

/-- The columns come to the net amounts of the accounts, side by side. -/
theorem addRows_holds {d c : AccountBalance → ℚ}
    (each : ∀ b ∈ bs, b.debit.HoldsTotal (d b) ∧ b.credit.HoldsTotal (c b))
    (hdebit : t.totalDebit.HoldsTotal q) (hcredit : t.totalCredit.HoldsTotal r)
    (debits : q + (bs.map d).sum < 10 ^ 26) (credits : r + (bs.map c).sum < 10 ^ 26) :
    ∃ t' q' r', addRows bs t = .ok t' ∧ t'.totalDebit.HoldsTotal q' ∧ t'.totalCredit.HoldsTotal r' ∧
      q' - r' = q - r + ((bs.map d).sum - (bs.map c).sum) := by
  induction bs generalizing t q r with
  | nil => exact ⟨_, q, r, rfl, hdebit, hcredit, by simp⟩
  | cons b bs ih =>
      obtain ⟨hd, hc⟩ := each b (by simp)
      obtain ⟨x, hx, hxd, hxc⟩ := row_holds hd hc
      have rest : ∀ b ∈ bs, b.debit.HoldsTotal (d b) ∧ b.credit.HoldsTotal (c b) :=
        fun b hb => each b (by simp [hb])
      have hds := TotalCents.sum_nonneg fun b hb => (rest b hb).1.total
      have hcs := TotalCents.sum_nonneg fun b hb => (rest b hb).2.total
      rw [List.map_cons, List.sum_cons] at debits credits
      -- what prevails is no more than all that is on its side
      have hnet : max (d b - c b) 0 ≤ d b :=
        max_le (sub_le_self _ hc.total.nonneg) hd.total.nonneg
      have hnet' : max (c b - d b) 0 ≤ c b :=
        max_le (sub_le_self _ hd.total.nonneg) hc.total.nonneg
      obtain ⟨y, hy, hyv⟩ := hdebit.add hxd (by linarith)
      obtain ⟨z, hz, hzv⟩ := hcredit.add hxc (by linarith)
      obtain ⟨t', q', r', ht', hd', hc', hdiff⟩ :=
        ih rest (t := ⟨x :: t.rows, y, z⟩) hyv hzv (by linarith) (by linarith)
      refine ⟨t', q', r', ?_, hd', hc', ?_⟩
      · rw [addRows, hx]
        dsimp only [bind, Except.bind]
        rw [hy, hz]
        exact ht'
      · have hsides : max (d b - c b) 0 - max (c b - d b) 0 = d b - c b := by
          rw [← neg_sub (d b) (c b)]
          exact max_zero_sub_max_neg_zero_eq_self _
        rw [hdiff, List.map_cons, List.sum_cons, List.map_cons, List.sum_cons]
        linarith

/-- The rows stand in the order of the balances. -/
theorem addRows_rows {t' : TrialBalance} (h : addRows bs t = .ok t') :
    ∃ rows, bs.mapM row = .ok rows ∧ t'.rows = t.rows.reverse ++ rows := by
  induction bs generalizing t with
  | nil =>
      cases h
      exact ⟨[], rfl, by simp⟩
  | cons b bs ih =>
      rw [addRows] at h
      obtain ⟨x, hx, h⟩ := bind_eq_ok h
      obtain ⟨y, hy, h⟩ := bind_eq_ok h
      obtain ⟨z, hz, h⟩ := bind_eq_ok h
      obtain ⟨rows, hrows, ht'⟩ := ih h
      refine ⟨x :: rows, ?_, ?_⟩
      · rw [List.mapM_cons, hx, hrows]
        rfl
      · rw [ht', List.reverse_cons, List.append_assoc, List.singleton_append]

/-- Balanced means that the columns differ by a cent at most. -/
theorem isBalanced_holds (hdebit : t.totalDebit.HoldsTotal q) (hcredit : t.totalCredit.HoldsTotal r) :
    t.isBalanced = .ok (decide (|q - r| ≤ 1 / 100)) := by
  obtain ⟨x, hx, hxv⟩ := hdebit.sub hcredit
  obtain ⟨y, hy, hyf, hyv⟩ := Decimal.abs_exact hxv.finite (hxv.value ▸ hdebit.total.sub hcredit.total)
  rw [isBalanced, difference, hx]
  dsimp only [bind, Except.bind]
  rw [hy]
  dsimp only
  rw [Decimal.le_finite hyf rfl, hyv, hxv.value, Decimal.value_cent]

end Reports.TrialBalance

/-! ## What entries lack to balance -/

/-- The debits of an entry less its credits, as they are read. -/
def StoredEntry.gap (e : StoredEntry) : ℚ :=
  Line.total Line.debit e.entry.lines - Line.total Line.credit e.entry.lines

theorem StoredEntry.sum_gap (es : List StoredEntry) :
    (es.map gap).sum = Line.total Line.debit (es.flatMap fun e => e.entry.lines) -
      Line.total Line.credit (es.flatMap fun e => e.entry.lines) := by
  induction es with
  | nil => simp
  | cons e rest ih =>
      rw [List.map_cons, List.sum_cons, ih, gap, List.flatMap_cons, Line.total_append,
        Line.total_append]
      ring

/-- Every entry balances within a cent. -/
theorem Store.after_gap {sessions : List Session} (h : History.Exact (History.of sessions))
    {e : StoredEntry} (he : e ∈ (after sessions).entries) : |e.gap| ≤ 1 / 100 := by
  obtain ⟨lines, last, stored, passed⟩ := after_written sessions e he
  have sub := History.subperm_of_linesOf last
  obtain ⟨⟨hdebits, hdebit⟩, hcredits, hcredit⟩ := h.kept sub (storeLines_storedAs stored)
  have total {side : Line Cell → Cell} {given : Line Decimal → Decimal}
      (same : (e.entry.lines.map side).map Cell.amount = (lines.map given).map Decimal.value) :
      Line.total side e.entry.lines = (lines.map fun l => (given l).value).sum := by
    rw [sum_values, ← same, List.map_map]
    rfl
  have cents : ∀ l ∈ lines.map Line.toPosting,
      WholeCents l.debit.value ∧ WholeCents l.credit.value := by
    intro l hl
    obtain ⟨given, hgiven, rfl⟩ := List.mem_map.mp hl
    exact ⟨h.debits.wholeCents _ (List.mem_map_of_mem (sub.subset hgiven)),
      h.credits.wholeCents _ (List.mem_map_of_mem (sub.subset hgiven))⟩
  have bound {side : Line Cell → Cell} (kept : Cell.KeptExactly (e.entry.lines.map side)) :
      Line.total side e.entry.lines < 10 ^ 26 := by
    have hlt := kept.sum_lt
    rw [List.map_map] at hlt
    exact hlt.trans (by norm_num)
  have hbalanced := (passed.balanced cents
    (by rw [List.map_map]; exact total hdebit ▸ bound hdebits)
    (by rw [List.map_map]; exact total hcredit ▸ bound hcredits)).1
  rw [List.map_map, List.map_map] at hbalanced
  rw [StoredEntry.gap, total hdebit, total hcredit]
  exact hbalanced

/-! ## The trial balance of a run -/

/-- Posted lines of a company are on its accounts. -/
theorem Store.Chartered.posted_on_accounts (h : s.Chartered) (company : Uuid) (range : DateRange) :
    ∀ l ∈ s.linesIn company range, l.account ∈ (s.accountsOf company true).map Account.id := by
  intro l hl
  obtain ⟨e, he, hl⟩ := List.mem_flatMap.mp hl
  have he := List.mem_filter.mp (List.mem_mergeSort.mp he)
  obtain ⟨a, ha, hid, hcompany⟩ := h.owned e he.1 l hl
  simp only [Bool.and_eq_true, beq_iff_eq] at he
  exact List.mem_map.mpr ⟨a, mem_accountsOf.mpr ⟨ha, hcompany.trans he.2.1.1⟩, hid⟩

/-- What is summed over all that was posted in a range can be summed over the accounts of the company. -/
theorem Store.Chartered.sum_map_accounts (h : s.Chartered) (company : Uuid) (range : DateRange)
    (f : Line Cell → ℚ) {bs : List Reports.AccountBalance}
    (accounts : bs.map (fun b => b.account) = s.accountsOf company true) :
    (bs.map fun b => ((Line.on (s.linesIn company range) b.account.id).map f).sum).sum =
      ((s.linesIn company range).map f).sum := by
  have hsum := Line.sum_map_on f (h.accountsOf_nodup company) (h.posted_on_accounts company range)
  rwa [← accounts, List.map_map, List.map_map] at hsum

/-- All accounts of a company together have all that was posted in a range. -/
theorem Store.Chartered.sum_total_accounts (h : s.Chartered) (company : Uuid) (range : DateRange)
    (side : Line Cell → Cell) {bs : List Reports.AccountBalance}
    (accounts : bs.map (fun b => b.account) = s.accountsOf company true) :
    (bs.map fun b => Line.total side (Line.on (s.linesIn company range) b.account.id)).sum =
      Line.total side (s.linesIn company range) :=
  h.sum_map_accounts company range (fun l => (side l).amount) accounts

/-- The columns of the trial balance of balances differ by the debits and the credits that were
    posted. -/
theorem Store.Exact.ofBalances (h : s.Exact) (chartered : s.Chartered) (company : Uuid)
    (range : DateRange) {bs : List Reports.AccountBalance}
    (accounts : bs.map (fun b => b.account) = s.accountsOf company true)
    (each : ∀ b ∈ bs, b.Of (s.linesIn company range)) :
    ∃ t q r, Reports.TrialBalance.ofBalances bs = .ok t ∧ t.totalDebit.HoldsTotal q ∧
      t.totalCredit.HoldsTotal r ∧ q - r = Line.total Line.debit (s.linesIn company range) -
        Line.total Line.credit (s.linesIn company range) := by
  have hsub := s.linesIn_subperm company range
  have columns (side : Line Cell → Cell) := chartered.sum_total_accounts company range side accounts
  have debits := (h.totalCents (.inl rfl) hsub).lt
  have credits := (h.totalCents (.inr rfl) hsub).lt
  rw [← columns, ← zero_add (List.sum _)] at debits credits
  obtain ⟨t, q, r, ht, hdebit, hcredit, hdiff⟩ :=
    Reports.TrialBalance.addRows_holds (t := ⟨[], .zero, .zero⟩)
      (fun b hb => ⟨(each b hb).debit, (each b hb).credit⟩) .zero .zero debits credits
  refine ⟨t, q, r, ht, hdebit, hcredit, ?_⟩
  rw [hdiff, columns, columns, sub_zero, zero_add]

/-- The columns of a trial balance differ by what the posted entries in its range lack to balance. -/
theorem Store.Exact.trialBalance (h : s.Exact) (chartered : s.Chartered) (clock : Clock)
    (hw : w.store = s) (idle : w.pending = none) (company : Uuid) (range : DateRange) :
    ∃ t, (Reports.trialBalance company range).run clock w = (.ok t, w) ∧
      t.totalDebit.isFinite ∧ t.totalCredit.isFinite ∧
      t.totalDebit.value - t.totalCredit.value =
        ((s.postedEntries company range).map StoredEntry.gap).sum ∧
      t.isBalanced = .ok (decide
        (|((s.postedEntries company range).map StoredEntry.gap).sum| ≤ 1 / 100)) := by
  obtain ⟨bs, hbs, haccounts, hof⟩ := h.balances clock hw idle company range
  obtain ⟨t, q, r, ht, hdebit, hcredit, hdiff⟩ := h.ofBalances chartered company range haccounts hof
  have hgap : q - r = ((s.postedEntries company range).map StoredEntry.gap).sum := by
    rw [hdiff, StoredEntry.sum_gap, Store.linesIn]
  refine ⟨t, (hbs.bind (Procedure.looks_ofAmount ht)).run idle, hdebit.finite, hcredit.finite, ?_, ?_⟩
  · rw [hdebit.value, hcredit.value, hgap]
  · rw [Reports.TrialBalance.isBalanced_holds hdebit hcredit, hgap]

/-- After a run with amounts that the store sums exactly, the columns of a trial balance differ by what
    the posted entries in its range lack to balance, each a cent at most. -/
theorem trialBalance_difference (sessions : List Session) (h : History.Exact (History.of sessions))
    (clock : Clock) (hw : w.store = Store.after sessions) (idle : w.pending = none) (company : Uuid)
    (range : DateRange) :
    ∃ t, (Reports.trialBalance company range).run clock w = (.ok t, w) ∧
      t.totalDebit.isFinite ∧ t.totalCredit.isFinite ∧
      t.totalDebit.value - t.totalCredit.value =
        (((Store.after sessions).postedEntries company range).map StoredEntry.gap).sum ∧
      (∀ e ∈ (Store.after sessions).postedEntries company range, |e.gap| ≤ 1 / 100) ∧
      t.isBalanced = .ok (decide
        (|(((Store.after sessions).postedEntries company range).map StoredEntry.gap).sum| ≤
          1 / 100)) := by
  obtain ⟨t, ht, hdebit, hcredit, hdiff, hbalanced⟩ := (Store.after_exact h).trialBalance
    (Store.after_chartered sessions) clock hw idle company range
  refine ⟨t, ht, hdebit, hcredit, hdiff, fun e he => ?_, hbalanced⟩
  exact Store.after_gap h ((Store.postedEntries_subperm company range).subset he)

/-! ## Entries that lack a cent each -/

/-- A company opens two accounts and on two days debits 1.00 to the first and credits 1.01 to the
    second. -/
def lacksTwoCents : List Session :=
  let lines : List PostingLine :=
    [{ account := Uuid.issue 0, debit := .finite false 100 (-2) },
      { account := Uuid.issue 1, credit := .finite false 101 (-2) }]
  (Session.opensTwoAccounts.call :: [firstDay, laterDay].map fun date =>
    .createEntry { company := ⟨1⟩, date, createdBy := "clerk" } lines true).map fun call =>
      { call, setting := { clock := .ok default } }

theorem exact_lacksTwoCents : History.Exact (History.of lacksTwoCents) := by
  have written : History.written (History.of lacksTwoCents) = (List.replicate 2
      [⟨Uuid.issue 0, 1, .finite false 100 (-2), .zero, none⟩,
        ⟨Uuid.issue 1, 2, .zero, .finite false 101 (-2), none⟩]).flatten := by
    decide +kernel
  have one : (Decimal.finite false 100 (-2)).value = 1 := by norm_num [Decimal.value_finite]
  have more : (Decimal.finite false 101 (-2)).value = 101 / 100 := by norm_num [Decimal.value_finite]
  have whole : WholeCents 1 ∧ WholeCents (101 / 100) := ⟨⟨100, by norm_num⟩, 101, by norm_num⟩
  refine ⟨.cents ?_ ?_, .cents ?_ ?_⟩
  all_goals rw [written]
  · norm_num [one, whole, WholeCents.zero, List.replicate]
  · norm_num [one, List.replicate]
  · norm_num [more, whole, WholeCents.zero, List.replicate]
  · norm_num [more, List.replicate]

/-- Every entry in a range lacks one cent. -/
theorem sum_gap_lacksTwoCents {range : DateRange} {n : Nat}
    (read : ((Store.after lacksTwoCents).entries.filter fun e =>
        e.entry.company == ⟨1⟩ && e.isPosted && range.holds e.entry.date).map (fun e =>
      (e.entry.lines.map fun l => l.debit.toDecimal, e.entry.lines.map fun l => l.credit.toDecimal)) =
      List.replicate n ([.finite false 100 (-2), .finite false 0 (-2)],
        [.finite false 0 (-2), .finite false 101 (-2)])) :
    (((Store.after lacksTwoCents).postedEntries ⟨1⟩ range).map StoredEntry.gap).sum = -n / 100 := by
  have split (e : StoredEntry) : e.gap =
      ((e.entry.lines.map fun l => l.debit.toDecimal).map Decimal.value).sum -
        ((e.entry.lines.map fun l => l.credit.toDecimal).map Decimal.value).sum := by
    rw [List.map_map, List.map_map]
    rfl
  have gaps := congrArg
    (List.map fun p => (p.1.map Decimal.value).sum - (p.2.map Decimal.value).sum) read
  rw [List.map_map, List.map_replicate] at gaps
  rw [Store.postedEntries, ((List.mergeSort_perm _ _).map StoredEntry.gap).sum_eq, funext split]
  refine (congrArg List.sum gaps).trans ?_
  rw [List.sum_replicate]
  norm_num [Decimal.value_finite]
  ring

/-- Up to the first day one cent is lacking, and the trial balance is balanced. -/
theorem trialBalance_difference_lacksTwoCents :
    History.Exact (History.of lacksTwoCents) ∧
      ∃ t, (Reports.trialBalance ⟨1⟩ ⟨none, some firstDay⟩).run (.ok default)
          { store := Store.after lacksTwoCents } = (.ok t, { store := Store.after lacksTwoCents }) ∧
        t.totalDebit.value - t.totalCredit.value = -1 / 100 ∧ t.isBalanced = .ok true := by
  have gap : (((Store.after lacksTwoCents).postedEntries ⟨1⟩ ⟨none, some firstDay⟩).map
      StoredEntry.gap).sum = -(1 : Nat) / 100 := sum_gap_lacksTwoCents (by decide +kernel)
  obtain ⟨t, ht, -, -, hdiff, -, hbalanced⟩ := trialBalance_difference
    (w := { store := Store.after lacksTwoCents }) lacksTwoCents exact_lacksTwoCents (.ok default)
    rfl rfl ⟨1⟩ ⟨none, some firstDay⟩
  rw [gap] at hdiff hbalanced
  refine ⟨exact_lacksTwoCents, t, ht, by simpa using hdiff, hbalanced.trans ?_⟩
  norm_num [abs_of_neg]

/-- Both entries pass, and the trial balance of all days is not balanced. -/
theorem trialBalance_unbalanced :
    ¬ ∀ (sessions : List Session) (company : Uuid) (range : DateRange) (clock : Clock)
      (t : Reports.TrialBalance),
      ((Reports.trialBalance company range).run clock { store := Store.after sessions }).1 = .ok t →
        t.isBalanced = .ok true := by
  intro h
  have gap : (((Store.after lacksTwoCents).postedEntries ⟨1⟩ .all).map StoredEntry.gap).sum =
      -(2 : Nat) / 100 := sum_gap_lacksTwoCents (by decide +kernel)
  obtain ⟨t, ht, -, -, -, hbalanced⟩ := (Store.after_exact exact_lacksTwoCents).trialBalance
    (w := { store := Store.after lacksTwoCents }) (Store.after_chartered lacksTwoCents) (.ok default)
    rfl rfl ⟨1⟩ .all
  rw [h lacksTwoCents ⟨1⟩ .all (.ok default) t (congrArg Prod.fst ht), gap] at hbalanced
  norm_num [abs_of_neg] at hbalanced

end Bookkeeping
