import Bookkeeping.Proofs.AccountLedger
import Bookkeeping.Proofs.TrialBalance

set_option autoImplicit false

/-! # Conservation

What a company has posted in a range is told three times: entry by entry in the list of its posted
entries, account by account in its balances, and netted in the rows of its trial balance. All three
come to the same amounts (`reports_conserve`).

The balances are looked up for the accounts that are listed, so a posted line on an account that is
missing from the list would vanish from them: that none does is `Store.Chartered.sum_total_accounts`,
and the sums by entry and by account are then two ways of adding up the same lines. -/

namespace Bookkeeping

open Decimal (TotalCents)

variable {w : World} {s : Store} {side : Line Cell → Cell}

/-! ## Computed amounts that agree -/

/-- Both amounts can be computed, and they are equal. -/
def Decimal.Agree (x y : Except Decimal.Fault Decimal) : Prop :=
  ∃ a b, x = .ok a ∧ y = .ok b ∧ a.eq b = .ok true

theorem Decimal.Holds.agree {x y : Except Decimal.Fault Decimal} {a b : Decimal} {q : ℚ}
    (ha : a.Holds q) (hb : b.Holds q) (hx : x = .ok a) (hy : y = .ok b) : Agree x y :=
  ⟨a, b, hx, hy, ha.eq hb⟩

/-- The sum over entries of what each of them totals. -/
def Entry.sumTotals (total : Entry Decimal → Except Decimal.Fault Decimal)
    (es : List (Entry Decimal)) : Except Decimal.Fault Decimal := do
  Decimal.sum (← es.mapM total)

/-! ## Entry by entry -/

/-- The total of the lines of entries is the sum of the totals of the entries. -/
theorem Line.total_flatMap {α : Type} (side : Line Cell → Cell) (as : List α)
    (f : α → List (Line Cell)) :
    Line.total side (as.flatMap f) = (as.map fun a => Line.total side (f a)).sum := by
  induction as with
  | nil => simp
  | cons a as ih => rw [List.flatMap_cons, Line.total_append, ih, List.map_cons, List.sum_cons]

namespace Store

/-- The posted entries that are listed of a company, as far as they are dated in a range, are those
    that its reports add up. -/
theorem Sound.listed_posted (sound : s.Sound) (company : Uuid) (range : DateRange) :
    ∃ es, s.entriesOf company (some .posted) = .ok es ∧
      (es.filter fun e => range.holds e.date).Perm
        ((s.postedEntries company range).map StoredEntry.shown) := by
  let wanted (e : StoredEntry) : Bool := e.entry.company == company && e.isIn .posted
  have hstored : ∀ a ∈ (s.entries.filter wanted).mergeSort newestFirst, a ∈ s.entries := by
    intro a ha
    exact List.mem_of_mem_filter (List.mem_mergeSort.mp ha)
  refine ⟨_, sound.mapM_read hstored, ?_⟩
  -- both lists are sorted, by different orders
  have hlisted : ((s.entries.filter wanted).mergeSort newestFirst).Perm (s.entries.filter wanted) :=
    List.mergeSort_perm _ _
  have hcounted : (s.postedEntries company range).Perm
      ((s.entries.filter wanted).filter fun e => range.holds e.entry.date) := by
    rw [List.filter_filter]
    refine (List.mergeSort_perm _ _).trans (.of_eq (List.filter_congr fun e _ => ?_))
    exact Bool.and_comm _ _
  rw [List.filter_map]
  exact ((hlisted.filter _).trans hcounted.symm).map _

/-- Stored lines can be read and added up on each side, with their total. -/
theorem Exact.sumSide (h : s.Exact) (hside : Line.IsSide side) {ls : List (Line Cell)}
    (sub : ls.Subperm s.lines) :
    ∃ z, Decimal.sum (ls.map fun l => (side l).toDecimal) = .ok z ∧
      z.HoldsTotal (Line.total side ls) :=
  Decimal.sum_holdsTotal (h.readsTotal hside sub) (h.totalCents hside sub).lt

/-- The totals of entries, as they are shown, add up to the total of their lines. -/
theorem Exact.sumTotals (h : s.Exact) (hside : Line.IsSide side) {given : Line Decimal → Decimal}
    (hgiven : ∀ l, given (l.map Cell.toDecimal) = (side l).toDecimal) {as : List StoredEntry}
    (stored : as.Subperm s.entries) {es : List (Entry Decimal)}
    (shown : es.Perm (as.map StoredEntry.shown)) :
    ∃ z, Entry.sumTotals (fun e => Decimal.sum (e.lines.map given)) es = .ok z ∧
      z.HoldsTotal (Line.total side (as.flatMap fun a => a.entry.lines)) := by
  have hsub : (as.flatMap fun a => a.entry.lines).Subperm s.lines :=
    flatMap_subperm stored fun _ => List.Sublist.refl _
  have hshown (a : StoredEntry) :
      a.shown.lines.map given = a.entry.lines.map fun l => (side l).toDecimal := by
    rw [StoredEntry.shown, Entry.map, List.map_map]
    exact List.map_congr_left fun l _ => hgiven l
  have hvalue (a : StoredEntry) : (a.shown.lines.map fun l => (given l).value).sum =
      Line.total side a.entry.lines := by
    have hmap := congrArg (List.map Decimal.value) (hshown a)
    rw [List.map_map, List.map_map] at hmap
    exact congrArg List.sum hmap
  -- each entry on its own
  obtain ⟨zs, hzs, hall⟩ := mapM_ok es (f := fun e => Decimal.sum (e.lines.map given))
    (R := fun e z => z.HoldsTotal (e.lines.map fun l => (given l).value).sum) fun e he => by
      obtain ⟨a, ha, rfl⟩ := List.mem_map.mp (shown.subset he)
      have hone := (List.singleton_sublist.mpr ha).flatMap fun a : StoredEntry => a.entry.lines
      rw [List.flatMap_singleton] at hone
      rw [hshown, hvalue]
      exact h.sumSide hside (hone.subperm.trans hsub)
  -- and all of them together
  have hsum : (zs.map fun z => z.value).sum =
      Line.total side (as.flatMap fun a => a.entry.lines) := by
    rw [map_eq_of_forall₂ hall fun e _ z hz => hz.value, (shown.map _).sum_eq, List.map_map,
      Line.total_flatMap]
    exact congrArg List.sum (List.map_congr_left fun a _ => hvalue a)
  have each : ∀ z ∈ zs, z.HoldsTotal z.value := by
    intro z hz
    obtain ⟨e, -, hez⟩ := exists_left_of_forall₂ hall hz
    rw [hez.value]
    exact hez
  have htotal := h.totalCents hside hsub
  rw [← hsum] at htotal ⊢
  obtain ⟨z, hz, hzv⟩ := Decimal.sum_holdsTotal (f := fun z => z) each htotal.lt
  rw [List.map_id'] at hz
  refine ⟨z, ?_, hzv⟩
  rw [Entry.sumTotals, hzs]
  exact hz

end Store

/-! ## Account by account -/

/-- A row of a trial balance for a balance: what prevails on the account stands in its column, and the
    other column is empty. -/
structure Reports.TrialBalanceRow.Nets (r : Reports.TrialBalanceRow) (b : Reports.AccountBalance) :
    Prop where
  account : r.account = b.account
  finite : r.debit.isFinite ∧ r.credit.isFinite
  debit : 0 ≤ r.debit.value
  credit : 0 ≤ r.credit.value
  oneSided : r.debit.value = 0 ∨ r.credit.value = 0
  difference : Decimal.Agree (r.debit.sub r.credit) (b.debit.sub b.credit)

namespace Reports.TrialBalance

variable {b : AccountBalance} {bs : List AccountBalance} {q r : ℚ}

theorem row_account {x : TrialBalanceRow} (h : row b = .ok x) : x.account = b.account := by
  unfold row at h
  obtain ⟨net, -, h⟩ := bind_eq_ok h
  obtain ⟨positive, -, h⟩ := bind_eq_ok h
  obtain ⟨negative, -, h⟩ := bind_eq_ok h
  by_cases hnegative : negative = true
  · rw [if_pos hnegative] at h
    obtain ⟨credit, -, h⟩ := bind_eq_ok h
    cases h
    rfl
  · rw [if_neg hnegative] at h
    cases h
    rfl

theorem row_nets (hd : b.debit.HoldsTotal q) (hc : b.credit.HoldsTotal r) :
    ∃ x, row b = .ok x ∧ x.Nets b := by
  obtain ⟨x, hx, hxd, hxc⟩ := row_holds hd hc
  obtain ⟨y, hy, hyv⟩ := hxd.sub hxc
  obtain ⟨z, hz, hzv⟩ := hd.sub hc
  have hsides : max (q - r) 0 - max (r - q) 0 = q - r := by
    rw [← neg_sub q r]
    exact max_zero_sub_max_neg_zero_eq_self _
  rw [hsides] at hyv
  refine ⟨x, hx, row_account hx, ⟨hxd.finite, hxc.finite⟩, ?_, ?_, ?_, hyv.agree hzv hy hz⟩
  · rw [hxd.value]
    exact le_max_right _ _
  · rw [hxc.value]
    exact le_max_right _ _
  · rw [hxd.value, hxc.value]
    rcases le_total q r with hqr | hqr
    · exact .inl (max_eq_right (sub_nonpos.mpr hqr))
    · exact .inr (max_eq_right (sub_nonpos.mpr hqr))

/-- The rows of the trial balance of balances net them, one by one. -/
theorem rows_net {t : TrialBalance} (h : ofBalances bs = .ok t)
    (each : ∀ b ∈ bs, ∃ x, row b = .ok x ∧ x.Nets b) :
    List.Forall₂ (fun b x => TrialBalanceRow.Nets x b) bs t.rows := by
  obtain ⟨rows, hrows, ht⟩ := addRows_rows h
  obtain ⟨rows', hrows', hall⟩ := mapM_ok bs each
  obtain rfl : rows = rows' := Except.ok.inj (hrows.symm.trans hrows')
  rw [ht, List.reverse_nil, List.nil_append]
  exact hall

end Reports.TrialBalance

/-! ## The three readings -/

/-- The balances and the trial balance of a company come to what these entries of it come to. -/
structure Reports.Conserve (accounts : List Account) (bs : List AccountBalance) (t : TrialBalance)
    (es : List (Entry Decimal)) : Prop where
  debits : Decimal.Agree (Decimal.sum (bs.map fun b => b.debit)) (Entry.sumTotals Entry.totalDebit es)
  credits :
    Decimal.Agree (Decimal.sum (bs.map fun b => b.credit)) (Entry.sumTotals Entry.totalCredit es)
  /-- Each account has one balance and one row. -/
  rows : ∀ a ∈ accounts, ∃ b r, bs.filter (fun b => b.account.id == a.id) = [b] ∧
    t.rows.filter (fun r => r.account.id == a.id) = [r] ∧ b.account = a ∧ r.Nets b
  difference : Decimal.Agree t.difference do
    (← Decimal.sum (bs.map fun b => b.debit)).sub (← Decimal.sum (bs.map fun b => b.credit))

/-- The balances of a company add up to all that was posted in the range. -/
theorem Store.Exact.sumBalances (h : s.Exact) (chartered : s.Chartered) (hside : Line.IsSide side)
    {company : Uuid} {range : DateRange} {bs : List Reports.AccountBalance}
    (accounts : bs.map (fun b => b.account) = s.accountsOf company true)
    {field : Reports.AccountBalance → Decimal}
    (each : ∀ b ∈ bs, (field b).HoldsTotal
      (Line.total side (Line.on (s.linesIn company range) b.account.id))) :
    ∃ z, Decimal.sum (bs.map field) = .ok z ∧
      z.HoldsTotal (Line.total side (s.linesIn company range)) := by
  have hvalues : (bs.map fun b => (field b).value).sum =
      Line.total side (s.linesIn company range) := by
    rw [← chartered.sum_total_accounts company range side accounts]
    exact congrArg List.sum (List.map_congr_left fun b hb => (each b hb).value)
  have htotal := h.totalCents hside (s.linesIn_subperm company range)
  rw [← hvalues] at htotal ⊢
  refine Decimal.sum_holdsTotal (fun b hb => ?_) htotal.lt
  rw [(each b hb).value]
  exact each b hb

/-- Every account of the company has one balance and one row that nets it. -/
theorem Store.Chartered.rows (h : s.Chartered) {company : Uuid} {bs : List Reports.AccountBalance}
    {rows : List Reports.TrialBalanceRow}
    (accounts : bs.map (fun b => b.account) = s.accountsOf company true)
    (net : List.Forall₂ (fun b x => Reports.TrialBalanceRow.Nets x b) bs rows) {a : Account}
    (ha : a ∈ s.accountsOf company true) :
    ∃ b r, bs.filter (fun b => b.account.id == a.id) = [b] ∧
      rows.filter (fun r => r.account.id == a.id) = [r] ∧ b.account = a ∧ r.Nets b := by
  have hids := h.accountsOf_nodup company
  rw [← accounts, List.map_map] at hids
  have hrows : rows.map (fun r => r.account.id) = bs.map fun b => b.account.id :=
    map_eq_of_forall₂ net fun b _ r hr => congrArg Account.id hr.account
  rw [← accounts] at ha
  obtain ⟨b, hb, rfl⟩ := List.mem_map.mp ha
  obtain ⟨r, hr, hbr⟩ := exists_right_of_forall₂ net hb
  have hone : rows.filter (fun x => x.account.id == r.account.id) = [r] :=
    filter_key_eq (hrows ▸ hids) hr
  rw [hbr.account] at hone
  exact ⟨b, r, filter_key_eq hids hb, hone, rfl, hbr⟩

/-- After a run with whole numbers, what a company has posted in a range comes to the same amounts entry
    by entry, account by account and in the rows of the trial balance. -/
theorem reports_conserve (sessions : List Session) (h : History.WholeNumbers (History.of sessions))
    (clock : Clock) (hw : w.store = Store.after sessions) (idle : w.pending = none) (company : Uuid)
    (range : DateRange) :
    ∃ bs t es, (Reports.balances company range).run clock w = (.ok bs, w) ∧
      (Reports.trialBalance company range).run clock w = (.ok t, w) ∧
      (Journal.listEntries company (some .posted)).run clock w = (.ok es, w) ∧
      Reports.Conserve ((Store.after sessions).accounts.filter fun a => a.company == company) bs t
        (es.filter fun e => range.holds e.date) := by
  have exact := Store.after_exact h.exact
  have chartered := Store.after_chartered sessions
  obtain ⟨bs, hbs, haccounts, hof⟩ := exact.balances clock hw idle company range
  obtain ⟨t, q, r, ht, hdebit, hcredit, hdiff⟩ := exact.ofBalances chartered company range haccounts hof
  obtain ⟨es, hes, hlisted⟩ := (Store.after_sound sessions).listed_posted company range
  have hread : (Journal.listEntries company (some .posted)).Looks clock w es := by
    refine Procedure.looks_perform idle ?_
    show (w.store.entriesOf company (some .posted), w) = _
    rw [hw, hes]
  have hstored := Store.postedEntries_subperm (s := Store.after sessions) company range
  obtain ⟨d, hd, hdv⟩ := exact.sumBalances chartered (.inl rfl) haccounts fun b hb => (hof b hb).debit
  obtain ⟨c, hc, hcv⟩ := exact.sumBalances chartered (.inr rfl) haccounts fun b hb => (hof b hb).credit
  have shown_debit (l : Line Cell) : (l.map Cell.toDecimal).debit = l.debit.toDecimal := rfl
  have shown_credit (l : Line Cell) : (l.map Cell.toDecimal).credit = l.credit.toDecimal := rfl
  obtain ⟨d', hd', hdv'⟩ := exact.sumTotals (.inl rfl) shown_debit hstored hlisted
  obtain ⟨c', hc', hcv'⟩ := exact.sumTotals (.inr rfl) shown_credit hstored hlisted
  obtain ⟨x, hx, hxv⟩ := hdebit.sub hcredit
  obtain ⟨y, hy, hyv⟩ := hdv.sub hcv
  rw [hdiff] at hxv
  refine ⟨bs, t, es, hbs.run idle, (hbs.bind (Procedure.looks_ofAmount ht)).run idle, hread.run idle,
    hdv.agree hdv'.toHolds hd hd', hcv.agree hcv'.toHolds hc hc', fun a ha => ?_, ?_⟩
  · have hnet := Reports.TrialBalance.rows_net ht fun b hb =>
      Reports.TrialBalance.row_nets (hof b hb).debit (hof b hb).credit
    obtain ⟨ha, hcompany⟩ := List.mem_filter.mp ha
    exact chartered.rows haccounts hnet (Store.mem_accountsOf.mpr ⟨ha, beq_iff_eq.mp hcompany⟩)
  · refine hxv.agree hyv hx ?_
    rw [hd, hc]
    exact hy

/-- What was moved on the later day is in the reports from that day on. -/
theorem reports_conserve_movesOnTwoDays :
    History.WholeNumbers (History.of movesOnTwoDays) ∧
      ∃ bs t es,
        (Reports.balances ⟨1⟩ ⟨some laterDay, none⟩).run (.ok default)
            { store := Store.after movesOnTwoDays } =
          (.ok bs, { store := Store.after movesOnTwoDays }) ∧
        (Reports.trialBalance ⟨1⟩ ⟨some laterDay, none⟩).run (.ok default)
            { store := Store.after movesOnTwoDays } =
          (.ok t, { store := Store.after movesOnTwoDays }) ∧
        (Journal.listEntries ⟨1⟩ (some .posted)).run (.ok default)
            { store := Store.after movesOnTwoDays } =
          (.ok es, { store := Store.after movesOnTwoDays }) ∧
        Reports.Conserve ((Store.after movesOnTwoDays).accounts.filter fun a => a.company == ⟨1⟩) bs t
          (es.filter fun e => DateRange.holds ⟨some laterDay, none⟩ e.date) := by
  refine ⟨wholeNumbers_movesOnTwoDays, ?_⟩
  exact reports_conserve (w := { store := Store.after movesOnTwoDays }) movesOnTwoDays
    wholeNumbers_movesOnTwoDays (.ok default) rfl rfl ⟨1⟩ ⟨some laterDay, none⟩

end Bookkeeping
