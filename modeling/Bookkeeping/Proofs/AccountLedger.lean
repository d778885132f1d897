import Bookkeeping.Proofs.Balances

set_option autoImplicit false

/-! # The ledger of an account

The ledger reads the lines of one account, whatever company their entries are of, and sums what came
before its first day. The balances of a company read all of its lines and group them by account. Both
come to the same amounts: lines on an account are lines of entries of its company
(`Store.Chartered.on_linesIn`), and a day is before the window, in it, or after it
(`Store.linesOn_split`). -/

namespace Bookkeeping

open Decimal (TotalCents)

variable {w : World} {s : Store} {a : Account} {start stop : Date}

/-! ## Lines on an account -/

namespace Store

/-- The posted lines on an account of certain days. -/
def linesOn (s : Store) (account : Uuid) (days : Date → Bool) : List (Line Cell) :=
  (s.entries.filter fun e => e.isPosted && days e.entry.date).flatMap fun e => e.linesOn account

theorem linesOn_subperm (account : Uuid) (days : Date → Bool) :
    (s.linesOn account days).Subperm s.lines :=
  flatMap_subperm List.filter_sublist.subperm fun _ => List.filter_sublist

/-- Lines on an account of a company are on entries of that company. -/
theorem Chartered.linesOn_nil (h : s.Chartered) (ha : a ∈ s.accounts) {e : StoredEntry}
    (he : e ∈ s.entries) (other : e.entry.company ≠ a.company) : e.linesOn a.id = [] := by
  rw [StoredEntry.linesOn, List.filter_eq_nil_iff]
  intro l hl hid
  obtain ⟨b, hb, hbl, hcompany⟩ := h.owned e he l hl
  have hba : b = a := h.eq_of_id hb ha (hbl.trans (beq_iff_eq.mp hid))
  exact other (hcompany.symm.trans (congrArg Account.company hba))

/-- The lines of a company that are on one of its accounts are the lines on that account. -/
theorem Chartered.on_linesIn (h : s.Chartered) (ha : a ∈ s.accounts) (range : DateRange) :
    (Line.on (s.linesIn a.company range) a.id).Perm (s.linesOn a.id range.holds) := by
  have hon : Line.on (s.linesIn a.company range) a.id =
      (s.postedEntries a.company range).flatMap fun e => e.linesOn a.id := by
    rw [Line.on, linesIn, List.filter_flatMap]
    rfl
  have hfilter : (s.entries.filter fun e =>
      e.entry.company == a.company && e.isPosted && range.holds e.entry.date) =
      (s.entries.filter fun e => e.isPosted && range.holds e.entry.date).filter fun e =>
        e.entry.company == a.company := by
    rw [List.filter_filter]
    refine List.filter_congr fun e _ => ?_
    rw [Bool.and_assoc]
  have hother : ∀ e ∈ s.entries.filter fun e => e.isPosted && range.holds e.entry.date,
      (e.entry.company == a.company) = false → e.linesOn a.id = [] := by
    intro e he hcompany
    exact h.linesOn_nil ha (List.mem_of_mem_filter he) (by simpa using hcompany)
  rw [hon, linesOn, ← flatMap_filter_of_nil hother, ← hfilter]
  exact (List.mergeSort_perm _ _).flatMap_right _

/-- What is posted up to the last day of a window was posted before the window or in it. -/
theorem linesOn_split (account : Uuid) (order : start ≤ stop) :
    (s.linesOn account (fun d => decide (d < start)) ++
      s.linesOn account (DateRange.holds ⟨some start, some stop⟩)).Perm
      (s.linesOn account (DateRange.holds ⟨none, some stop⟩)) := by
  have horder : start.ordinal ≤ stop.ordinal := order
  have before (d : Date) : (decide (d < start) && DateRange.holds ⟨none, some stop⟩ d) =
      decide (d < start) := by
    rw [Bool.and_eq_left_iff_imp]
    intro hd
    have hd : d.ordinal < start.ordinal := of_decide_eq_true hd
    exact decide_eq_true (show d.ordinal ≤ stop.ordinal by omega)
  have within (d : Date) : (!decide (d < start) && DateRange.holds ⟨none, some stop⟩ d) =
      DateRange.holds ⟨some start, some stop⟩ d := by
    have hstart : (!decide (d < start)) = decide (start ≤ d) := by
      rw [← decide_not]
      exact decide_eq_decide.mpr Nat.not_lt
    rw [hstart, DateRange.holds, DateRange.holds, Bool.true_and]
  have hsplit := List.filter_append_perm (fun e : StoredEntry => decide (e.entry.date < start))
    (s.entries.filter fun e => e.isPosted && DateRange.holds ⟨none, some stop⟩ e.entry.date)
  rw [List.filter_filter, List.filter_filter] at hsplit
  have hlines := hsplit.flatMap_right fun e => e.linesOn account
  rw [List.flatMap_append] at hlines
  refine (List.Perm.of_eq ?_).trans hlines
  rw [linesOn, linesOn]
  congr 2
  · refine List.filter_congr fun e _ => ?_
    rw [Bool.and_left_comm, before]
  · refine List.filter_congr fun e _ => ?_
    rw [Bool.and_left_comm, within]

end Store

/-! ## The balance of an account -/

/-- The balances of the company of an account in a range can be read, and list the account once. -/
def Reports.ReadsBalance (clock : Clock) (w : World) (a : Account) (range : DateRange)
    (b : AccountBalance) : Prop :=
  ∃ bs, (balances a.company range).run clock w = (.ok bs, w) ∧
    bs.filter (fun b => b.account.id == a.id) = [b]

theorem Store.Exact.readsBalance (h : s.Exact) (chartered : s.Chartered) (clock : Clock)
    (hw : w.store = s) (idle : w.pending = none) (ha : a ∈ s.accounts) (range : DateRange) :
    ∃ b, Reports.ReadsBalance clock w a range b ∧
      b.debit.Holds (Line.total Line.debit (s.linesOn a.id range.holds)) ∧
      b.credit.Holds (Line.total Line.credit (s.linesOn a.id range.holds)) ∧
      a.type.IsBalance b.balance (Line.total Line.debit (s.linesOn a.id range.holds))
        (Line.total Line.credit (s.linesOn a.id range.holds)) := by
  obtain ⟨bs, hbs, haccounts, hof⟩ := h.balances clock hw idle a.company range
  have hlisted : a ∈ s.accountsOf a.company true := Store.mem_accountsOf.mpr ⟨ha, rfl⟩
  rw [← haccounts] at hlisted
  obtain ⟨b, hb, rfl⟩ := List.mem_map.mp hlisted
  have hids : (bs.map fun b => b.account.id).Nodup := by
    have hnodup := chartered.accountsOf_nodup b.account.company
    rwa [← haccounts, List.map_map] at hnodup
  have hlines := chartered.on_linesIn ha range
  obtain ⟨hdebit, hcredit, hbalance⟩ := hof b hb
  rw [Line.total_perm hlines] at hdebit hcredit
  rw [Line.total_perm hlines, Line.total_perm hlines] at hbalance
  exact ⟨b, ⟨bs, hbs.run idle, filter_key_eq hids hb⟩, hdebit.toHolds, hcredit.toHolds, hbalance⟩

/-! ## What the ledger reads -/

namespace Store

variable {id : Uuid} {range : DateRange} {ls : List PostedLine} {side : Line Cell → Cell}
  (field : PostedLine → Decimal)

/-- What was posted on an account before a day is summed in the order in which it was written. -/
theorem linesBefore_perm (id : Uuid) (day : Date) :
    (((s.entries.filter fun e => e.isPosted && decide (e.entry.date < day)).mergeSort
      writtenLe).flatMap fun e => e.linesOn id).Perm (s.linesOn id fun d => decide (d < day)) :=
  (List.mergeSort_perm _ _).flatMap_right _

/-- The sums of what was posted on an account before a day. -/
theorem Exact.postedTotalsBefore (h : s.Exact) (id : Uuid) (day : Date) :
    ∃ d c, s.postedTotalsBefore id day = .ok (d, c) ∧
      d.HoldsTotal (Line.total Line.debit (s.linesOn id fun d => decide (d < day))) ∧
      c.HoldsTotal (Line.total Line.credit (s.linesOn id fun d => decide (d < day))) := by
  have hperm := linesBefore_perm (s := s) id day
  have hsub := hperm.subperm.trans (s.linesOn_subperm id fun d => decide (d < day))
  obtain ⟨d, c, hsum, hd, hc⟩ := h.sumLines hsub
  rw [Line.total_perm hperm] at hd hc
  exact ⟨d, c, hsum, hd, hc⟩

/-- The lines that are read are those on the account, with their amounts as they are read. -/
theorem postedLines_perm (hls : s.postedLines id range none = .ok ls)
    (hfield : ∀ e l, field (postedLine e l) = (side l).toDecimal) :
    (ls.map field).Perm ((s.linesOn id range.holds).map fun l => (side l).toDecimal) := by
  cases hls
  refine ((List.mergeSort_perm _ _).map field).trans (.of_eq ?_)
  rw [List.map_flatMap, linesOn, List.map_flatMap]
  refine List.flatMap_congr fun e _ => ?_
  rw [List.map_map]
  exact List.map_congr_left fun l _ => hfield e l

/-- What holds of the amounts on an account as they are read holds of the lines that are read, and both
    come to the same. -/
theorem postedAmounts (hfield : ∀ e l, field (postedLine e l) = (side l).toDecimal)
    (hls : s.postedLines id range none = .ok ls) {P : Decimal → Prop}
    (each : ∀ l ∈ s.linesOn id range.holds, P (side l).toDecimal) :
    (∀ l ∈ ls, P (field l)) ∧ (ls.map fun l => (field l).value).sum =
      ((s.linesOn id range.holds).map fun l => (side l).toDecimal.value).sum := by
  have hperm := postedLines_perm field hls hfield
  constructor
  · intro l hl
    obtain ⟨c, hc, hcell⟩ := List.mem_map.mp (hperm.subset (List.mem_map_of_mem hl))
    rw [← hcell]
    exact each c hc
  · have hsum := (hperm.map Decimal.value).sum_eq
    rw [List.map_map, List.map_map] at hsum
    exact hsum

/-- Posted amounts are read as totals, and come to the total of what is stored. -/
theorem Exact.postedAmounts (h : s.Exact) (hside : Line.IsSide side)
    (hfield : ∀ e l, field (postedLine e l) = (side l).toDecimal)
    (hls : s.postedLines id range none = .ok ls) :
    (∀ l ∈ ls, (field l).HoldsTotal (field l).value) ∧
      (ls.map fun l => (field l).value).sum = Line.total side (s.linesOn id range.holds) := by
  have each := h.readsTotal hside (s.linesOn_subperm id range.holds)
  exact Store.postedAmounts field hfield hls (P := fun x => x.HoldsTotal x.value) each

theorem Exact.sumPosted (h : s.Exact) (hside : Line.IsSide side)
    (hfield : ∀ e l, field (postedLine e l) = (side l).toDecimal)
    (hls : s.postedLines id range none = .ok ls) :
    ∃ x, Decimal.sum (ls.map field) = .ok x ∧
      x.HoldsTotal (Line.total side (s.linesOn id range.holds)) := by
  obtain ⟨each, hsum⟩ := h.postedAmounts field hside hfield hls
  have htotal := h.totalCents hside (s.linesOn_subperm id range.holds)
  rw [← hsum] at htotal ⊢
  exact Decimal.sum_holdsTotal each htotal.lt

end Store

/-- Lines can be replayed as long as their totals stay small. -/
theorem Reports.runningBalances_ok {t : AccountType} {ls : List PostedLine} {x : Decimal} {d c : ℚ}
    (hx : t.IsBalance x d c) (debit : ∀ l ∈ ls, l.debit.HoldsTotal l.debit.value)
    (credit : ∀ l ∈ ls, l.credit.HoldsTotal l.credit.value)
    (debits : d + (ls.map fun l => l.debit.value).sum < 10 ^ 26)
    (credits : c + (ls.map fun l => l.credit.value).sum < 10 ^ 26) :
    ∃ lines, runningBalances t x ls = .ok lines := by
  induction ls generalizing x d c with
  | nil => exact ⟨[], rfl⟩
  | cons l rest ih =>
      rw [List.map_cons, List.sum_cons, ← add_assoc] at debits credits
      have debit' : ∀ l ∈ rest, l.debit.HoldsTotal l.debit.value := fun l hl => debit l (by simp [hl])
      have credit' : ∀ l ∈ rest, l.credit.HoldsTotal l.credit.value :=
        fun l hl => credit l (by simp [hl])
      have hds := TotalCents.sum_nonneg fun l hl => (debit' l hl).total
      have hcs := TotalCents.sum_nonneg fun l hl => (credit' l hl).total
      obtain ⟨m, hm, hmovement⟩ := t.signedMovement_isBalance (debit l (by simp)) (credit l (by simp))
      obtain ⟨y, hy, hnext⟩ := hx.add hmovement (by linarith) (by linarith)
      obtain ⟨lines, hlines⟩ := ih hnext debit' credit' debits credits
      refine ⟨⟨l, shownDescription l, y⟩ :: lines, ?_⟩
      rw [runningBalances, hm]
      dsimp only [bind, Except.bind]
      rw [hy]
      dsimp only
      rw [hlines]
      rfl

/-! ## The ledger -/

/-- The ledger of an account opens with the balance of what was posted before its first day, and with
    zero when it has none. -/
def Reports.OpensWith (s : Store) (a : Account) (opening : Decimal) : Option Date → Prop
  | none => opening = .zero
  | some day => ∃ d c, s.postedTotalsBefore a.id day = .ok (d, c) ∧
      a.type.signedMovement d c = .ok opening

/-- The ledger of an account, step by step. -/
theorem Reports.looks_ledgerFor (clock : Clock) (idle : w.pending = none) {f : LedgerFilters}
    {ls : List PostedLine} {lines : List LedgerLine} {x y m opening closing : Decimal}
    (found : w.store.account? a.id = some a) (opens : OpensWith w.store a opening f.start)
    (hread : w.store.postedLines a.id f.range (searchTerm f.search) = .ok ls)
    (hlines : runningBalances a.type opening ls = .ok lines)
    (hx : Decimal.sum (ls.map PostedLine.debit) = .ok x)
    (hy : Decimal.sum (ls.map PostedLine.credit) = .ok y)
    (hm : a.type.signedMovement x y = .ok m) (hclosing : opening.add m = .ok closing) :
    (ledgerFor a.id f).Looks clock w ⟨a, f.page lines, opening, x, y, closing, lines.length⟩ := by
  have haccount : (Procedure.perform (.account a.id)).Looks clock w (some a) :=
    Procedure.looks_perform idle (congrArg (fun x => (Except.ok x, w)) found)
  have hfound : (Procedure.perform (.postedLines a.id f.range (searchTerm f.search))).Looks clock w
      ls := Procedure.looks_perform idle (congrArg (·, w) hread)
  -- the rest of the call, once the opening balance is known
  have hrest : (do
      let lines ← Procedure.perform (.postedLines a.id f.range (searchTerm f.search))
      let entries ← Procedure.ofAmount (runningBalances a.type opening lines)
      let totalDebit ← Procedure.ofAmount (Decimal.sum (lines.map PostedLine.debit))
      let totalCredit ← Procedure.ofAmount (Decimal.sum (lines.map PostedLine.credit))
      let closing ← Procedure.ofAmount (do
        opening.add (← a.type.signedMovement totalDebit totalCredit))
      return ⟨a, f.page entries, opening, totalDebit, totalCredit, closing, entries.length⟩ :
      Procedure AccountLedger).Looks clock w ⟨a, f.page lines, opening, x, y, closing, lines.length⟩ := by
    refine hfound.bind ?_
    refine (Procedure.looks_ofAmount hlines).bind ?_
    refine (Procedure.looks_ofAmount hx).bind ?_
    refine (Procedure.looks_ofAmount hy).bind ?_
    refine (Procedure.looks_ofAmount (a := closing) ?_).bind rfl
    rw [hm]
    exact hclosing
  refine haccount.bind ?_
  dsimp only
  cases hstart : f.start with
  | none =>
      rw [hstart] at opens
      cases opens
      exact hrest
  | some day =>
      rw [hstart] at opens
      obtain ⟨d, c, hbefore, hopening⟩ := opens
      have hearlier : (Procedure.perform (.postedTotalsBefore a.id day)).Looks clock w (d, c) :=
        Procedure.looks_perform idle (congrArg (·, w) hbefore)
      exact hearlier.bind ((Procedure.looks_ofAmount hopening).bind hrest)

/-- The ledger of an account over a window can be read: what was posted before, in the window, and up to
    its end. -/
theorem Store.Exact.ledgerFor (h : s.Exact) (chartered : s.Chartered) (clock : Clock)
    (hw : w.store = s) (idle : w.pending = none) (ha : a ∈ s.accounts) (order : start ≤ stop)
    {f : LedgerFilters} (hstart : f.start = some start) (hstop : f.stop = some stop)
    (hsearch : Reports.searchTerm f.search = none) :
    ∃ ledger, (Reports.ledgerFor a.id f).run clock w = (.ok ledger, w) ∧
      a.type.IsBalance ledger.openingBalance
        (Line.total Line.debit (s.linesOn a.id fun d => decide (d < start)))
        (Line.total Line.credit (s.linesOn a.id fun d => decide (d < start))) ∧
      ledger.totalDebit.Holds (Line.total Line.debit
        (s.linesOn a.id (DateRange.holds ⟨some start, some stop⟩))) ∧
      ledger.totalCredit.Holds (Line.total Line.credit
        (s.linesOn a.id (DateRange.holds ⟨some start, some stop⟩))) ∧
      a.type.IsBalance ledger.closingBalance
        (Line.total Line.debit (s.linesOn a.id (DateRange.holds ⟨none, some stop⟩)))
        (Line.total Line.credit (s.linesOn a.id (DateRange.holds ⟨none, some stop⟩))) := by
  subst hw
  have split (side : Line Cell → Cell) :
      Line.total side (w.store.linesOn a.id fun d => decide (d < start)) +
        Line.total side (w.store.linesOn a.id (DateRange.holds ⟨some start, some stop⟩)) =
        Line.total side (w.store.linesOn a.id (DateRange.holds ⟨none, some stop⟩)) := by
    rw [← Line.total_append, Line.total_perm (linesOn_split a.id order)]
  have debits := (h.totalCents (.inl rfl)
    (w.store.linesOn_subperm a.id (DateRange.holds ⟨none, some stop⟩))).lt
  have credits := (h.totalCents (.inr rfl)
    (w.store.linesOn_subperm a.id (DateRange.holds ⟨none, some stop⟩))).lt
  rw [← split] at debits credits
  -- what was posted before the window
  obtain ⟨d, c, hbefore, hd, hc⟩ := h.postedTotalsBefore a.id start
  obtain ⟨opening, hopening, hbalance⟩ := a.type.signedMovement_isBalance hd hc
  -- the lines in the window, line by line and in total
  obtain ⟨ls, hls⟩ : ∃ ls, w.store.postedLines a.id ⟨some start, some stop⟩ none = .ok ls := ⟨_, rfl⟩
  obtain ⟨debit, hdebits⟩ := h.postedAmounts PostedLine.debit (.inl rfl) (fun _ _ => rfl) hls
  obtain ⟨credit, hcredits⟩ := h.postedAmounts PostedLine.credit (.inr rfl) (fun _ _ => rfl) hls
  obtain ⟨lines, hlines⟩ := Reports.runningBalances_ok hbalance debit credit
    (by rw [hdebits]; exact debits) (by rw [hcredits]; exact credits)
  obtain ⟨x, hx, hxv⟩ := h.sumPosted PostedLine.debit (.inl rfl) (fun _ _ => rfl) hls
  obtain ⟨y, hy, hyv⟩ := h.sumPosted PostedLine.credit (.inr rfl) (fun _ _ => rfl) hls
  -- both together
  obtain ⟨m, hm, hmovement⟩ := a.type.signedMovement_isBalance hxv hyv
  obtain ⟨closing, hclosing, hlast⟩ := hbalance.add hmovement debits credits
  rw [split, split] at hlast
  have hrange : f.range = ⟨some start, some stop⟩ := by rw [LedgerFilters.range, hstart, hstop]
  have hread : w.store.postedLines a.id f.range (Reports.searchTerm f.search) = .ok ls := by
    rw [hrange, hsearch, hls]
  have opens : Reports.OpensWith w.store a opening f.start := by
    rw [hstart]
    exact ⟨d, c, hbefore, hopening⟩
  have hlooks := Reports.looks_ledgerFor clock idle (chartered.account?_eq ha) opens hread hlines hx hy
    hm hclosing
  exact ⟨_, hlooks.run idle, hbalance, hxv.toHolds, hyv.toHolds, hlast⟩

/-- The days up to the eve of a day are those before it. -/
theorem DateRange.holds_eve {eve : Date} (h : eve.ordinal + 1 = start.ordinal) :
    DateRange.holds ⟨none, some eve⟩ = fun d => decide (d < start) := by
  funext d
  rw [DateRange.holds, Bool.true_and]
  refine decide_eq_decide.mpr ?_
  show d.ordinal ≤ eve.ordinal ↔ d.ordinal < start.ordinal
  omega

/-- After a run with whole numbers, the ledger of an account over a window agrees with the balances of
    its company: it opens with the balance of the eve, has the totals of the window, and closes with the
    balance of its last day. -/
theorem ledgerFor_agrees_with_balances (sessions : List Session)
    (h : History.WholeNumbers (History.of sessions)) (clock : Clock)
    (hw : w.store = Store.after sessions) (idle : w.pending = none)
    (ha : a ∈ (Store.after sessions).accounts) (order : start ≤ stop)
    {eve : Date} (heve : eve.ordinal + 1 = start.ordinal) {f : LedgerFilters}
    (hstart : f.start = some start) (hstop : f.stop = some stop)
    (hsearch : Reports.searchTerm f.search = none) :
    ∃ ledger before within upto, (Reports.ledgerFor a.id f).run clock w = (.ok ledger, w) ∧
      Reports.ReadsBalance clock w a ⟨none, some eve⟩ before ∧
      Reports.ReadsBalance clock w a ⟨some start, some stop⟩ within ∧
      Reports.ReadsBalance clock w a ⟨none, some stop⟩ upto ∧
      ledger.openingBalance.eq before.balance = .ok true ∧
      ledger.totalDebit.eq within.debit = .ok true ∧
      ledger.totalCredit.eq within.credit = .ok true ∧
      ledger.closingBalance.eq upto.balance = .ok true := by
  have exact := Store.after_exact h.exact
  have chartered := Store.after_chartered sessions
  obtain ⟨ledger, hledger, hopening, hdebit, hcredit, hclosing⟩ :=
    exact.ledgerFor chartered clock hw idle ha order hstart hstop hsearch
  obtain ⟨before, hbefore, -, -, hbalance⟩ :=
    exact.readsBalance chartered clock hw idle ha ⟨none, some eve⟩
  obtain ⟨within, hwithin, hdebits, hcredits, -⟩ :=
    exact.readsBalance chartered clock hw idle ha ⟨some start, some stop⟩
  obtain ⟨upto, hupto, -, -, hlast⟩ :=
    exact.readsBalance chartered clock hw idle ha ⟨none, some stop⟩
  rw [DateRange.holds_eve heve] at hbalance
  exact ⟨ledger, before, within, upto, hledger, hbefore, hwithin, hupto,
    hopening.holds.eq hbalance.holds, hdebit.eq hdebits, hcredit.eq hcredits,
    hclosing.holds.eq hlast.holds⟩

/-- 5 February 2024. -/
def eveOfLaterDay : Date := ⟨738921, by decide, by decide⟩

theorem written_movesOnTwoDays : History.written (History.of movesOnTwoDays) =
    [⟨Uuid.issue 0, 1, .finite false 100 0, .zero, none⟩,
      ⟨Uuid.issue 1, 2, .zero, .finite false 100 0, none⟩,
      ⟨Uuid.issue 0, 1, .finite false 40 0, .zero, none⟩,
      ⟨Uuid.issue 1, 2, .zero, .finite false 40 0, none⟩] := by
  decide +kernel

theorem wholeNumbers_movesOnTwoDays : History.WholeNumbers (History.of movesOnTwoDays) := by
  have hundred : (Decimal.finite false 100 0).value = (100 : Int) := by
    norm_num [Decimal.value_finite]
  have forty : (Decimal.finite false 40 0).value = (40 : Int) := by norm_num [Decimal.value_finite]
  have zero : Decimal.zero.value = (0 : Int) := by norm_num
  refine ⟨?_, ?_, ?_⟩
  all_goals rw [written_movesOnTwoDays]
  · simp only [List.forall_mem_cons]
    exact ⟨⟨⟨_, hundred⟩, _, zero⟩, ⟨⟨_, zero⟩, _, hundred⟩, ⟨⟨_, forty⟩, _, zero⟩,
      ⟨⟨_, zero⟩, _, forty⟩, by simp⟩
  · norm_num [hundred, forty]
  · norm_num [hundred, forty]

/-- The ledger of the first account on the later day opens with its balance of the day before. -/
theorem ledgerFor_agrees_with_balances_movesOnTwoDays :
    History.WholeNumbers (History.of movesOnTwoDays) ∧
      ∃ a ∈ (Store.after movesOnTwoDays).accounts, a.id = Uuid.issue 0 ∧ ∃ ledger before,
        (Reports.ledgerFor a.id { start := laterDay, stop := laterDay }).run (.ok default)
            { store := Store.after movesOnTwoDays } =
          (.ok ledger, { store := Store.after movesOnTwoDays }) ∧
        Reports.ReadsBalance (.ok default) { store := Store.after movesOnTwoDays } a
          ⟨none, some eveOfLaterDay⟩ before ∧
        ledger.openingBalance.eq before.balance = .ok true := by
  have listed : Uuid.issue 0 ∈ (Store.after movesOnTwoDays).accounts.map Account.id := by
    decide +kernel
  obtain ⟨a, ha, hid⟩ := List.mem_map.mp listed
  obtain ⟨ledger, before, within, upto, hledger, hbefore, -, -, hopening, -⟩ :=
    ledgerFor_agrees_with_balances (w := { store := Store.after movesOnTwoDays })
      (f := { start := laterDay, stop := laterDay }) movesOnTwoDays wholeNumbers_movesOnTwoDays
      (.ok default) rfl rfl ha (Nat.le_refl _)
      (show eveOfLaterDay.ordinal + 1 = laterDay.ordinal from rfl) rfl rfl rfl
  exact ⟨wholeNumbers_movesOnTwoDays, a, ha, hid, ledger, before, hledger, hbefore, hopening⟩

end Bookkeeping
