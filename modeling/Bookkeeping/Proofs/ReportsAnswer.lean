import Bookkeeping.Proofs.AccountLedger
import Bookkeeping.Proofs.SumBounds
import Bookkeeping.Proofs.TrialBalance
import Mathlib.Algebra.BigOperators.Ring.List

set_option autoImplicit false

/-! # Reports that answer

Amounts have no upper bound, but sums have: the store answers no sum of whole numbers beyond 64 bits,
and amounts are not computed with beyond 28 digits. As long as the posted amounts of a company keep
away from both bounds, all of its reports answer, whatever rounding did to the amounts
(`reports_answer`). Entries beyond the first bound are accepted all the same, and then neither the
balances nor the trial balance over them can be read (`reports_fail`). -/

namespace Bookkeeping

variable {w : World} {s : Store} {a : Account} {company : Uuid} {ls ls' : List (Line Cell)}
  {side : Line Cell → Cell}

/-! ## Lines that can be summed -/

namespace Line

/-- What lines come to on one side, as they are stored. -/
def stored (side : Line Cell → Cell) (ls : List (Line Cell)) : ℚ :=
  (ls.map fun l => (side l).stored).sum

theorem sum_stored (side : Line Cell → Cell) (ls : List (Line Cell)) :
    ((ls.map side).map Cell.stored).sum = stored side ls := by
  rw [List.map_map]
  rfl

theorem stored_perm (side : Line Cell → Cell) (h : ls.Perm ls') : stored side ls = stored side ls' :=
  (h.map _).sum_eq

theorem stored_le_of_subperm (side : Line Cell → Cell) (sub : ls.Subperm ls') :
    stored side ls ≤ stored side ls' :=
  sum_map_le_of_subperm (fun l _ => (side l).stored_nonneg) sub

/-- Every amount of the lines is kept as a number, and on either side they stay below the limit of whole
    numbers together. -/
structure Bounded (ls : List (Line Cell)) : Prop where
  keeps : ∀ side, IsSide side → ∀ l ∈ ls, (side l).Keeps
  lt : ∀ side, IsSide side → stored side ls < 2 ^ 63

/-- Two amounts are read as the sums of these lines. -/
structure Within (ls : List (Line Cell)) (debit credit : Decimal) : Prop where
  debit : debit.Within (stored Line.debit ls)
  credit : credit.Within (stored Line.credit ls)

namespace Bounded

theorem subperm (h : Bounded ls) (sub : ls'.Subperm ls) : Bounded ls' where
  keeps side hside l hl := h.keeps side hside l (sub.subset hl)
  lt side hside := (stored_le_of_subperm side sub).trans_lt (h.lt side hside)

theorem sumSide (h : Bounded ls) (hside : IsSide side) :
    ∃ x, Store.sumCells (ls.map side) = .ok x ∧ x.Within (stored side ls) := by
  have keeps : ∀ c ∈ ls.map side, c.Keeps := by
    intro c hc
    obtain ⟨l, hl, rfl⟩ := List.mem_map.mp hc
    exact h.keeps side hside l hl
  rw [← sum_stored]
  exact Cell.sum_within keeps (sum_stored side ls ▸ h.lt side hside)

theorem sum (h : Bounded ls) : ∃ d c, Store.sumLines ls = .ok (d, c) ∧ Within ls d c := by
  obtain ⟨d, hd, hdebit⟩ := h.sumSide (.inl rfl)
  obtain ⟨c, hc, hcredit⟩ := h.sumSide (.inr rfl)
  refine ⟨d, c, ?_, hdebit, hcredit⟩
  rw [Store.sumLines, hd, hc]
  rfl

/-- What is read of bounded amounts stays within the digits of amounts also when it is added up. -/
theorem read (h : Bounded ls) (hside : IsSide side) :
    (∀ l ∈ ls, (side l).toDecimal.Within (side l).stored) ∧
      (ls.map fun l => (side l).toDecimal.value).sum ≤ 2 ^ 65 := by
  have each : ∀ l ∈ ls, (side l).toDecimal.Within (side l).stored := by
    intro l hl
    have hone : stored side [l] = (side l).stored := by
      rw [stored, List.map_singleton, List.sum_singleton]
    have hle := stored_le_of_subperm side (List.singleton_sublist.mpr hl).subperm
    exact (h.keeps side hside l hl).toDecimal (hone ▸ hle.trans_lt (h.lt side hside))
  refine ⟨each, (List.sum_le_sum fun l hl => (each l hl).le).trans ?_⟩
  rw [List.sum_map_mul_left]
  have hlt := h.lt side hside
  rw [stored] at hlt
  linarith

end Bounded

end Line

/-! ## Posted lines of a company -/

/-- The posted amounts of a company are numbers; those of each account stay below the limit of whole
    numbers on either side, and all of them below the digits of amounts. -/
structure Store.Bounded (s : Store) (company : Uuid) : Prop where
  finite : ∀ side, Line.IsSide side → ∀ l ∈ s.linesIn company .all, (side l).isFinite
  account : ∀ side, Line.IsSide side → ∀ id,
    Line.stored side (Line.on (s.linesIn company .all) id) < 2 ^ 63
  total : ∀ side, Line.IsSide side → Line.stored side (s.linesIn company .all) < 10 ^ 25

namespace Store

/-- Amounts that stay below the limit of whole numbers all together do so account by account. -/
theorem Bounded.of_total
    (finite : ∀ side, Line.IsSide side → ∀ l ∈ s.linesIn company .all, (side l).isFinite)
    (lt : ∀ side, Line.IsSide side → Line.stored side (s.linesIn company .all) < 2 ^ 63) :
    s.Bounded company where
  finite := finite
  account side hside _ :=
    (Line.stored_le_of_subperm side List.filter_sublist.subperm).trans_lt (lt side hside)
  total side hside := (lt side hside).trans (by norm_num)

/-- What a run has written below `2 ^ 62` on one side is stored below `2 ^ 63`. -/
theorem after_stored_lt (sessions : List Session) {given : Line Decimal → Decimal}
    (hgiven : given = Line.debit ∨ given = Line.credit)
    (same : ∀ g l, Line.StoredAs g l → Cell.ofDecimal? (given g) = some (side l))
    (lt : ((History.written (History.of sessions)).map fun l => (given l).value).sum < 2 ^ 62) :
    (∀ l ∈ (after sessions).lines, (side l).isFinite) ∧
      Line.stored side (after sessions).lines < 2 ^ 63 := by
  have plain : ∀ g ∈ History.written (History.of sessions),
      (given g).isFinite ∧ 0 ≤ (given g).value :=
    fun g hg => written_plain sessions hgiven _ (List.mem_map_of_mem hg)
  obtain ⟨chosen, hstored, sub⟩ := lines_subperm_written sessions
  have each : ∀ g ∈ chosen,
      (given g).isFinite ∧ 0 ≤ (given g).value ∧ (given g).value < 2 ^ 62 := by
    intro g hg
    obtain ⟨hfinite, hnonneg⟩ := plain g (sub.subset hg)
    have hone := sum_map_le_of_subperm (f := fun g => (given g).value) (fun g hg => (plain g hg).2)
      (List.singleton_sublist.mpr (sub.subset hg)).subperm
    rw [List.map_singleton, List.sum_singleton] at hone
    exact ⟨hfinite, hnonneg, hone.trans_lt lt⟩
  have hall : List.Forall₂ (fun g l => (side l).isFinite ∧ (side l).stored ≤ 2 * (given g).value)
      chosen (after sessions).lines := by
    refine ((List.forall₂_and_left _ _).mpr ⟨each, hstored⟩).imp fun g l h => ?_
    obtain ⟨⟨hfinite, hnonneg, hlt⟩, hgl⟩ := h
    exact Cell.stored_le_of_ofDecimal? (same g l hgl) hfinite hnonneg hlt
  constructor
  · intro l hl
    obtain ⟨g, -, hgl⟩ := exists_left_of_forall₂ hall hl
    exact hgl.1
  · have hle : Line.stored side (after sessions).lines ≤
        (chosen.map fun g => 2 * (given g).value).sum := by
      refine List.Forall₂.sum_le_sum ?_
      rw [List.forall₂_map_left_iff, List.forall₂_map_right_iff]
      exact hall.flip.imp fun l g h => h.2
    have hsub := sum_map_le_of_subperm (f := fun g => (given g).value) (fun g hg => (plain g hg).2) sub
    rw [List.sum_map_mul_left] at hle
    linarith

/-- A run that writes less than `2 ^ 62` on either side leaves bounded amounts, whatever the company. -/
theorem Bounded.of_written (sessions : List Session)
    (debits : ((History.written (History.of sessions)).map fun l => l.debit.value).sum < 2 ^ 62)
    (credits : ((History.written (History.of sessions)).map fun l => l.credit.value).sum < 2 ^ 62)
    (company : Uuid) : (after sessions).Bounded company := by
  have sub := (after sessions).linesIn_subperm company .all
  have bounds : ∀ side, Line.IsSide side → (∀ l ∈ (after sessions).lines, (side l).isFinite) ∧
      Line.stored side (after sessions).lines < 2 ^ 63 := by
    rintro side (rfl | rfl)
    · exact after_stored_lt sessions (.inl rfl) (fun _ _ h => h.debit) debits
    · exact after_stored_lt sessions (.inr rfl) (fun _ _ h => h.credit) credits
  refine .of_total (fun side hside l hl => (bounds side hside).1 l (sub.subset hl)) fun side hside => ?_
  exact (Line.stored_le_of_subperm side sub).trans_lt (bounds side hside).2

/-- Amounts in the store after a run were accepted before. -/
theorem after_accepted (sessions : List Session) (hside : Line.IsSide side) {l : Line Cell}
    (hl : l ∈ (after sessions).lines) :
    ∃ x, Cell.ofDecimal? x = some (side l) ∧ x.isFinite ∧ 0 ≤ x.value := by
  obtain ⟨given, stored, sub⟩ := lines_subperm_written sessions
  obtain ⟨g, hg, hgl⟩ := exists_left_of_forall₂ stored hl
  have accepted := written_oneSided sessions g (sub.subset hg)
  rcases hside with rfl | rfl
  · exact ⟨g.debit, hgl.debit, accepted.finite.1, accepted.debit⟩
  · exact ⟨g.credit, hgl.credit, accepted.finite.2, accepted.credit⟩

/-- They are kept as they should be, unless they are too large for doubles. -/
theorem after_keeps (sessions : List Session) (hside : Line.IsSide side) {l : Line Cell}
    (hl : l ∈ (after sessions).lines) (finite : (side l).isFinite) : (side l).Keeps := by
  obtain ⟨x, hx, hfinite, hnonneg⟩ := after_accepted sessions hside hl
  exact Cell.keeps_of_ofDecimal? hx hfinite hnonneg finite

/-- Whole numbers in the store after a run are kept as they should be. -/
theorem after_keeps_int (sessions : List Session) (hside : Line.IsSide side) {l : Line Cell}
    (hl : l ∈ (after sessions).lines) {n : Int} (hn : side l = .int n) : (side l).Keeps := by
  obtain ⟨x, hx, -⟩ := after_accepted sessions hside hl
  refine after_keeps sessions hside hl ?_
  rw [hn] at hx ⊢
  exact Cell.isFinite_int hx

theorem Bounded.on {sessions : List Session} (h : (after sessions).Bounded company) (id : Uuid) :
    Line.Bounded (Line.on ((after sessions).linesIn company .all) id) where
  keeps side hside l hl := by
    have hposted := List.mem_of_mem_filter hl
    have hstored := ((after sessions).linesIn_subperm company .all).subset hposted
    exact after_keeps sessions hside hstored (h.finite side hside l hposted)
  lt side hside := h.account side hside id

theorem linesIn_perm (s : Store) (company : Uuid) (range : DateRange) :
    (s.linesIn company range).Perm ((s.entries.filter fun e =>
      e.entry.company == company && e.isPosted && range.holds e.entry.date).flatMap fun e =>
        e.entry.lines) :=
  (List.mergeSort_perm _ _).flatMap_right _

/-- Entries of certain days are among those of all days. -/
theorem filter_days_sublist (es : List StoredEntry) (p : StoredEntry → Bool) (days : Date → Bool) :
    (es.filter fun e => p e && days e.entry.date).Sublist
      (es.filter fun e => p e && DateRange.all.holds e.entry.date) := by
  refine List.monotone_filter_right _ fun e he => ?_
  rw [Bool.and_eq_true] at he
  rw [he.1]
  rfl

/-- What is posted in a range is posted. -/
theorem linesIn_subperm_all (s : Store) (company : Uuid) (range : DateRange) :
    (s.linesIn company range).Subperm (s.linesIn company .all) := by
  have hlines := ((filter_days_sublist s.entries (fun e => e.entry.company == company && e.isPosted)
    range.holds).flatMap fun e => e.entry.lines).subperm
  exact (s.linesIn_perm company range).subperm.trans
    (hlines.trans (s.linesIn_perm company .all).symm.subperm)

end Store

/-! ## Balances and trial balance -/

namespace Store

variable (h : ∀ id, Line.Bounded (Line.on (s.linesIn company .all) id))

include h

/-- Bounded accounts can be summed in every range. -/
theorem sums_within (range : DateRange) :
    Sums (s.linesIn company range) fun id =>
      Line.Within (Line.on (s.linesIn company range) id) := by
  refine ⟨fun id => ?_, fun id hnone => ?_, fun hdc => ⟨hdc.debit.total, hdc.credit.total⟩⟩
  · exact ((h id).subperm ((s.linesIn_subperm_all company range).filter _)).sum
  · rw [hnone]
    exact ⟨.zero, .zero⟩

theorem balances_answer (clock : Clock) (hw : w.store = s) (idle : w.pending = none)
    (range : DateRange) : ∃ bs, (Reports.balances company range).run clock w = (.ok bs, w) := by
  obtain ⟨bs, hbs, -⟩ := (sums_within h range).balances clock hw idle
  exact ⟨bs, hbs.run idle⟩

/-- The trial balance answers, with its difference and whether it is balanced. -/
theorem trialBalance_answers (chartered : s.Chartered)
    (total : ∀ side, Line.IsSide side → Line.stored side (s.linesIn company .all) < 10 ^ 25)
    (clock : Clock) (hw : w.store = s) (idle : w.pending = none) (range : DateRange) :
    ∃ t difference balanced, (Reports.trialBalance company range).run clock w = (.ok t, w) ∧
      t.difference = .ok difference ∧ t.isBalanced = .ok balanced := by
  obtain ⟨bs, hbs, accounts, hall⟩ := (sums_within h range).balances clock hw idle
  -- a column is at most four times what is posted on its side
  have column {side : Line Cell → Cell} (hside : Line.IsSide side) {x : Reports.AccountBalance → Decimal}
      (each : ∀ b ∈ bs,
        (x b).Within (Line.stored side (Line.on (s.linesIn company range) b.account.id))) :
      0 + (bs.map fun b => (x b).value).sum < 10 ^ 26 := by
    have hle := List.sum_le_sum fun b hb => (each b hb).le
    rw [List.sum_map_mul_left] at hle
    have hsum := chartered.sum_map_accounts company range (fun l => (side l).stored) accounts
    have hlt := (Line.stored_le_of_subperm side (s.linesIn_subperm_all company range)).trans_lt
      (total side hside)
    unfold Line.stored at hle hlt
    rw [hsum] at hle
    linarith
  obtain ⟨t, q, r, ht, hdebit, hcredit, -⟩ :=
    Reports.TrialBalance.addRows_holds (t := ⟨[], .zero, .zero⟩)
      (fun b hb => ⟨(hall b hb).1.debit.total, (hall b hb).1.credit.total⟩) .zero .zero
      (column (.inl rfl) fun b hb => (hall b hb).1.debit)
      (column (.inr rfl) fun b hb => (hall b hb).1.credit)
  obtain ⟨difference, hdifference, -⟩ := hdebit.sub hcredit
  exact ⟨t, difference, _, (hbs.bind (Procedure.looks_ofAmount ht)).run idle, hdifference,
    Reports.TrialBalance.isBalanced_holds hdebit hcredit⟩

end Store

/-! ## Ledgers -/

namespace Store

/-- Lines on a bounded account are bounded, whatever their days. -/
theorem Chartered.linesOn_bounded (chartered : s.Chartered) (ha : a ∈ s.accounts)
    (h : Line.Bounded (Line.on (s.linesIn a.company .all) a.id)) (days : Date → Bool) :
    Line.Bounded (s.linesOn a.id days) := by
  have hlines := ((filter_days_sublist s.entries StoredEntry.isPosted days).flatMap fun e =>
    e.linesOn a.id).subperm
  exact h.subperm (hlines.trans (chartered.on_linesIn ha .all).symm.subperm)

variable {id : Uuid} {range : DateRange} {ls : List PostedLine} (field : PostedLine → Decimal)

/-- Posted amounts on a bounded account are read as totals that stay small together. -/
theorem postedAmounts_bounded (h : Line.Bounded (s.linesOn id range.holds)) (hside : Line.IsSide side)
    (hfield : ∀ e l, field (postedLine e l) = (side l).toDecimal)
    (hls : s.postedLines id range none = .ok ls) :
    (∀ l ∈ ls, (field l).HoldsTotal (field l).value) ∧
      (ls.map fun l => (field l).value).sum ≤ 2 ^ 65 := by
  obtain ⟨each, hle⟩ := h.read hside
  obtain ⟨hread, hsum⟩ := postedAmounts field hfield hls (P := fun x => x.HoldsTotal x.value)
    fun l hl => (each l hl).total
  exact ⟨hread, hsum.trans_le hle⟩

end Store

theorem AccountType.isBalance_zero (t : AccountType) : t.IsBalance .zero 0 0 := by
  have hmovement : t.movement 0 0 = 0 := by
    rw [movement, sub_zero, ite_self]
  refine ⟨?_, .zero, .zero⟩
  rw [hmovement]
  exact .zero

/-- The ledger of a bounded account opens, with a small balance. -/
theorem Reports.opensWith_bounded (h : ∀ days, Line.Bounded (s.linesOn a.id days))
    (start : Option Date) :
    ∃ opening d c, OpensWith s a opening start ∧ a.type.IsBalance opening d c ∧
      d ≤ 2 ^ 65 ∧ c ≤ 2 ^ 65 := by
  cases start with
  | none => exact ⟨.zero, 0, 0, rfl, a.type.isBalance_zero, by positivity, by positivity⟩
  | some day =>
      have hearlier := (h fun d => decide (d < day)).subperm
        (Store.linesBefore_perm a.id day).subperm
      obtain ⟨d, c, hsum, hdc⟩ := hearlier.sum
      obtain ⟨opening, hopening, hbalance⟩ :=
        a.type.signedMovement_isBalance hdc.debit.total hdc.credit.total
      have hdebit := hdc.debit.le
      have hcredit := hdc.credit.le
      have hdebits := hearlier.lt Line.debit (.inl rfl)
      have hcredits := hearlier.lt Line.credit (.inr rfl)
      exact ⟨opening, _, _, ⟨d, c, hsum, hopening⟩, hbalance, by linarith, by linarith⟩

/-- The ledger of an account answers where the balance it opens with and the lines it reads are small. -/
theorem Reports.ledgerFor_replays (idle : w.pending = none) (found : w.store.account? a.id = some a)
    {f : LedgerFilters} {opening : Decimal} {d c : ℚ} {rows : List PostedLine}
    (opens : OpensWith w.store a opening f.start) (hbalance : a.type.IsBalance opening d c)
    (hd : d ≤ 2 ^ 65) (hc : c ≤ 2 ^ 65)
    (hread : w.store.postedLines a.id f.range (searchTerm f.search) = .ok rows)
    (debit : ∀ l ∈ rows, l.debit.HoldsTotal l.debit.value)
    (debits : (rows.map fun l => l.debit.value).sum ≤ 2 ^ 65)
    (credit : ∀ l ∈ rows, l.credit.HoldsTotal l.credit.value)
    (credits : (rows.map fun l => l.credit.value).sum ≤ 2 ^ 65) (clock : Clock) :
    ∃ ledger, (ledgerFor a.id f).run clock w = (.ok ledger, w) := by
  obtain ⟨lines, hlines⟩ := runningBalances_ok hbalance debit credit (by linarith) (by linarith)
  obtain ⟨x, hx, hxv⟩ := Decimal.sum_holdsTotal debit (by linarith)
  obtain ⟨y, hy, hyv⟩ := Decimal.sum_holdsTotal credit (by linarith)
  obtain ⟨m, hm, hmovement⟩ := a.type.signedMovement_isBalance hxv hyv
  obtain ⟨closing, hclosing, -⟩ := hbalance.add hmovement (by linarith) (by linarith)
  exact ⟨_, (looks_ledgerFor clock idle found opens hread hlines hx hy hm hclosing).run idle⟩

/-- The ledger of a bounded account answers for every window. -/
theorem Reports.ledgerFor_answers (h : ∀ days, Line.Bounded (s.linesOn a.id days)) (clock : Clock)
    (hw : w.store = s) (idle : w.pending = none) (found : s.account? a.id = some a)
    {f : LedgerFilters} (hsearch : searchTerm f.search = none) :
    ∃ ledger, (ledgerFor a.id f).run clock w = (.ok ledger, w) := by
  subst hw
  obtain ⟨opening, d, c, opens, hbalance, hd, hc⟩ := opensWith_bounded h f.start
  obtain ⟨ls, hls⟩ : ∃ ls, w.store.postedLines a.id f.range none = .ok ls := ⟨_, rfl⟩
  obtain ⟨debit, debits⟩ :=
    Store.postedAmounts_bounded PostedLine.debit (h _) (.inl rfl) (fun _ _ => rfl) hls
  obtain ⟨credit, credits⟩ :=
    Store.postedAmounts_bounded PostedLine.credit (h _) (.inr rfl) (fun _ _ => rfl) hls
  have hread : w.store.postedLines a.id f.range (searchTerm f.search) = .ok ls := by
    rw [hsearch, hls]
  exact ledgerFor_replays idle found opens hbalance hd hc hread debit debits credit credits clock

/-! ## Reports of a run -/

/-- After a run whose posted amounts of a company are bounded, all reports of the company answer. -/
theorem reports_answer (sessions : List Session) (company : Uuid)
    (h : (Store.after sessions).Bounded company) (clock : Clock)
    (hw : w.store = Store.after sessions) (idle : w.pending = none) :
    (∀ range, ∃ bs, (Reports.balances company range).run clock w = (.ok bs, w)) ∧
      (∀ range, ∃ t difference balanced,
        (Reports.trialBalance company range).run clock w = (.ok t, w) ∧
          t.difference = .ok difference ∧ t.isBalanced = .ok balanced) ∧
      ∀ a ∈ (Store.after sessions).accounts, a.company = company →
        ∀ f : LedgerFilters, Reports.searchTerm f.search = none →
          ∃ ledger, (Reports.ledgerFor a.id f).run clock w = (.ok ledger, w) := by
  have chartered := Store.after_chartered sessions
  refine ⟨Store.balances_answer h.on clock hw idle,
    Store.trialBalance_answers h.on chartered h.total clock hw idle, ?_⟩
  rintro a ha rfl f hsearch
  exact Reports.ledgerFor_answers (chartered.linesOn_bounded ha (h.on a.id)) clock hw idle
    (chartered.account?_eq ha) hsearch

theorem bounded_movesOnTwoDays : (Store.after movesOnTwoDays).Bounded ⟨1⟩ :=
  .of_written movesOnTwoDays (wholeNumbers_movesOnTwoDays.debits.trans (by norm_num))
    (wholeNumbers_movesOnTwoDays.credits.trans (by norm_num)) ⟨1⟩

/-- All reports answer after amounts were moved on two days. -/
theorem reports_answer_movesOnTwoDays :
    (Store.after movesOnTwoDays).Bounded ⟨1⟩ ∧
      ∃ t difference balanced, (Reports.trialBalance ⟨1⟩ .all).run (.ok default)
          { store := Store.after movesOnTwoDays } = (.ok t, { store := Store.after movesOnTwoDays }) ∧
        t.difference = .ok difference ∧ t.isBalanced = .ok balanced := by
  have hanswer := reports_answer (w := { store := Store.after movesOnTwoDays }) movesOnTwoDays ⟨1⟩
    bounded_movesOnTwoDays (.ok default) rfl rfl
  exact ⟨bounded_movesOnTwoDays, hanswer.2.1 .all⟩

/-! ## Reports that fail -/

namespace Store

theorem sumCells_error {cells : List Cell} {e : Failure} (h : sumCells cells = .error e) :
    e = sumOverflow := by
  unfold sumCells at h
  split at h
  · cases h
  · exact (Except.error.inj h).symm

theorem sumLines_error {e : Failure} (h : sumLines ls = .error e) : e = sumOverflow := by
  unfold sumLines at h
  rcases bind_eq_error h with h | ⟨d, -, h⟩
  · exact sumCells_error h
  · rcases bind_eq_error h with h | ⟨c, -, h⟩
    · exact sumCells_error h
    · cases h

/-- One side that cannot be summed fails the sums of both. -/
theorem sumLines_overflow (hside : Line.IsSide side) (h : sumCells (ls.map side) = .error sumOverflow) :
    sumLines ls = .error sumOverflow := by
  rcases hside with rfl | rfl
  · rw [sumLines, h]
    rfl
  · cases hdebit : sumCells (ls.map Line.debit) with
    | ok d =>
        rw [sumLines, hdebit, h]
        rfl
    | error e =>
        rw [sumLines, hdebit, sumCells_error hdebit]
        rfl

/-- One account that cannot be summed fails the totals of its company. -/
theorem postedTotals_overflow {range : DateRange} {id : Uuid}
    (h : sumLines (Line.on (s.linesIn company range) id) = .error sumOverflow) :
    s.postedTotals company range = .error sumOverflow := by
  have hsome : id ∈ accountsInLines (s.linesIn company range) := by
    refine List.mem_eraseDups.mpr (List.mem_map.mpr ?_)
    by_contra hnone
    have hempty : Line.on (s.linesIn company range) id = [] := by
      rw [Line.on, List.filter_eq_nil_iff]
      exact fun l hl hid => hnone ⟨l, hl, beq_iff_eq.mp hid⟩
    rw [hempty] at h
    cases h
  refine mapM_error hsome ?_ fun a _ e ha => ?_
  · rw [Line.on, linesIn] at h
    rw [h]
    rfl
  · rcases bind_eq_error ha with ha | ⟨⟨d, c⟩, -, ha⟩
    · exact sumLines_error ha
    · cases ha

end Store

/-- When the totals of a company cannot be read, neither its balances nor its trial balance can. -/
theorem Reports.balances_fail {range : DateRange} {e : Failure}
    (h : w.store.postedTotals company range = .error e) (clock : Clock) (idle : w.pending = none) :
    (balances company range).run clock w = (.error e, w) ∧
      (trialBalance company range).run clock w = (.error e, w) := by
  have haccounts : (Procedure.perform (.accountsOf company true)).exec clock w =
      (.ok (w.store.accountsOf company true), w) := Procedure.exec_perform idle rfl
  have htotals : (Procedure.perform (.postedTotals company range)).exec clock w = (.error e, w) :=
    Procedure.exec_perform idle (congrArg (·, w) h)
  have hbalances : (balances company range).exec clock w = (.error e, w) := by
    rw [balances, Procedure.exec_bind, haccounts]
    dsimp only
    rw [Procedure.exec_bind, htotals]
  refine ⟨Procedure.run_of_exec hbalances idle, Procedure.run_of_exec ?_ idle⟩
  rw [trialBalance, Procedure.exec_bind, hbalances]

/-- After a run, an account whose posted amounts in a range are whole numbers and come to `2 ^ 63` or
    more on one side fails the reports of its company over the range. -/
theorem reports_fail (sessions : List Session) (company : Uuid) (range : DateRange) (id : Uuid)
    (hside : Line.IsSide side)
    (whole : ∀ l ∈ Line.on ((Store.after sessions).linesIn company range) id, ∃ n, side l = .int n)
    (beyond : 2 ^ 63 ≤
      Line.stored side (Line.on ((Store.after sessions).linesIn company range) id)) (clock : Clock)
    (hw : w.store = Store.after sessions) (idle : w.pending = none) :
    (Reports.balances company range).run clock w = (.error Store.sumOverflow, w) ∧
      (Reports.trialBalance company range).run clock w = (.error Store.sumOverflow, w) := by
  have keeps : ∀ c ∈ (Line.on ((Store.after sessions).linesIn company range) id).map side,
      c.Keeps := by
    intro c hc
    obtain ⟨l, hl, rfl⟩ := List.mem_map.mp hc
    have hposted := List.mem_of_mem_filter hl
    have hstored := ((Store.after sessions).linesIn_subperm company range).subset hposted
    obtain ⟨n, hn⟩ := whole l hl
    exact Store.after_keeps_int sessions hside hstored hn
  have hwhole : ∀ c ∈ (Line.on ((Store.after sessions).linesIn company range) id).map side,
      ∃ n, c = .int n := by
    intro c hc
    obtain ⟨l, hl, rfl⟩ := List.mem_map.mp hc
    exact whole l hl
  rw [← Line.sum_stored] at beyond
  have hsum := Store.sumLines_overflow hside (Cell.sum_overflow keeps hwhole beyond)
  rw [← hw] at hsum
  exact Reports.balances_fail (Store.postedTotals_overflow hsum) clock idle

/-- A company opens two accounts and posts an entry with two debits of `2 ^ 62` to the first. -/
def debitsBeyondLimit : List Session :=
  let half : Decimal := .finite false 4611686018427387904 0
  let both : Decimal := .finite false 9223372036854775808 0
  [Session.opensTwoAccounts.call,
    .createEntry { company := ⟨1⟩, date := firstDay, createdBy := "clerk" }
      [{ account := Uuid.issue 0, debit := half }, { account := Uuid.issue 0, debit := half },
        { account := Uuid.issue 1, credit := both }] true].map fun call =>
    { call, setting := { clock := .ok default } }

/-- The entry is accepted and posted, and no balances of the company can be read any more. -/
theorem reports_answer_false_of_overflow :
    ¬ ∀ (sessions : List Session) (company : Uuid) (range : DateRange) (clock : Clock),
      ∃ bs, ((Reports.balances company range).run clock { store := Store.after sessions }).1 =
        .ok bs := by
  intro h
  obtain ⟨bs, hbs⟩ := h debitsBeyondLimit ⟨1⟩ .all (.ok default)
  have hperm := ((Store.after debitsBeyondLimit).linesIn_perm ⟨1⟩ .all).filter
    fun l => l.account == Uuid.issue 0
  have debits : ((((Store.after debitsBeyondLimit).entries.filter fun e =>
      e.entry.company == ⟨1⟩ && e.isPosted && DateRange.all.holds e.entry.date).flatMap fun e =>
        e.entry.lines).filter fun l => l.account == Uuid.issue 0).map Line.debit =
      [.int 4611686018427387904, .int 4611686018427387904] := by decide +kernel
  have half : (Cell.int 4611686018427387904).stored = (4611686018427387904 : Int) :=
    Cell.stored_eq (by decide +kernel)
  have beyond : 2 ^ 63 ≤ Line.stored Line.debit
      (Line.on ((Store.after debitsBeyondLimit).linesIn ⟨1⟩ .all) (Uuid.issue 0)) := by
    rw [Line.on, Line.stored_perm Line.debit hperm, ← Line.sum_stored, debits]
    norm_num [half]
  have whole : ∀ l ∈ Line.on ((Store.after debitsBeyondLimit).linesIn ⟨1⟩ .all) (Uuid.issue 0),
      ∃ n, l.debit = .int n := by
    intro l hl
    have hmem := List.mem_map_of_mem (f := Line.debit) (hperm.subset hl)
    rw [debits] at hmem
    exact ⟨_, by simpa using hmem⟩
  have hfail := (reports_fail (w := { store := Store.after debitsBeyondLimit }) debitsBeyondLimit ⟨1⟩
    .all (Uuid.issue 0) (.inl rfl) whole beyond (.ok default) rfl rfl).1
  rw [hfail] at hbs
  cases hbs

end Bookkeeping
