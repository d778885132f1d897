import Bookkeeping.Proofs.DoubleValue
import Bookkeeping.Proofs.Lists
import Bookkeeping.Proofs.ReadBack

set_option autoImplicit false

/-! # Double entry

A stored entry is checked with the amounts as they are given, and read with the amounts as they are
stored. What is read is a valid double entry exactly when the cents that the given amounts become
still balance (`isDoubleEntry_iff`): amounts of whole cents below 2 ^ 46 do, fractions of a cent and
amounts that no double holds may not (`Store.after_doubleEntry`). -/

namespace Bookkeeping

open Decimal (WholeCents)
open Posting (OneSided)

/-! ## Double entries -/

/-- An entry is a valid double entry. The sums are those of the exact values of its amounts. -/
structure Entry.IsDoubleEntry (e : Entry Decimal) : Prop where
  oneSided : ∀ l ∈ e.lines, OneSided l.toPosting
  balanced : |(e.lines.map fun l => l.debit.value).sum - (e.lines.map fun l => l.credit.value).sum| ≤
    1 / 100
  debited : ∃ l ∈ e.lines, 0 < l.debit.value
  credited : ∃ l ∈ e.lines, 0 < l.credit.value

/-- Lines balance in the whole cents that their amounts become: no amount is too large for a double,
    and the cents of both sides are not zero and differ by at most one. -/
structure KeepsBalance (given : List (Line Decimal)) : Prop where
  finite : ∀ l ∈ given, (Binary64.ofDecimal l.debit).isFinite ∧ (Binary64.ofDecimal l.credit).isFinite
  balanced : |(given.map fun l => (Binary64.ofDecimal l.debit).cents).sum -
    (given.map fun l => (Binary64.ofDecimal l.credit).cents).sum| ≤ 1
  debited : ∃ l ∈ given, 0 < (Binary64.ofDecimal l.debit).cents
  credited : ∃ l ∈ given, 0 < (Binary64.ofDecimal l.credit).cents

/-- Lines of whole cents that doubles tell apart, with totals that amounts can hold. -/
structure AreCents (given : List (Line Decimal)) : Prop where
  debit : ∀ l ∈ given, WholeCents l.debit.value ∧ l.debit.value < 2 ^ 46
  credit : ∀ l ∈ given, WholeCents l.credit.value ∧ l.credit.value < 2 ^ 46
  debits : (given.map fun l => l.debit.value).sum < 10 ^ 26
  credits : (given.map fun l => l.credit.value).sum < 10 ^ 26

/-! ## Lines as they are read -/

/-- The sides of a line by the comparison of amounts, which also covers those that are not finite. -/
structure Line.KeepsSides (r : Line Decimal) : Prop where
  debit : r.debit.lt .zero = .ok false
  credit : r.credit.lt .zero = .ok false
  side : Decimal.zero.lt r.debit = .ok false ∨ Decimal.zero.lt r.credit = .ok false

/-- A line as it was given, and as it is read from the store. -/
structure Line.ReadsAs (l r : Line Decimal) : Prop where
  debit_finite : r.debit.isFinite = (Binary64.ofDecimal l.debit).isFinite
  debit : r.debit.value = (Binary64.ofDecimal l.debit).cents / 100
  credit_finite : r.credit.isFinite = (Binary64.ofDecimal l.credit).isFinite
  credit : r.credit.value = (Binary64.ofDecimal l.credit).cents / 100
  sides : OneSided l.toPosting → r.KeepsSides

variable {given : List (Line Decimal)} {cells : List (Line Cell)} {l r : Line Decimal}

theorem Line.StoredAs.readsAs {c : Line Cell} (h : l.StoredAs c) :
    l.ReadsAs (c.map Cell.toDecimal) := by
  obtain ⟨hdf, hdv⟩ := Cell.toDecimal_ofDecimal? h.debit
  obtain ⟨hcf, hcv⟩ := Cell.toDecimal_ofDecimal? h.credit
  refine ⟨hdf, hdv, hcf, hcv, fun side => ⟨?_, ?_, ?_⟩⟩
  · exact Cell.lt_zero_toDecimal h.debit side.finite.1 side.debit
  · exact Cell.lt_zero_toDecimal h.credit side.finite.2 side.credit
  · exact side.side.imp (Cell.zero_lt_toDecimal h.debit side.finite.1)
      (Cell.zero_lt_toDecimal h.credit side.finite.2)

/-- Stored lines are read one by one as what was given. -/
theorem storeLines_readsAs (h : storeLines given = some cells) :
    List.Forall₂ Line.ReadsAs given (cells.map (Line.map Cell.toDecimal)) := by
  rw [List.forall₂_map_right_iff]
  exact (storeLines_storedAs h).imp fun _ _ h => h.readsAs

theorem sum_eq_of_forall₂ {α β : Type} {R : α → β → Prop} {f : α → Int} {g : β → ℚ}
    {xs : List α} {ys : List β} (h : List.Forall₂ R xs ys) (hfg : ∀ {x y}, R x y → g y = f x / 100) :
    (ys.map g).sum = (xs.map f).sum / 100 := by
  induction h with
  | nil => simp
  | cons hxy _ ih =>
      rw [List.map_cons, List.sum_cons, List.map_cons, List.sum_cons, ih, hfg hxy]
      push_cast
      ring

/-! ## When what is read is a double entry -/

/-- A line that was one-sided as it was given is read as one-sided when its amounts fit doubles. -/
theorem Line.ReadsAs.oneSided_iff (h : l.ReadsAs r) (side : OneSided l.toPosting) :
    OneSided r.toPosting ↔
      (Binary64.ofDecimal l.debit).isFinite ∧ (Binary64.ofDecimal l.credit).isFinite := by
  constructor
  · intro hr
    exact ⟨h.debit_finite ▸ hr.finite.1, h.credit_finite ▸ hr.finite.2⟩
  · intro ⟨hd, hc⟩
    have hdebit : (0 : ℚ) ≤ (Binary64.ofDecimal l.debit).cents := by
      exact_mod_cast Binary64.cents_nonneg side.finite.1 side.debit
    have hcredit : (0 : ℚ) ≤ (Binary64.ofDecimal l.credit).cents := by
      exact_mod_cast Binary64.cents_nonneg side.finite.2 side.credit
    refine ⟨⟨h.debit_finite.trans hd, h.credit_finite.trans hc⟩, ?_, ?_, ?_⟩
    · rw [toPosting, h.debit]
      exact div_nonneg hdebit (by norm_num)
    · rw [toPosting, h.credit]
      exact div_nonneg hcredit (by norm_num)
    · rw [toPosting, h.debit, h.credit]
      refine side.side.imp (fun h0 => ?_) fun h0 => ?_
      · have hzero : (Binary64.ofDecimal l.debit).cents = 0 :=
          (Binary64.ofDecimal_of_zero side.finite.1 h0).2
        rw [hzero, Int.cast_zero, zero_div]
      · have hzero : (Binary64.ofDecimal l.credit).cents = 0 :=
          (Binary64.ofDecimal_of_zero side.finite.2 h0).2
        rw [hzero, Int.cast_zero, zero_div]

theorem cents_pos_iff {q : ℚ} {n : Int} (h : q = n / 100) : 0 < n ↔ 0 < q := by
  rw [h, lt_div_iff₀ (by norm_num), zero_mul]
  exact_mod_cast Iff.rfl

theorem cents_gap_iff {q r : ℚ} {m n : Int} (hq : q = m / 100) (hr : r = n / 100) :
    |m - n| ≤ 1 ↔ |q - r| ≤ 1 / 100 := by
  have hscale : q - r = ((m - n : Int) : ℚ) / 100 := by
    rw [hq, hr]
    push_cast
    ring
  rw [hscale, abs_div, abs_of_pos (by norm_num : (0 : ℚ) < 100),
    div_le_div_iff_of_pos_right (by norm_num)]
  exact_mod_cast Iff.rfl

theorem isDoubleEntry_iff {e : Entry Decimal} (h : List.Forall₂ Line.ReadsAs given e.lines)
    (side : ∀ l ∈ given, OneSided l.toPosting) : e.IsDoubleEntry ↔ KeepsBalance given := by
  -- each part of a double entry is a statement about lines that are related one by one
  have hfinite := forall_mem_iff_of_forall₂ ((List.forall₂_and_left _ _).mpr ⟨side, h⟩)
    fun h => (h.2.oneSided_iff h.1).symm
  have hbalanced := cents_gap_iff (sum_eq_of_forall₂ h Line.ReadsAs.debit)
    (sum_eq_of_forall₂ h Line.ReadsAs.credit)
  have hdebited := exists_mem_iff_of_forall₂ h fun h => cents_pos_iff h.debit
  have hcredited := exists_mem_iff_of_forall₂ h fun h => cents_pos_iff h.credit
  constructor
  · intro he
    exact ⟨hfinite.mpr he.oneSided, hbalanced.mpr he.balanced, hdebited.mpr he.debited,
      hcredited.mpr he.credited⟩
  · intro hk
    exact ⟨hfinite.mp hk.finite, hbalanced.mp hk.balanced, hdebited.mp hk.debited,
      hcredited.mp hk.credited⟩

/-! ## Whole cents -/

theorem sum_values {ls : List (Line Decimal)} {f : Line Decimal → Decimal} :
    (ls.map fun l => (f l).value).sum = ((ls.map f).map Decimal.value).sum := by
  rw [List.map_map]
  rfl

/-- Lines of whole cents that pass the check are read with the values that they were given with. -/
theorem AreCents.exact (h : AreCents given) (side : ∀ l ∈ given, OneSided l.toPosting) :
    ∀ l ∈ given, ((Binary64.ofDecimal l.debit).isFinite ∧
        l.debit.value = (Binary64.ofDecimal l.debit).cents / 100) ∧
      (Binary64.ofDecimal l.credit).isFinite ∧
        l.credit.value = (Binary64.ofDecimal l.credit).cents / 100 := by
  intro l hl
  obtain ⟨finite, debit, credit, -⟩ := side l hl
  obtain ⟨hdf, hdv⟩ := Binary64.cents_exact finite.1 (h.debit l hl).1 debit (h.debit l hl).2
  obtain ⟨hcf, hcv⟩ := Binary64.cents_exact finite.2 (h.credit l hl).1 credit (h.credit l hl).2
  exact ⟨⟨hdf, hdv.symm⟩, hcf, hcv.symm⟩

theorem exists_pos_of_sum_ne_zero {f : Line Decimal → ℚ} (nonneg : ∀ l ∈ given, 0 ≤ f l)
    (h : (given.map f).sum ≠ 0) : ∃ l ∈ given, 0 < f l := by
  by_contra hnone
  push Not at hnone
  refine h (List.sum_eq_zero fun q hq => ?_)
  obtain ⟨l, hl, rfl⟩ := List.mem_map.mp hq
  exact le_antisymm (hnone l hl) (nonneg l hl)

theorem AreCents.debits_eq (h : AreCents given) (side : ∀ l ∈ given, OneSided l.toPosting) :
    (given.map fun l => l.debit.value).sum =
      (given.map fun l => (Binary64.ofDecimal l.debit).cents).sum / 100 :=
  sum_eq_of_forall₂ (List.forall₂_same.mpr fun l hl => (h.exact side l hl).1.2) id

theorem AreCents.credits_eq (h : AreCents given) (side : ∀ l ∈ given, OneSided l.toPosting) :
    (given.map fun l => l.credit.value).sum =
      (given.map fun l => (Binary64.ofDecimal l.credit).cents).sum / 100 :=
  sum_eq_of_forall₂ (List.forall₂_same.mpr fun l hl => (h.exact side l hl).2.2) id

theorem AreCents.keepsBalance (h : AreCents given)
    (passed : Posting.Passed (given.map Line.toPosting)) : KeepsBalance given := by
  have side (l) (hl : l ∈ given) : OneSided l.toPosting := passed.oneSided (List.mem_map_of_mem hl)
  have hexact := h.exact side
  obtain ⟨hgap, hd0, hc0⟩ := passed.balanced
    (by simpa [Line.toPosting] using fun l hl => ⟨(h.debit l hl).1, (h.credit l hl).1⟩)
    (by simpa [Function.comp_def, Line.toPosting] using h.debits)
    (by simpa [Function.comp_def, Line.toPosting] using h.credits)
  rw [List.map_map] at hd0 hc0
  rw [List.map_map, List.map_map] at hgap
  refine ⟨fun l hl => ⟨(hexact l hl).1.1, (hexact l hl).2.1⟩, ?_, ?_, ?_⟩
  · exact (cents_gap_iff (h.debits_eq side) (h.credits_eq side)).mpr hgap
  · obtain ⟨l, hl, hpos⟩ := exists_pos_of_sum_ne_zero (fun l hl => (side l hl).debit) hd0
    exact ⟨l, hl, (cents_pos_iff (hexact l hl).1.2).mpr hpos⟩
  · obtain ⟨l, hl, hpos⟩ := exists_pos_of_sum_ne_zero (fun l hl => (side l hl).credit) hc0
    exact ⟨l, hl, (cents_pos_iff (hexact l hl).2.2).mpr hpos⟩

/-- The check of an entry itself is exact for totals that amounts can hold. -/
theorem Entry.isBalanced_eq {e : Entry Decimal} (side : ∀ l ∈ e.lines, OneSided l.toPosting)
    (whole : ∀ l ∈ e.lines, WholeCents l.debit.value ∧ WholeCents l.credit.value)
    (hd : (e.lines.map fun l => l.debit.value).sum < 10 ^ 26)
    (hc : (e.lines.map fun l => l.credit.value).sum < 10 ^ 26) :
    e.isBalanced = .ok (decide (|(e.lines.map fun l => l.debit.value).sum -
      (e.lines.map fun l => l.credit.value).sum| ≤ 1 / 100)) := by
  obtain ⟨d, hdebit, hdf, hdw, hdn, hdv⟩ := Decimal.sum_exact (f := Line.debit)
    (fun l hl => (side l hl).finite.1) (fun l hl => (whole l hl).1) (fun l hl => (side l hl).debit) hd
  obtain ⟨c, hcredit, hcf, hcw, hcn, hcv⟩ := Decimal.sum_exact (f := Line.credit)
    (fun l hl => (side l hl).finite.2) (fun l hl => (whole l hl).2) (fun l hl => (side l hl).credit) hc
  obtain ⟨x, y, hx, hy, hyf, hyv⟩ :=
    Decimal.gap_exact hdf hcf hdw hcw hdn hcn (hdv ▸ hd) (hcv ▸ hc)
  have htolerance : withinTolerance d c = y.le .cent := by
    rw [withinTolerance, hx]
    change (x.abs >>= fun gap => gap.le .cent) = _
    rw [hy]
    rfl
  have htotal : e.isBalanced = withinTolerance d c := by
    rw [isBalanced, totalDebit, hdebit, totalCredit, hcredit]
    rfl
  rw [htotal, htolerance, Decimal.le_finite hyf rfl, Decimal.value_cent, hyv, hdv, hcv]

/-! ## Entries of a run -/

/-- Lines of whole cents are read with totals whose balance the entry itself sees. -/
theorem AreCents.isBalanced (h : AreCents given) (side : ∀ l ∈ given, OneSided l.toPosting)
    {e : Entry Decimal} (read : List.Forall₂ Line.ReadsAs given e.lines) (he : e.IsDoubleEntry) :
    e.isBalanced = .ok true := by
  have hdebit : (e.lines.map fun l => l.debit.value).sum < 10 ^ 26 := by
    rw [sum_eq_of_forall₂ read Line.ReadsAs.debit, ← h.debits_eq side]
    exact h.debits
  have hcredit : (e.lines.map fun l => l.credit.value).sum < 10 ^ 26 := by
    rw [sum_eq_of_forall₂ read Line.ReadsAs.credit, ← h.credits_eq side]
    exact h.credits
  have hwhole : ∀ r ∈ e.lines, WholeCents r.debit.value ∧ WholeCents r.credit.value :=
    forall_mem_of_forall₂ read fun h => ⟨⟨_, h.debit⟩, ⟨_, h.credit⟩⟩
  rw [Entry.isBalanced_eq he.oneSided hwhole hdebit hcredit, decide_eq_true he.balanced]

/-- A stored entry is read, alone and in the list of its company, with one-sided lines that are not
    negative. It is a valid double entry exactly when the lines that were given last still balance in
    the cents that they become, which lines of whole cents do. -/
theorem Store.after_doubleEntry (sessions : List Session) {a : StoredEntry}
    (ha : a ∈ (Store.after sessions).entries) :
    a.ReadIn (Store.after sessions) a.shown ∧ (∀ l ∈ a.shown.lines, l.KeepsSides) ∧
      ∃ given, History.linesOf (History.of sessions) a.entry.id = some given ∧
        (a.shown.IsDoubleEntry ↔ KeepsBalance given) ∧
        (AreCents given → a.shown.IsDoubleEntry ∧ a.shown.isBalanced = .ok true) := by
  -- the amounts that were given last are those that were checked and those that were stored
  obtain ⟨given, last, stored, passed⟩ := after_written sessions a ha
  have side (l) (hl : l ∈ given) : OneSided l.toPosting := passed.oneSided (List.mem_map_of_mem hl)
  have hread : List.Forall₂ Line.ReadsAs given a.shown.lines := storeLines_readsAs stored
  have hiff := isDoubleEntry_iff hread side
  refine ⟨(after_sound sessions).readIn ha, ?_, given, last, hiff, fun cents => ?_⟩
  · exact forall_mem_of_forall₂ ((List.forall₂_and_left _ _).mpr ⟨side, hread⟩)
      fun h => h.2.sides h.1
  · have hentry := hiff.mpr (cents.keepsBalance passed)
    exact ⟨hentry, cents.isBalanced side hread hentry⟩

/-- A company opens two accounts and moves 100.00 from the second to the first. -/
def movesHundred : List Session :=
  [Session.opensTwoAccounts.call, .moving firstDay (.finite false 10000 (-2)) true].map fun call =>
    { call, setting := { clock := .ok default } }

/-- What is read of the only entry is a double entry, because its amounts are whole cents. -/
theorem Store.after_doubleEntry_movesHundred :
    ∃ a ∈ (Store.after movesHundred).entries, a.ReadIn (Store.after movesHundred) a.shown ∧
      a.shown.IsDoubleEntry ∧ a.shown.isBalanced = .ok true := by
  have ids : (Store.after movesHundred).entries.map (fun a => a.entry.id) = [Uuid.issue 2] := by
    decide +kernel
  have given : History.linesOf (History.of movesHundred) (Uuid.issue 2) =
      some [⟨Uuid.issue 0, 1, .finite false 10000 (-2), .zero, none⟩,
        ⟨Uuid.issue 1, 2, .zero, .finite false 10000 (-2), none⟩] := by
    decide +kernel
  have hundred : (Decimal.finite false 10000 (-2)).value = 100 := by
    norm_num [Decimal.value_finite]
  have whole : WholeCents 100 := ⟨10000, by norm_num⟩
  obtain ⟨a, rest, hentries, hid, -⟩ := List.map_eq_cons_iff.mp ids
  have ha : a ∈ (Store.after movesHundred).entries := by simp [hentries]
  obtain ⟨hread, -, lines, hlines, -, hcents⟩ := Store.after_doubleEntry movesHundred ha
  rw [hid, given] at hlines
  cases hlines
  refine ⟨a, ha, hread, hcents ⟨?_, ?_, ?_, ?_⟩⟩
  · norm_num [hundred, whole, WholeCents.zero]
  · norm_num [hundred, whole, WholeCents.zero]
  · norm_num [hundred]
  · norm_num [hundred]

/-- A company opens two accounts and debits 0.03 to the first, credited to the second in five parts of
    0.006. -/
def movesFractions : List Session :=
  let part : PostingLine := { account := Uuid.issue 1, credit := .finite false 6 (-3) }
  let lines := { account := Uuid.issue 0, debit := .finite false 3 (-2) } :: List.replicate 5 part
  [Session.opensTwoAccounts.call,
    .createEntry { company := ⟨1⟩, date := firstDay, createdBy := "clerk" } lines true].map fun call =>
      { call, setting := { clock := .ok default } }

/-- Each part is read as one cent, so 0.03 is debited and 0.05 credited. -/
theorem doubleEntry_false_of_fractions :
    ¬ ∀ (sessions : List Session) (x : Session) (id : Uuid) (e : Entry Decimal),
      x.call = .getEntry id → (x.run (Store.after sessions)).1 = .ok (.entry e) →
        e.IsDoubleEntry := by
  intro h
  have shown : (Store.after movesFractions).entries.map (fun a =>
      (a.shown.lines.map Line.debit, a.shown.lines.map Line.credit)) =
      [(.finite false 3 (-2) :: List.replicate 5 (.finite false 0 (-2)),
        .finite false 0 (-2) :: List.replicate 5 (.finite false 1 (-2)))] := by
    decide +kernel
  obtain ⟨a, rest, hentries, hlines, -⟩ := List.map_eq_cons_iff.mp shown
  obtain ⟨hdebits, hcredits⟩ := Prod.mk.inj hlines
  have ha : a ∈ (Store.after movesFractions).entries := by simp [hentries]
  let x : Session := { call := .getEntry a.entry.id, setting := { clock := .ok default } }
  have hentry := h movesFractions x a.entry.id a.shown rfl
    (x.run_getEntry (Store.after_sound movesFractions) ha rfl)
  have hbalanced := hentry.balanced
  rw [sum_values, sum_values, hdebits, hcredits] at hbalanced
  norm_num [Decimal.value_finite, List.replicate] at hbalanced

end Bookkeeping
