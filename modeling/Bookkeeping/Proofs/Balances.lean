import Bookkeeping.Proofs.Integrity
import Bookkeeping.Proofs.WrittenAmounts
import Bookkeeping.Reports

set_option autoImplicit false

/-! # Balances

In a store that sums its amounts exactly, the balances of a company can be read for every range; they
list each account of the company once, with the totals of its posted lines in the range
(`Store.Exact.balances`). Amounts that are read are told by their values (`Decimal.Holds`), totals of
lines by the values of what is stored (`Line.total`). -/

namespace Bookkeeping

open Decimal (WholeCents)

variable {clock : Clock} {w : World} {s : Store}

/-! ## Reading calls -/

namespace Procedure

variable {α β : Type} {p : Procedure α} {f : α → Procedure β} {a : α} {b : β}

/-- The call answers `a` and leaves the world as it is. -/
def Looks (clock : Clock) (w : World) (p : Procedure α) (a : α) : Prop :=
  p.exec clock w = (.ok a, w)

theorem run_of_exec {r : Except Failure α} (h : p.exec clock w = (r, w)) (idle : w.pending = none) :
    p.run clock w = (r, w) := by
  have hroll : w.rollback = w := by
    rw [World.rollback, ← idle]
  rw [Procedure.run, h]
  exact congrArg (Prod.mk _) hroll

theorem Looks.run (h : p.Looks clock w a) (idle : w.pending = none) :
    p.run clock w = (.ok a, w) := run_of_exec h idle

theorem looks_ofAmount {x : Except Decimal.Fault α} (h : x = .ok a) :
    (ofAmount x).Looks clock w a := by
  rw [h]
  rfl

theorem exec_perform {op : Op} {r : Except Failure op.Result} (idle : w.pending = none)
    (h : op.perform clock w = (r, w)) : (perform op).exec clock w = (r, w) := by
  unfold perform exec Op.exec
  rw [idle, h]
  rfl

theorem looks_perform {op : Op} {a : op.Result} (idle : w.pending = none)
    (h : op.perform clock w = (.ok a, w)) : (perform op).Looks clock w a := exec_perform idle h

theorem exec_bind (p : Procedure α) (f : α → Procedure β) (w : World) :
    (p >>= f).exec clock w =
      match p.exec clock w with
      | (.ok a, w') => (f a).exec clock w'
      | (.error e, w') => (.error e, w') := by
  induction p generalizing w with
  | done r =>
      cases r with
      | ok a => rfl
      | error e => rfl
  | note r rest ih => exact ih (w.note r)
  | step op rest ih => exact ih (op.exec clock w).1 (op.exec clock w).2

theorem exec_bind_ok {v : World} (h : p.exec clock w = (.ok a, v)) :
    (p >>= f).exec clock w = (f a).exec clock v := by
  rw [exec_bind, h]

theorem exec_bind_error {e : Failure} {v : World} (h : p.exec clock w = (.error e, v)) :
    (p >>= f).exec clock w = (.error e, v) := by
  rw [exec_bind, h]

/-- What comes next depends on what a procedure comes to, not on how. -/
theorem exec_bind_congr {q : Procedure α} {v : World} (h : p.exec clock w = q.exec clock v) :
    (p >>= f).exec clock w = (q >>= f).exec clock v := by
  rw [exec_bind, exec_bind, h]

theorem Looks.bind (hp : p.Looks clock w a) (hf : (f a).Looks clock w b) :
    (p >>= f).Looks clock w b :=
  (exec_bind_ok hp).trans hf

end Procedure

/-! ## Values of amounts -/

namespace Decimal

variable {x y : Decimal} {q r : ℚ}

/-- The amount is a number with this value. -/
structure Holds (x : Decimal) (q : ℚ) : Prop where
  finite : x.isFinite
  value : x.value = q

theorem Holds.zero : Decimal.zero.Holds 0 := ⟨rfl, value_zero⟩

/-- Amounts with one value are equal. -/
theorem Holds.eq (hx : x.Holds q) (hy : y.Holds q) : x.eq y = .ok true := by
  obtain ⟨s, c₁, e₁, rfl⟩ := isFinite_iff.mp hx.finite
  obtain ⟨t, c₂, e₂, rfl⟩ := isFinite_iff.mp hy.finite
  rw [Decimal.eq, compare?_finite, hx.value, hy.value, compare_eq_iff_eq.mpr rfl]
  rfl

theorem Holds.add (hx : x.Holds q) (hy : y.Holds r) (hq : IsCents q) (hr : IsCents r)
    (h : IsCents (q + r)) : ∃ z, x.add y = .ok z ∧ z.Holds (q + r) := by
  obtain ⟨hxf, rfl⟩ := hx
  obtain ⟨hyf, rfl⟩ := hy
  obtain ⟨z, hz, hzf, hzv⟩ := add_exact hxf hyf hq hr h
  exact ⟨z, hz, hzf, hzv⟩

theorem Holds.neg (hx : x.Holds q) (h : IsCents q) : ∃ z, x.neg = .ok z ∧ z.Holds (-q) := by
  obtain ⟨s, c, e, rfl⟩ := isFinite_iff.mp hx.finite
  have hvalue : (Decimal.finite (if c = 0 then false else !s) c e).value = -q := by
    rw [← hx.value, ← value_flipSign, flipSign]
    split
    · next hc => simp [hc, value_finite]
    · rfl
  obtain ⟨z, hz, hzf, hzv⟩ := fit_exact (hvalue ▸ h.neg)
  exact ⟨z, hz, hzf, hzv.trans hvalue⟩

/-! ### Totals -/

/-- Whole cents that are not negative and within the digits of amounts. -/
structure TotalCents (q : ℚ) : Prop where
  whole : WholeCents q
  nonneg : 0 ≤ q
  lt : q < 10 ^ 26

namespace TotalCents

theorem zero : TotalCents 0 := ⟨.zero, le_rfl, by norm_num⟩

theorem isCents (h : TotalCents q) : IsCents q := by
  refine ⟨h.whole, ?_⟩
  rw [abs_of_nonneg h.nonneg]
  exact h.lt

theorem sub (hq : TotalCents q) (hr : TotalCents r) : IsCents (q - r) :=
  ⟨hq.whole.sub hr.whole, abs_sub_lt_of_nonneg_of_lt hq.nonneg hq.lt hr.nonneg hr.lt⟩

theorem add (hq : TotalCents q) (hr : TotalCents r) (hlt : q + r < 10 ^ 26) : TotalCents (q + r) :=
  ⟨hq.whole.add hr.whole, add_nonneg hq.nonneg hr.nonneg, hlt⟩

/-- What remains of a total when another is taken off. -/
theorem net (hq : TotalCents q) (hr : TotalCents r) : TotalCents (max (q - r) 0) := by
  refine ⟨?_, le_max_right _ _, max_lt ?_ zero.lt⟩
  · rcases max_choice (q - r) 0 with h | h
    · rw [h]
      exact hq.whole.sub hr.whole
    · rw [h]
      exact .zero
  · exact (sub_le_self q hr.nonneg).trans_lt hq.lt

theorem sum_nonneg {α : Type} {as : List α} {f : α → ℚ} (h : ∀ a ∈ as, TotalCents (f a)) :
    0 ≤ (as.map f).sum := by
  refine List.sum_nonneg fun q hq => ?_
  obtain ⟨a, ha, rfl⟩ := List.mem_map.mp hq
  exact (h a ha).nonneg

end TotalCents

/-- The amount is a number with this value, a total. -/
structure HoldsTotal (x : Decimal) (q : ℚ) : Prop extends x.Holds q where
  total : TotalCents q

theorem HoldsTotal.zero : Decimal.zero.HoldsTotal 0 := ⟨.zero, .zero⟩

/-- A total holds its own value. -/
theorem HoldsTotal.self (hx : x.HoldsTotal q) : x.HoldsTotal x.value := by
  rw [hx.value]
  exact hx

theorem HoldsTotal.add (hx : x.HoldsTotal q) (hy : y.HoldsTotal r) (hlt : q + r < 10 ^ 26) :
    ∃ z, x.add y = .ok z ∧ z.HoldsTotal (q + r) := by
  have htotal := hx.total.add hy.total hlt
  obtain ⟨z, hz, hzv⟩ := hx.toHolds.add hy.toHolds hx.total.isCents hy.total.isCents htotal.isCents
  exact ⟨z, hz, hzv, htotal⟩

/-- Totals that stay small together can be added up. -/
theorem sum_holdsTotal {α : Type} {as : List α} {f : α → Decimal}
    (each : ∀ a ∈ as, (f a).HoldsTotal (f a).value)
    (hlt : (as.map fun a => (f a).value).sum < 10 ^ 26) :
    ∃ z, Decimal.sum (as.map f) = .ok z ∧ z.HoldsTotal (as.map fun a => (f a).value).sum := by
  obtain ⟨z, hz, hfinite, hwhole, hnonneg, hvalue⟩ := Decimal.sum_exact
    (fun a ha => (each a ha).finite) (fun a ha => (each a ha).total.whole)
    (fun a ha => (each a ha).total.nonneg) hlt
  rw [← hvalue] at hlt ⊢
  exact ⟨z, hz, ⟨hfinite, rfl⟩, hwhole, hnonneg, hlt⟩

/-- Totals can be taken off each other. -/
theorem HoldsTotal.sub (hx : x.HoldsTotal q) (hy : y.HoldsTotal r) :
    ∃ z, x.sub y = .ok z ∧ z.Holds (q - r) := by
  obtain ⟨⟨hxf, rfl⟩, hq⟩ := hx
  obtain ⟨⟨hyf, rfl⟩, hr⟩ := hy
  obtain ⟨z, hz, hzf, hzv⟩ := sub_exact hxf hyf hq.isCents hr.isCents (hq.sub hr)
  exact ⟨z, hz, hzf, hzv⟩

end Decimal

open Decimal (TotalCents)

/-! ### Balances of totals -/

namespace AccountType

variable {t : AccountType} {x y : Decimal} {d c d' c' : ℚ}

/-- A movement of the normal balance, as a value. -/
def movement (t : AccountType) (debit credit : ℚ) : ℚ :=
  if t.isDebitNormal then debit - credit else credit - debit

theorem movement_add (t : AccountType) (d c d' c' : ℚ) :
    t.movement (d + d') (c + c') = t.movement d c + t.movement d' c' := by
  unfold movement
  split <;> ring

theorem movement_isCents (t : AccountType) (hd : TotalCents d) (hc : TotalCents c) :
    Decimal.IsCents (t.movement d c) := by
  unfold movement
  split
  · exact hd.sub hc
  · exact hc.sub hd

/-- The amount is the balance of these totals. -/
structure IsBalance (t : AccountType) (x : Decimal) (debit credit : ℚ) : Prop where
  holds : x.Holds (t.movement debit credit)
  debit : TotalCents debit
  credit : TotalCents credit

theorem signedMovement_isBalance (t : AccountType) (hx : x.HoldsTotal d) (hy : y.HoldsTotal c) :
    ∃ m, t.signedMovement x y = .ok m ∧ t.IsBalance m d c := by
  have hmovement : ∃ m, t.signedMovement x y = .ok m ∧ m.Holds (t.movement d c) := by
    unfold signedMovement movement
    split
    · exact hx.sub hy
    · exact hy.sub hx
  obtain ⟨m, hm, hvalue⟩ := hmovement
  exact ⟨m, hm, hvalue, hx.total, hy.total⟩

/-- Two balances come to the balance of the sums. -/
theorem IsBalance.add (hx : t.IsBalance x d c) (hy : t.IsBalance y d' c') (debit : d + d' < 10 ^ 26)
    (credit : c + c' < 10 ^ 26) : ∃ z, x.add y = .ok z ∧ t.IsBalance z (d + d') (c + c') := by
  have hd := hx.debit.add hy.debit debit
  have hc := hx.credit.add hy.credit credit
  have hsum := t.movement_isCents hd hc
  rw [movement_add] at hsum
  obtain ⟨z, hz, hvalue⟩ := hx.holds.add hy.holds (t.movement_isCents hx.debit hx.credit)
    (t.movement_isCents hy.debit hy.credit) hsum
  rw [← movement_add] at hvalue
  exact ⟨z, hz, hvalue, hd, hc⟩

end AccountType

/-! ## Totals of lines -/

/-- The total of stored lines on one side. -/
def Line.total (side : Line Cell → Cell) (ls : List (Line Cell)) : ℚ :=
  (ls.map fun l => (side l).amount).sum

namespace Line

variable {side : Line Cell → Cell} {ls ls' : List (Line Cell)}

@[simp] theorem total_nil : total side [] = 0 := rfl

@[simp] theorem total_append (ls ls' : List (Line Cell)) :
    total side (ls ++ ls') = total side ls + total side ls' := by
  rw [total, List.map_append, List.sum_append, total, total]

theorem total_perm (h : ls.Perm ls') : total side ls = total side ls' := (h.map _).sum_eq

end Line

/-- The lines on an account. -/
def Line.on (ls : List (Line Cell)) (id : Uuid) : List (Line Cell) := ls.filter fun l => l.account == id

/-- One of the two sides of a line. -/
def Line.IsSide (side : Line Cell → Cell) : Prop := side = Line.debit ∨ side = Line.credit

namespace Store

variable {side : Line Cell → Cell} {ls : List (Line Cell)}

theorem Exact.keptSide (h : s.Exact) (hside : Line.IsSide side) :
    Cell.KeptExactly (s.lines.map side) := by
  rcases hside with rfl | rfl
  · exact h.debits
  · exact h.credits

theorem Exact.kept (h : s.Exact) (hside : Line.IsSide side) (sub : ls.Subperm s.lines) :
    Cell.KeptExactly (ls.map side) := by
  obtain ⟨chosen, hperm, hsub⟩ := sub
  exact (h.keptSide hside).subperm ⟨chosen.map side, hperm.map side, hsub.map side⟩

theorem Exact.totalCents (h : s.Exact) (hside : Line.IsSide side) (sub : ls.Subperm s.lines) :
    TotalCents (Line.total side ls) := by
  have hkept := h.kept hside sub
  have hfacts := hkept.sum_facts
  have hlt := hkept.sum_lt
  rw [List.map_map] at hfacts hlt
  exact ⟨hfacts.1, hfacts.2, hlt.trans (by norm_num)⟩

/-- Every stored amount is read as a total. -/
theorem Exact.readsTotal (h : s.Exact) (hside : Line.IsSide side) (sub : ls.Subperm s.lines) :
    ∀ l ∈ ls, (side l).toDecimal.HoldsTotal (side l).toDecimal.value := by
  intro l hl
  have hone : ([l] : List (Line Cell)).Subperm s.lines :=
    (List.singleton_sublist.mpr hl).subperm.trans sub
  have htotal := h.totalCents hside hone
  rw [Line.total, List.map_singleton, List.sum_singleton] at htotal
  exact ⟨⟨((h.kept hside hone).each (c := side l) (by simp)).1, rfl⟩, htotal⟩

/-- Sums of stored lines can be read, with their totals. -/
theorem Exact.sumLines (h : s.Exact) (sub : ls.Subperm s.lines) :
    ∃ d c, sumLines ls = .ok (d, c) ∧ d.HoldsTotal (Line.total Line.debit ls) ∧
      c.HoldsTotal (Line.total Line.credit ls) := by
  obtain ⟨d, hd, hdf, hdv⟩ := (h.kept (.inl rfl) sub).sum
  obtain ⟨c, hc, hcf, hcv⟩ := (h.kept (.inr rfl) sub).sum
  rw [List.map_map] at hdv hcv
  refine ⟨d, c, ?_, ⟨⟨hdf, hdv⟩, h.totalCents (.inl rfl) sub⟩, ⟨hcf, hcv⟩, h.totalCents (.inr rfl) sub⟩
  rw [Store.sumLines, hd, hc]
  rfl

/-! ## Posted lines of a company -/

/-- The posted lines of a company in a range. -/
def linesIn (s : Store) (company : Uuid) (range : DateRange) : List (Line Cell) :=
  (s.postedEntries company range).flatMap fun e => e.entry.lines

theorem flatMap_subperm {es : List StoredEntry} (sub : es.Subperm s.entries)
    {f : StoredEntry → List (Line Cell)} (hf : ∀ e, (f e).Sublist e.entry.lines) :
    (es.flatMap f).Subperm s.lines := by
  obtain ⟨chosen, hperm, hsub⟩ := sub
  refine (hperm.flatMap_right f).symm.subperm.trans (List.Sublist.subperm ?_)
  exact (hsub.flatMap f).trans (.flatMap_right _ fun e _ => hf e)

theorem postedEntries_subperm (company : Uuid) (range : DateRange) :
    (s.postedEntries company range).Subperm s.entries :=
  (List.mergeSort_perm _ _).subperm.trans List.filter_sublist.subperm

theorem linesIn_subperm (company : Uuid) (range : DateRange) :
    (s.linesIn company range).Subperm s.lines :=
  flatMap_subperm (postedEntries_subperm company range) fun _ => List.Sublist.refl _

/-- Lines can be summed account by account, and what is read as the sums of an account satisfies `R`. -/
structure Sums (ls : List (Line Cell)) (R : Uuid → Decimal → Decimal → Prop) : Prop where
  read : ∀ id, ∃ d c, sumLines (Line.on ls id) = .ok (d, c) ∧ R id d c
  /-- An account without lines has no totals, which are as good as zeros. -/
  empty : ∀ id, Line.on ls id = [] → R id .zero .zero
  totals : ∀ {id d c}, R id d c → d.HoldsTotal d.value ∧ c.HoldsTotal c.value

/-- The totals of the accounts with posted lines can be read. -/
theorem Sums.postedTotals {R : Uuid → Decimal → Decimal → Prop} {company : Uuid} {range : DateRange}
    (h : Sums (s.linesIn company range) R) :
    ∃ totals, s.postedTotals company range = .ok totals ∧
      (∀ t ∈ totals, R t.account t.debit t.credit) ∧
      ∀ l ∈ s.linesIn company range, ∃ t ∈ totals, t.account = l.account := by
  refine (mapM_ok (accountsInLines (s.linesIn company range))
    (R := fun a t => t.account = a ∧ R t.account t.debit t.credit) fun a _ => ?_).imp
      fun totals h => ⟨h.1, fun t ht => ?_, fun l hl => ?_⟩
  · obtain ⟨d, c, hsum, hdc⟩ := h.read a
    refine ⟨⟨a, d, c⟩, ?_, rfl, hdc⟩
    rw [Line.on, linesIn] at hsum
    rw [hsum]
    rfl
  · obtain ⟨a, -, hat⟩ := exists_left_of_forall₂ h.2 ht
    exact hat.2
  · have hmem : l.account ∈ accountsInLines (s.linesIn company range) :=
      List.mem_eraseDups.mpr (List.mem_map_of_mem hl)
    obtain ⟨t, ht, hat⟩ := exists_right_of_forall₂ h.2 hmem
    exact ⟨t, ht, hat.1⟩

/-- What is read as the sums of an account in an exact store holds their totals. -/
theorem Exact.sums (h : s.Exact) (company : Uuid) (range : DateRange) :
    Sums (s.linesIn company range) fun id d c =>
      d.HoldsTotal (Line.total Line.debit (Line.on (s.linesIn company range) id)) ∧
        c.HoldsTotal (Line.total Line.credit (Line.on (s.linesIn company range) id)) := by
  refine ⟨fun id => ?_, fun id hnone => ?_, fun ⟨hd, hc⟩ => ⟨hd.self, hc.self⟩⟩
  · exact h.sumLines (List.filter_sublist.subperm.trans (s.linesIn_subperm company range))
  · rw [hnone]
    exact ⟨.zero, .zero⟩

end Store

/-! ## Balances of accounts -/

namespace Store

theorem mem_accountsOf {company : Uuid} {a : Account} :
    a ∈ s.accountsOf company true ↔ a ∈ s.accounts ∧ a.company = company := by
  rw [accountsOf, companyAccounts, List.mem_mergeSort, List.mem_filter]
  simp

theorem Chartered.accountsOf_nodup (h : s.Chartered) (company : Uuid) :
    ((s.accountsOf company true).map Account.id).Nodup := by
  rw [accountsOf, companyAccounts, ((List.mergeSort_perm _ _).map Account.id).nodup_iff]
  exact h.ids_nodup.sublist (List.filter_sublist.map _)

end Store

/-- The balance of an account over these lines. -/
structure Reports.AccountBalance.Of (ls : List (Line Cell)) (b : Reports.AccountBalance) : Prop where
  debit : b.debit.HoldsTotal (Line.total Line.debit (Line.on ls b.account.id))
  credit : b.credit.HoldsTotal (Line.total Line.credit (Line.on ls b.account.id))
  balance : b.account.type.IsBalance b.balance (Line.total Line.debit (Line.on ls b.account.id))
    (Line.total Line.credit (Line.on ls b.account.id))

/-- The balance of an account can be told from the totals of a company. An account without totals has no
    lines. -/
theorem Store.Sums.balanceOf {R : Uuid → Decimal → Decimal → Prop} {ls : List (Line Cell)}
    {totals : List Store.AccountTotals} (h : Store.Sums ls R)
    (each : ∀ t ∈ totals, R t.account t.debit t.credit)
    (all : ∀ l ∈ ls, ∃ t ∈ totals, t.account = l.account) (a : Account) :
    ∃ b, Reports.balanceOf totals a = .ok b ∧ b.account = a ∧ R b.account.id b.debit b.credit ∧
      b.account.type.IsBalance b.balance b.debit.value b.credit.value := by
  have balance {d c : Decimal} (hdc : R a.id d c) :
      ∃ m, a.type.signedMovement d c = .ok m ∧ a.type.IsBalance m d.value c.value :=
    a.type.signedMovement_isBalance (h.totals hdc).1 (h.totals hdc).2
  unfold Reports.balanceOf
  cases hfind : totals.find? fun t => t.account == a.id with
  | some t =>
      have hid : t.account = a.id := by simpa using List.find?_some hfind
      have hdc := each t (List.mem_of_find?_eq_some hfind)
      rw [hid] at hdc
      obtain ⟨m, hm, hbalance⟩ := balance hdc
      exact ⟨⟨a, m, t.debit, t.credit⟩, by simp [hm], rfl, hdc, hbalance⟩
  | none =>
      have hnone : Line.on ls a.id = [] := by
        rw [Line.on, List.filter_eq_nil_iff]
        intro l hl hla
        obtain ⟨t, ht, htl⟩ := all l hl
        have hne := List.find?_eq_none.mp hfind t ht
        exact hne (by rw [htl]; exact hla)
      have hdc := h.empty a.id hnone
      obtain ⟨m, hm, hbalance⟩ := balance hdc
      exact ⟨⟨a, m, .zero, .zero⟩, by simp [hm], rfl, hdc, hbalance⟩

/-- When the posted lines of a company in a range can be summed, its balances can be read: each of its
    accounts once, with what is read as its sums. -/
theorem Store.Sums.balances {R : Uuid → Decimal → Decimal → Prop} {company : Uuid} {range : DateRange}
    (h : Store.Sums (s.linesIn company range) R) (clock : Clock) (hw : w.store = s)
    (idle : w.pending = none) :
    ∃ bs, (Reports.balances company range).Looks clock w bs ∧
      bs.map (fun b => b.account) = s.accountsOf company true ∧
      ∀ b ∈ bs, R b.account.id b.debit b.credit ∧
        b.account.type.IsBalance b.balance b.debit.value b.credit.value := by
  subst hw
  obtain ⟨totals, htotals, each, all⟩ := h.postedTotals
  obtain ⟨bs, hbs, hall⟩ := mapM_ok (w.store.accountsOf company true)
    (f := Reports.balanceOf totals) fun a _ => h.balanceOf each all a
  refine ⟨bs, ?_, ?_, fun b hb => ?_⟩
  · have haccounts : (Procedure.perform (.accountsOf company true)).Looks clock w
        (w.store.accountsOf company true) := Procedure.looks_perform idle rfl
    have hread : (Procedure.perform (.postedTotals company range)).Looks clock w totals :=
      Procedure.looks_perform idle (congrArg (·, w) htotals)
    exact haccounts.bind (hread.bind (Procedure.looks_ofAmount hbs))
  · have hmap := map_eq_of_forall₂ (f := id) (g := fun b => b.account) hall fun a _ b hab => hab.1
    rwa [List.map_id] at hmap
  · obtain ⟨a, -, hab⟩ := exists_left_of_forall₂ hall hb
    exact hab.2

/-- The balances of a company in a range can be read from an exact store, with the totals of its posted
    lines. -/
theorem Store.Exact.balances (h : s.Exact) (clock : Clock) (hw : w.store = s) (idle : w.pending = none)
    (company : Uuid) (range : DateRange) :
    ∃ bs, (Reports.balances company range).Looks clock w bs ∧
      bs.map (fun b => b.account) = s.accountsOf company true ∧
      ∀ b ∈ bs, b.Of (s.linesIn company range) := by
  obtain ⟨bs, hbs, haccounts, hall⟩ := (h.sums company range).balances clock hw idle
  refine ⟨bs, hbs, haccounts, fun b hb => ?_⟩
  obtain ⟨⟨hdebit, hcredit⟩, hbalance⟩ := hall b hb
  rw [hdebit.value, hcredit.value] at hbalance
  exact ⟨hdebit, hcredit, hbalance⟩

end Bookkeeping
