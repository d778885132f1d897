import Bookkeeping.Proofs.PostingVerdict

set_option autoImplicit false

/-! # When amounts cannot be computed with

The check of double entry refuses lines with errors of the ledger, and it may fail in another way: a
running total has no result, or the difference of both totals has none. That happens exactly when the
amounts do not add up as far as the check comes (`AddsUp`, `check_faultsUnless`), and never with fewer
than `10 ^ 28` finite amounts of at most `10 ^ 27` (`addsUp_of_le`). -/

namespace Bookkeeping

/-! ## Failures that are answered -/

/-- The failure has a status of its own: a rule of the ledger was broken, told by its family, or a value
    lies outside its domain. -/
def Failure.Answerable : Failure → Prop
  | .ledger e => e.kind ≠ .ledger
  | .value _ => True
  | _ => False

/-- The result is a value or an answerable failure where `A` holds. Where not, amounts cannot be computed
    with, or there are more accounts than one statement takes. Where `A` holds, a number may still be
    missing, but only if `L` does: then its day cannot be searched for numbers. -/
inductive FaultsUnless {α : Type} (A L : Prop) : Except Failure α → Prop where
  | ok (a : α) (h : A) : FaultsUnless A L (.ok a)
  | refused {f : Failure} (answerable : f.Answerable) (h : A) : FaultsUnless A L (.error f)
  | unnumbered (long : L) (h : A) : FaultsUnless A L (.error Store.longPattern)
  | fault (f : Decimal.Fault) (h : ¬ A) : FaultsUnless A L (.error (.amount f))
  | crowded (h : ¬ A) : FaultsUnless A L (.error Store.tooManyValues)

namespace FaultsUnless

variable {α : Type} {A B L : Prop} {r : Except Failure α}

theorem congr (h : FaultsUnless A L r) (iff : A ↔ B) : FaultsUnless B L r := by
  cases h with
  | ok a h => exact .ok a (iff.mp h)
  | refused answerable h => exact .refused answerable (iff.mp h)
  | unnumbered long h => exact .unnumbered long (iff.mp h)
  | fault f h => exact .fault f (mt iff.mpr h)
  | crowded h => exact .crowded (mt iff.mpr h)

end FaultsUnless

/-! ## Numbers -/

namespace Decimal

variable {x y r : Decimal}

/-- The amount is finite or an infinity. -/
def IsNumber : Decimal → Prop
  | .nan _ _ _ => False
  | _ => True

theorem IsNumber.of_finite (h : x.isFinite) : x.IsNumber := by
  cases x with
  | finite s c e => trivial
  | infinity s => trivial
  | nan s g p => cases h

theorem IsNumber.compare? (hx : x.IsNumber) (hy : y.IsNumber) : ∃ o, x.compare? y = some o := by
  cases x with
  | nan s g p => exact hx.elim
  | finite s c e =>
      cases y with
      | nan s g p => exact hy.elim
      | finite t c' e' => exact ⟨_, rfl⟩
      | infinity t => exact ⟨_, rfl⟩
  | infinity s =>
      cases y with
      | nan s g p => exact hy.elim
      | finite t c' e' => exact ⟨_, rfl⟩
      | infinity t => exact ⟨_, rfl⟩

theorem IsNumber.lt (hx : x.IsNumber) (hy : y.IsNumber) : ∃ b, x.lt y = .ok b := by
  obtain ⟨o, h⟩ := hx.compare? hy
  rw [Decimal.lt, order, h]
  exact ⟨_, rfl⟩

theorem IsNumber.isZero (hx : x.IsNumber) : ∃ b, x.isZero = .ok b := by
  have quiet : x.isSignaling = false := by
    cases x with
    | nan s g p => exact hx.elim
    | finite s c e => rfl
    | infinity s => rfl
  rw [Decimal.isZero, Decimal.eq, quiet]
  exact ⟨_, rfl⟩

theorem IsNumber.flipSign (hx : x.IsNumber) : x.flipSign.IsNumber := by
  cases x with
  | nan s g p => exact hx.elim
  | finite s c e => trivial
  | infinity s => trivial

theorem nanOfTwo?_numbers (hx : x.IsNumber) (hy : y.IsNumber) : nanOfTwo? x y = none := by
  cases x with
  | nan s g p => exact hx.elim
  | finite s c e =>
      cases y with
      | nan s g p => exact hy.elim
      | finite t c' e' => rfl
      | infinity t => rfl
  | infinity s =>
      cases y with
      | nan s g p => exact hy.elim
      | finite t c' e' => rfl
      | infinity t => rfl

/-- A sum of numbers is an infinity, or a finite amount that 28 digits hold. -/
theorem IsNumber.add_ok (hx : x.IsNumber) (hy : y.IsNumber) (h : x.add y = .ok r) :
    (∃ s, r = .infinity s) ∨ r.isFinite ∧ Representable r.value := by
  cases x with
  | nan s g p => exact hx.elim
  | finite s c e =>
      cases y with
      | nan s g p => exact hy.elim
      | finite t c' e' =>
          have fits : Fits _ ((finite s c e).add (finite t c' e')) := add_fits rfl rfl
          rw [h] at fits
          exact .inr ⟨fits.of_ok.1, fits.of_ok.2.representable⟩
      | infinity t =>
          cases h
          exact .inl ⟨t, rfl⟩
  | infinity s =>
      cases y with
      | nan s g p => exact hy.elim
      | finite t c' e' =>
          cases h
          exact .inl ⟨s, rfl⟩
      | infinity t =>
          by_cases same : s = t
          · rw [Decimal.add, nanOfTwo?_numbers hx hy] at h
            simp only [same, if_true, Except.ok.injEq] at h
            exact .inl ⟨t, h.symm⟩
          · rw [Decimal.add, nanOfTwo?_numbers hx hy] at h
            simp only [same, if_false, reduceCtorEq] at h

theorem IsNumber.add (hx : x.IsNumber) (hy : y.IsNumber) (h : x.add y = .ok r) : r.IsNumber := by
  obtain ⟨s, rfl⟩ | ⟨finite, -⟩ := hx.add_ok hy h
  · trivial
  · exact .of_finite finite

/-- A difference that is found has an absolute value. -/
theorem IsNumber.sub_abs (hx : x.IsNumber) (hy : y.IsNumber) (h : x.sub y = .ok r) :
    ∃ a, r.abs = .ok a ∧ a.IsNumber := by
  rw [sub, nanOfTwo?_numbers hx hy] at h
  obtain ⟨s, rfl⟩ | ⟨finite, representable⟩ := hx.add_ok hy.flipSign h
  · exact ⟨.infinity false, rfl, trivial⟩
  · obtain ⟨a, ha, hfinite, -⟩ := abs_of_representable finite representable
    exact ⟨a, ha, .of_finite hfinite⟩

/-- A bound in units of a power of ten is representable, with fewer than `10 ^ 28` units. -/
theorem representable_units {k m : Nat} (few : k < pow10 precision) (range : m + 28 ≤ 1000000) :
    Representable (k * 10 ^ m) := by
  have bound := lt_of_digits few (m : Int)
  rw [zpow_natCast] at bound
  have h := representable_of_digits few (e := m) ((show minExponent ≤ 0 by decide).trans m.cast_nonneg)
    (by rw [zpow_natCast]; exact bound.trans_le (ten_zpow_le (by unfold precision maxExponent; omega)))
  rwa [zpow_natCast] at h

/-- A total of so many units stays one when another amount of at most one unit is added. -/
theorem IsTotal.add_unit {k m : Nat} (hx : x.IsTotal) (hy : y.isFinite) (hy0 : 0 ≤ y.value)
    (hxk : x.value ≤ k * 10 ^ m) (hyk : y.value ≤ 10 ^ m) (few : k + 1 < pow10 precision)
    (range : m + 28 ≤ 1000000) :
    ∃ r, x.add y = .ok r ∧ r.IsTotal ∧ r.value ≤ (k + 1 : Nat) * 10 ^ m := by
  have bound := representable_units few range
  have nonneg := add_nonneg hx.nonneg hy0
  have hle : x.value + y.value ≤ (k + 1 : Nat) * 10 ^ m := by
    push_cast
    linarith
  obtain ⟨r, hr, finite, round⟩ := (add_fits hx.finite hy).answers bound (by rwa [abs_of_nonneg nonneg])
  exact ⟨r, hr, ⟨finite, round.representable, round.nonneg nonneg⟩, (round.passesNone _ bound).1 hle⟩

end Decimal

/-! ## The check of double entry -/

namespace Posting

open Decimal (IsNumber IsTotal Representable)

variable {accounts : Directory} {company : Uuid} {lines rest : List PostingLine} {l : PostingLine}
  {n : Nat} {D C x : Decimal} {notes : List LogRecord} {L : Prop}

/-- Neither amount of the line is anything but a number. -/
def Numbers (l : PostingLine) : Prop := l.debit.IsNumber ∧ l.credit.IsNumber

/-- The check lets the line pass: its account is an open one of the company, and its amounts are neither
    negative nor on both sides. -/
structure Admits (accounts : Directory) (company : Uuid) (l : PostingLine) : Prop where
  account : ∃ a, accounts l.account = some a ∧ a.company = company ∧ a.canPost
  debit : l.debit.lt .zero = .ok false
  credit : l.credit.lt .zero = .ok false
  side : Decimal.zero.lt l.debit = .ok false ∨ Decimal.zero.lt l.credit = .ok false

/-- The amounts of the lines add up, from totals so far and as far as the check comes: each running total
    has a result, up to the first line that does not pass, and so has the difference at the end. -/
def AddsUp (accounts : Directory) (company : Uuid) : Decimal → Decimal → List PostingLine → Prop
  | D, C, [] => ∃ difference, D.sub C = .ok difference
  | D, C, l :: rest => Admits accounts company l →
      ∃ D' C', D.add l.debit = .ok D' ∧ C.add l.credit = .ok C' ∧ AddsUp accounts company D' C' rest

/-- Behind a line that passes, the amounts add up from the next totals on. -/
theorem addsUp_cons_iff (admits : Admits accounts company l) {D' C' : Decimal}
    (hD : D.add l.debit = .ok D') (hC : C.add l.credit = .ok C') :
    AddsUp accounts company D C (l :: rest) ↔ AddsUp accounts company D' C' rest := by
  constructor
  · intro h
    obtain ⟨D'', C'', h₁, h₂, later⟩ := h admits
    cases hD.symm.trans h₁
    cases hC.symm.trans h₂
    exact later
  · exact fun later _ => ⟨D', C', hD, hC, later⟩

/-! ### One line -/

/-- A line is either on an account that the check lets pass, or refused for its account. -/
theorem checkAccount_cases (accounts : Directory) (company : Uuid) (n : Nat) (l : PostingLine) :
    (∃ a, checkAccount accounts (some company) n l = .ok a ∧ accounts l.account = some a ∧
        a.company = company ∧ a.canPost) ∨
      ∃ e, checkAccount accounts (some company) n l = .error e ∧ e.kind ≠ .ledger ∧
        ¬ Admits accounts company l := by
  unfold checkAccount
  cases found : accounts l.account with
  | none =>
      refine .inr ⟨.unknownAccount n l.account, rfl, nofun, fun ⟨⟨a, h, _⟩, _, _, _⟩ => ?_⟩
      cases found.symm.trans h
  | some a =>
      dsimp only
      by_cases own : a.company = company
      · rw [if_neg (by simpa using own)]
        by_cases opened : a.canPost = true
        · rw [if_pos opened]
          exact .inl ⟨a, rfl, rfl, own, opened⟩
        · rw [if_neg opened]
          refine .inr ⟨.closedAccount n a.code, rfl, nofun, fun ⟨⟨b, h, _, open'⟩, _, _, _⟩ => opened ?_⟩
          cases found.symm.trans h
          exact open'
      · rw [if_pos (by simpa using own)]
        refine .inr ⟨.foreignAccount n a.code, rfl, nofun, fun ⟨⟨b, h, own', _⟩, _, _, _⟩ => own ?_⟩
        cases found.symm.trans h
        exact own'

/-- The amounts of a line either pass, or are refused. -/
theorem checkAmounts_cases (accounts : Directory) (company : Uuid) (numbers : Numbers l) (n : Nat) :
    checkAmounts n l = .ok () ∨
      ∃ e, checkAmounts n l = .error (.ledger e) ∧ e.kind ≠ .ledger ∧ ¬ Admits accounts company l := by
  have zero : Decimal.zero.IsNumber := trivial
  obtain ⟨b₁, h₁⟩ := numbers.1.lt zero
  obtain ⟨b₂, h₂⟩ := numbers.2.lt zero
  obtain ⟨b₃, h₃⟩ := zero.lt numbers.1
  obtain ⟨b₄, h₄⟩ := zero.lt numbers.2
  unfold checkAmounts
  rw [h₁, h₂, h₃, h₄]
  cases b₁ with
  | true => exact .inr ⟨.negativeAmount n, rfl, nofun, fun h => by cases h₁.symm.trans h.debit⟩
  | false =>
    cases b₂ with
    | true => exact .inr ⟨.negativeAmount n, rfl, nofun, fun h => by cases h₂.symm.trans h.credit⟩
    | false =>
      cases b₃ with
      | false => exact .inl rfl
      | true =>
        cases b₄ with
        | false => exact .inl rfl
        | true =>
            refine .inr ⟨.twoSidedLine n, rfl, nofun, fun h => ?_⟩
            rcases h.side with h | h
            · cases h₃.symm.trans h
            · cases h₄.symm.trans h

theorem Numbers.isMemo (numbers : Numbers l) : ∃ b, l.isMemo = .ok b := by
  obtain ⟨b, hb⟩ := numbers.1.isZero
  obtain ⟨b', hb'⟩ := numbers.2.isZero
  unfold PostingLine.isMemo
  rw [hb, hb']
  cases b with
  | true => exact ⟨b', rfl⟩
  | false => exact ⟨false, rfl⟩

/-! ### All lines -/

theorem checkTotals_faultsUnless (hD : D.IsNumber) (hC : C.IsNumber) :
    FaultsUnless (∃ difference, D.sub C = .ok difference) L (checkTotals D C) := by
  unfold checkTotals unbalanced
  cases hsub : D.sub C with
  | error f => exact .fault f (by simp)
  | ok difference =>
      obtain ⟨gap, habs, number⟩ := hD.sub_abs hC hsub
      have found : ∃ x, (Except.ok difference : Except Decimal.Fault Decimal) = .ok x := ⟨_, rfl⟩
      obtain ⟨b₁, h₁⟩ := IsNumber.lt (x := .cent) trivial number
      obtain ⟨b₂, h₂⟩ := hD.isZero
      obtain ⟨b₃, h₃⟩ := hC.isZero
      have hgap : (do (← (Except.ok difference : Except Decimal.Fault Decimal)).abs) = .ok gap := habs
      rw [hgap, h₂, h₃]
      show FaultsUnless _ L (liftAmount (Decimal.cent.lt gap) >>= _)
      rw [h₁]
      cases b₁ with
      | true => exact .refused (f := .ledger (.unbalanced D C difference)) nofun found
      | false =>
        cases b₂ with
        | true => exact .refused (f := .ledger .oneSidedEntry) nofun found
        | false =>
          cases b₃ with
          | true => exact .refused (f := .ledger .oneSidedEntry) nofun found
          | false => exact .ok (D, C) found

/-- From any totals on, the check fails otherwise than with an answerable error exactly when the amounts
    do not add up. -/
theorem checkLines_faultsUnless (numbers : ∀ l ∈ lines, Numbers l) (hD : D.IsNumber) (hC : C.IsNumber)
    (n : Nat) (notes : List LogRecord) :
    FaultsUnless (AddsUp accounts company D C lines) L (do
      let (debit, credit) ← (checkLines accounts (some company) n lines D C notes).totals
      checkTotals debit credit) := by
  -- a running total may become infinite, so the induction keeps numbers and not finite amounts
  induction lines generalizing n D C notes with
  | nil => exact checkTotals_faultsUnless hD hC
  | cons l rest ih =>
      have hl : Numbers l := numbers l (by simp)
      rw [checkLines]
      obtain ⟨a, haccount, account⟩ | ⟨e, haccount, kind, refused⟩ :=
        checkAccount_cases accounts company n l
      · rw [haccount]
        dsimp only
        obtain hamounts | ⟨e, hamounts, kind, refused⟩ := checkAmounts_cases accounts company hl n
        · rw [hamounts]
          obtain ⟨memo, hmemo⟩ := hl.isMemo
          obtain ⟨hdebit, hcredit, side⟩ := checkAmounts_ok hamounts
          have admits : Admits accounts company l := ⟨⟨a, account⟩, hdebit, hcredit, side⟩
          rw [hmemo]
          dsimp only
          cases hadd : D.add l.debit with
          | error f =>
              refine .fault f fun h => ?_
              obtain ⟨D', C', h, -⟩ := h admits
              cases hadd.symm.trans h
          | ok D' =>
              dsimp only
              cases hadd' : C.add l.credit with
              | error f =>
                  refine .fault f fun h => ?_
                  obtain ⟨D'', C', -, h, -⟩ := h admits
                  cases hadd'.symm.trans h
              | ok C' =>
                  have later := ih (fun k hk => numbers k (by simp [hk])) (hD.add hl.1 hadd)
                    (hC.add hl.2 hadd') (n + 1)
                  exact (later _).congr (addsUp_cons_iff admits hadd hadd').symm
        · rw [hamounts]
          exact .refused kind fun h => (refused h).elim
      · rw [haccount]
        exact .refused kind fun h => (refused h).elim

/-- The check fails otherwise than with an answerable error exactly when the amounts do not add up. -/
theorem check_faultsUnless (numbers : ∀ l ∈ lines, Numbers l) :
    FaultsUnless (AddsUp accounts company .zero .zero lines) L
      (check accounts (some company) lines).totals := by
  unfold check
  cases lines with
  | nil => exact .refused (f := .ledger .emptyEntry) nofun ⟨.zero, by decide +kernel⟩
  | cons l rest =>
      have zero : IsNumber .zero := trivial
      exact checkLines_faultsUnless numbers zero zero 1 []

/-! ### Amounts that add up -/

/-- Only the accounts of the lines count. -/
theorem AddsUp.congr {accounts' : Directory} (same : ∀ l ∈ lines, accounts l.account = accounts' l.account) :
    AddsUp accounts company D C lines ↔ AddsUp accounts' company D C lines := by
  induction lines generalizing D C with
  | nil => exact Iff.rfl
  | cons l rest ih =>
      have admits : Admits accounts company l ↔ Admits accounts' company l := by
        have hl := same l (by simp)
        exact ⟨fun h => ⟨hl ▸ h.account, h.debit, h.credit, h.side⟩,
          fun h => ⟨hl ▸ h.account, h.debit, h.credit, h.side⟩⟩
      have later (D C : Decimal) : AddsUp accounts company D C rest ↔ AddsUp accounts' company D C rest :=
        ih fun k hk => same k (by simp [hk])
      simp only [AddsUp, admits, later]

/-- A finite amount that the check lets pass is not negative. -/
theorem nonneg_of_lt_zero (hx : x.isFinite) (h : x.lt .zero = .ok false) : 0 ≤ x.value := by
  rw [Decimal.lt_finite hx rfl, Decimal.value_zero] at h
  simpa using h

/-- Finite amounts of at most one unit add up from totals of `k` units on, when there are fewer than
    `10 ^ 28` units in all. -/
theorem addsUp_of_le {k m : Nat} (hD : D.IsTotal) (hC : C.IsTotal) (hDk : D.value ≤ k * 10 ^ m)
    (hCk : C.value ≤ k * 10 ^ m) (finite : ∀ l ∈ lines, FiniteAmounts l)
    (units : ∀ l ∈ lines, l.debit.value ≤ 10 ^ m ∧ l.credit.value ≤ 10 ^ m)
    (few : k + lines.length < pow10 Decimal.precision) (range : m + 28 ≤ 1000000) :
    AddsUp accounts company D C lines := by
  induction lines generalizing k D C with
  | nil =>
      obtain ⟨difference, h, -⟩ := hD.sub_ok hC
      exact ⟨difference, h⟩
  | cons l rest ih =>
      intro admits
      obtain ⟨hdebit, hcredit⟩ := finite l (by simp)
      obtain ⟨debit, credit⟩ := units l (by simp)
      have few' : k + 1 + rest.length < pow10 Decimal.precision := by
        rw [List.length_cons] at few
        omega
      obtain ⟨D', hD', total, le⟩ := hD.add_unit hdebit (nonneg_of_lt_zero hdebit admits.debit) hDk debit
        (by omega) range
      obtain ⟨C', hC', total', le'⟩ := hC.add_unit hcredit (nonneg_of_lt_zero hcredit admits.credit) hCk
        credit (by omega) range
      exact ⟨D', C', hD', hC', ih total total' le le' (fun k hk => finite k (by simp [hk]))
        (fun k hk => units k (by simp [hk])) few'⟩

end Posting

end Bookkeeping
