import Bookkeeping.Proofs.Acceptance
import Bookkeeping.Proofs.Precision

set_option autoImplicit false

/-! # What the check of double entry answers

Each line is to keep five rules, which are looked at in a fixed order (`Rule`). The check answers one
verdict for every list of lines (`Verdict`, `check_verdict`): the first rule that the first bad line
breaks, whatever comes after that line; else what the two totals tell. Amounts may have any number of
digits. The totals are sums from left to right, each addition rounded to 28 digits, and so is their
difference. -/

namespace Bookkeeping.Posting

open Decimal (IsTotal Rounded)

variable {accounts : Directory} {company : Option Uuid} {lines before after : List PostingLine}
  {l : PostingLine} {n : Nat} {debit credit D C x : Decimal} {notes : List LogRecord}

/-! ## Rules of a line -/

/-- The rules that a line is to keep. -/
inductive Rule where
  /-- The account exists. -/
  | known
  /-- The account is the company's, where one is given. -/
  | own
  /-- The account may be posted to. -/
  | postable
  /-- Neither amount is negative. -/
  | nonnegative
  /-- Not both amounts are positive. -/
  | oneSided
  deriving DecidableEq, Repr

namespace Rule

/-- The place of a rule in the order in which they are looked at. -/
def place : Rule → Nat
  | known => 0
  | own => 1
  | postable => 2
  | nonnegative => 3
  | oneSided => 4

/-- The line keeps the rule. -/
def Holds (accounts : Directory) (company : Option Uuid) (l : PostingLine) : Rule → Prop
  | known => ∃ a, accounts l.account = some a
  | own => ∀ a, accounts l.account = some a → ∀ c, company = some c → a.company = c
  | postable => ∀ a, accounts l.account = some a → a.canPost
  | nonnegative => 0 ≤ l.debit.value ∧ 0 ≤ l.credit.value
  | oneSided => ¬ (0 < l.debit.value ∧ 0 < l.credit.value)

/-- The code of the account that a line is on. -/
def accountCode (accounts : Directory) (l : PostingLine) : String :=
  match accounts l.account with
  | some a => a.code
  | none => ""

/-- What is told of line `n` when it breaks the rule. -/
def error (accounts : Directory) (n : Nat) (l : PostingLine) : Rule → LedgerError
  | known => .unknownAccount n l.account
  | own => .foreignAccount n (accountCode accounts l)
  | postable => .closedAccount n (accountCode accounts l)
  | nonnegative => .negativeAmount n
  | oneSided => .twoSidedLine n

/-- The family of errors that a rule belongs to. -/
def kind : Rule → ErrorKind
  | known | own | postable => .invalidAccount
  | nonnegative | oneSided => .validation

theorem error_kind (accounts : Directory) (n : Nat) (l : PostingLine) (rule : Rule) :
    (rule.error accounts n l).kind = rule.kind := by cases rule <;> rfl

end Rule

variable {rule : Rule}

/-- The line keeps every rule. -/
def Sound (accounts : Directory) (company : Option Uuid) (l : PostingLine) : Prop :=
  ∀ rule : Rule, rule.Holds accounts company l

/-- The rule is the first that the line breaks. -/
structure FirstBroken (accounts : Directory) (company : Option Uuid) (l : PostingLine) (rule : Rule) :
    Prop where
  broken : ¬ rule.Holds accounts company l
  earlier : ∀ r : Rule, r.place < rule.place → r.Holds accounts company l

theorem sound_or_firstBroken (accounts : Directory) (company : Option Uuid) (l : PostingLine) :
    Sound accounts company l ∨ ∃ rule, FirstBroken accounts company l rule := by
  classical
  by_cases sound : Sound accounts company l
  · exact .inl sound
  · right
    obtain ⟨r, hr⟩ := not_forall.mp sound
    have some_place : ∃ n, ∃ r : Rule, r.place = n ∧ ¬ r.Holds accounts company l := ⟨_, r, rfl, hr⟩
    obtain ⟨rule, hplace, hbroken⟩ := Nat.find_spec some_place
    refine ⟨rule, hbroken, fun r hr => ?_⟩
    by_contra hbroken
    exact Nat.find_min some_place (hplace ▸ hr) ⟨r, rfl, hbroken⟩

/-! ## One line -/

/-- Both amounts of the line are finite. -/
def FiniteAmounts (l : PostingLine) : Prop := l.debit.isFinite ∧ l.credit.isFinite

theorem Sound.oneSided (h : Sound accounts company l) (finite : FiniteAmounts l) : OneSided l := by
  obtain ⟨hdebit, hcredit⟩ := h .nonnegative
  refine ⟨finite, hdebit, hcredit, ?_⟩
  by_contra hside
  obtain ⟨hd, hc⟩ := not_or.mp hside
  exact h .oneSided ⟨lt_of_le_of_ne hdebit (Ne.symm hd), lt_of_le_of_ne hcredit (Ne.symm hc)⟩

/-- A one-sided line on an open account of the company keeps every rule. -/
theorem OneSided.sound {c : Uuid} {a : Account} (h : OneSided l) (found : accounts l.account = some a)
    (own : a.company = c) (opened : a.canPost) : Sound accounts (some c) l := by
  intro rule
  cases rule with
  | known => exact ⟨a, found⟩
  | own =>
      intro b hb d hd
      cases found.symm.trans hb
      cases hd
      exact own
  | postable =>
      intro b hb
      cases found.symm.trans hb
      exact opened
  | nonnegative => exact ⟨h.debit, h.credit⟩
  | oneSided =>
      rintro ⟨hdebit, hcredit⟩
      exact h.side.elim hdebit.ne' hcredit.ne'

/-- The account of a line that keeps the rules about accounts is found. -/
theorem checkAccount_of_holds (known : Rule.known.Holds accounts company l)
    (own : Rule.own.Holds accounts company l) (postable : Rule.postable.Holds accounts company l)
    (n : Nat) : ∃ a, checkAccount accounts company n l = .ok a := by
  obtain ⟨a, found⟩ := known
  refine ⟨a, ?_⟩
  unfold checkAccount
  rw [found]
  dsimp only
  rw [if_pos (postable a found), if_neg]
  cases company with
  | none => exact Bool.false_ne_true
  | some c => simp [own a found c rfl]

/-- A bad line is refused for the first rule that it breaks. -/
theorem FirstBroken.refused (h : FirstBroken accounts company l rule) (finite : FiniteAmounts l) (n : Nat) :
    checkAccount accounts company n l = .error (rule.error accounts n l) ∨
      (∃ a, checkAccount accounts company n l = .ok a) ∧
        checkAmounts n l = .error (.ledger (rule.error accounts n l)) := by
  obtain ⟨hbroken, earlier⟩ := h
  cases rule with
  | known =>
      have found : accounts l.account = none :=
        Option.eq_none_iff_forall_ne_some.mpr fun a ha => hbroken ⟨a, ha⟩
      left
      unfold checkAccount
      rw [found]
      rfl
  | own =>
      obtain ⟨a, found⟩ := earlier .known (by decide)
      have foreign : ∃ c, company = some c ∧ a.company ≠ c := by
        by_contra none
        refine hbroken fun b hb c hc => ?_
        obtain rfl : a = b := Option.some.inj (found.symm.trans hb)
        by_contra hne
        exact none ⟨c, hc, hne⟩
      obtain ⟨c, rfl, hne⟩ := foreign
      left
      unfold checkAccount
      rw [found]
      dsimp only
      rw [if_pos (by simpa using hne), Rule.error, Rule.accountCode, found]
  | postable =>
      obtain ⟨a, found⟩ := earlier .known (by decide)
      have own := earlier .own (by decide) a found
      have closed : ¬ a.canPost := fun opened => hbroken fun b hb => by
        obtain rfl : a = b := Option.some.inj (found.symm.trans hb)
        exact opened
      left
      unfold checkAccount
      rw [found]
      dsimp only
      rw [if_neg closed, if_neg, Rule.error, Rule.accountCode, found]
      cases company with
      | none => exact Bool.false_ne_true
      | some c => simp [own c rfl]
  | nonnegative =>
      refine .inr ⟨checkAccount_of_holds (earlier .known (by decide)) (earlier .own (by decide))
        (earlier .postable (by decide)) n, ?_⟩
      unfold checkAmounts
      rw [Decimal.lt_finite finite.1 rfl, Decimal.lt_finite finite.2 rfl, Decimal.value_zero]
      by_cases hdebit : l.debit.value < 0
      · rw [decide_eq_true hdebit]
        rfl
      · have hcredit : l.credit.value < 0 := by
          by_contra hcredit
          exact hbroken ⟨not_lt.mp hdebit, not_lt.mp hcredit⟩
        rw [decide_eq_false hdebit, decide_eq_true hcredit]
        rfl
  | oneSided =>
      refine .inr ⟨checkAccount_of_holds (earlier .known (by decide)) (earlier .own (by decide))
        (earlier .postable (by decide)) n, ?_⟩
      obtain ⟨hdebit, hcredit⟩ := earlier .nonnegative (by decide)
      obtain ⟨hd, hc⟩ := not_not.mp hbroken
      unfold checkAmounts
      rw [Decimal.lt_finite finite.1 rfl, Decimal.lt_finite finite.2 rfl,
        Decimal.lt_finite rfl finite.1, Decimal.lt_finite rfl finite.2, Decimal.value_zero,
        decide_eq_false (not_lt.mpr hdebit), decide_eq_false (not_lt.mpr hcredit), decide_eq_true hd,
        decide_eq_true hc]
      rfl

/-! ## All lines -/

/-- Lines that keep every rule are passed over, and their amounts are added up. -/
theorem checkLines_append (sound : ∀ l ∈ before, Sound accounts company l)
    (finite : ∀ l ∈ before, FiniteAmounts l)
    (hdebit : (before.map PostingLine.debit).foldlM Decimal.add debit = .ok D)
    (hcredit : (before.map PostingLine.credit).foldlM Decimal.add credit = .ok C) (n : Nat)
    (after : List PostingLine) (notes : List LogRecord) :
    ∃ notes', checkLines accounts company n (before ++ after) debit credit notes =
      checkLines accounts company (n + before.length) after D C notes' := by
  induction before generalizing n debit credit notes with
  | nil =>
      cases hdebit
      cases hcredit
      exact ⟨notes, rfl⟩
  | cons l rest ih =>
      have hl := sound l (by simp)
      have side := hl.oneSided (finite l (by simp))
      obtain ⟨a, haccount⟩ := checkAccount_of_holds (hl .known) (hl .own) (hl .postable) n
      obtain ⟨memo, hmemo⟩ := side.isMemo
      rw [List.map_cons, List.foldlM_cons] at hdebit hcredit
      obtain ⟨d, hd, hdebit⟩ := bind_eq_ok hdebit
      obtain ⟨c, hc, hcredit⟩ := bind_eq_ok hcredit
      obtain ⟨notes', h⟩ := ih (fun k hk => sound k (by simp [hk])) (fun k hk => finite k (by simp [hk]))
        hdebit hcredit (n + 1) (if memo then memoNote n a :: notes else notes)
      refine ⟨notes', ?_⟩
      rw [List.length_cons, Nat.add_comm rest.length 1, ← Nat.add_assoc, ← h, List.cons_append,
        checkLines, haccount, side.checkAmounts, hmemo]
      dsimp only
      rw [hd]
      dsimp only
      rw [hc]

/-- The first line that breaks a rule ends the check, whatever comes after it. -/
theorem checkLines_refused (first : FirstBroken accounts company l rule) (finite : FiniteAmounts l)
    (n : Nat) (after : List PostingLine) (debit credit : Decimal) (notes : List LogRecord) :
    (checkLines accounts company n (l :: after) debit credit notes).totals =
      .error (.ledger (rule.error accounts n l)) := by
  unfold checkLines
  rcases first.refused finite n with haccount | ⟨⟨a, haccount⟩, hamounts⟩
  · rw [haccount]
  · rw [haccount, hamounts]

/-- Either all lines keep every rule, or there is a first that does not. -/
theorem sound_or_refused (accounts : Directory) (company : Option Uuid) (lines : List PostingLine) :
    (∀ l ∈ lines, Sound accounts company l) ∨
      ∃ before l after rule, lines = before ++ l :: after ∧ (∀ k ∈ before, Sound accounts company k) ∧
        FirstBroken accounts company l rule := by
  induction lines with
  | nil => exact .inl (by simp)
  | cons l rest ih =>
      rcases sound_or_firstBroken accounts company l with sound | ⟨rule, first⟩
      · rcases ih with all | ⟨before, k, after, rule, rfl, hbefore, first⟩
        · exact .inl (by simpa using ⟨sound, all⟩)
        · exact .inr ⟨l :: before, k, after, rule, rfl, by simpa using ⟨sound, hbefore⟩, first⟩
      · exact .inr ⟨[], l, rest, rule, rfl, by simp, first⟩

/-! ## Totals -/

/-- Totals are compared first, within one cent, and then looked at for zeros. -/
theorem checkTotals_eq (hD : D.IsTotal) (hC : C.IsTotal) :
    ∃ x, D.sub C = .ok x ∧ checkTotals D C =
      if 1 / 100 < |x.value| then .error (.ledger (.unbalanced D C x))
      else if D.value = 0 ∨ C.value = 0 then .error (.ledger .oneSidedEntry) else .ok (D, C) := by
  obtain ⟨x, hx, hxf, hround⟩ := hD.sub_ok hC
  obtain ⟨gap, hgap, hgf, hgv⟩ := Decimal.abs_of_representable hxf hround.representable
  refine ⟨x, hx, ?_⟩
  unfold checkTotals unbalanced
  rw [hx]
  dsimp only [bind, Except.bind]
  rw [hgap]
  dsimp only [liftAmount]
  rw [Decimal.lt_finite rfl hgf, Decimal.value_cent, hgv, Decimal.isZero_finite hD.finite,
    Decimal.isZero_finite hC.finite]
  by_cases hlarge : 1 / 100 < |x.value|
  · rw [if_pos hlarge, decide_eq_true hlarge]
    rfl
  · rw [if_neg hlarge, decide_eq_false hlarge]
    by_cases hd : D.value = 0
    · rw [if_pos (.inl hd), decide_eq_true hd]
      rfl
    · by_cases hc : C.value = 0
      · rw [if_pos (.inr hc), decide_eq_false hd, decide_eq_true hc]
        rfl
      · rw [if_neg (not_or.mpr ⟨hd, hc⟩), decide_eq_false hd, decide_eq_false hc]
        rfl

/-! ## The verdict -/

/-- The amounts are finite, and their sums from left to right stay within the range of the exponents. -/
structure Summed (lines : List PostingLine) (D C : Decimal) : Prop where
  finite : ∀ l ∈ lines, FiniteAmounts l
  debits : Decimal.sum (lines.map PostingLine.debit) = .ok D
  credits : Decimal.sum (lines.map PostingLine.credit) = .ok C

/-- What the check is to answer of lines with the totals `D` and `C`. -/
inductive Verdict (accounts : Directory) (company : Option Uuid) (lines : List PostingLine)
    (D C : Decimal) : Except Failure (Decimal × Decimal) → Prop where
  | empty (nothing : lines = []) : Verdict accounts company lines D C (.error (.ledger .emptyEntry))
  /-- Some line breaks a rule; no line before it does. -/
  | refused {before after : List PostingLine} {l : PostingLine} {rule : Rule}
      (split : lines = before ++ l :: after) (sound : ∀ k ∈ before, Sound accounts company k)
      (first : FirstBroken accounts company l rule) :
      Verdict accounts company lines D C (.error (.ledger (rule.error accounts (before.length + 1) l)))
  /-- The totals differ by more than a cent. -/
  | unbalanced {x : Decimal} (something : lines ≠ []) (sound : ∀ l ∈ lines, Sound accounts company l)
      (difference : D.sub C = .ok x) (gap : 1 / 100 < |x.value|) :
      Verdict accounts company lines D C (.error (.ledger (.unbalanced D C x)))
  /-- One side comes to nothing. -/
  | oneSided {x : Decimal} (something : lines ≠ []) (sound : ∀ l ∈ lines, Sound accounts company l)
      (difference : D.sub C = .ok x) (gap : |x.value| ≤ 1 / 100) (zero : D.value = 0 ∨ C.value = 0) :
      Verdict accounts company lines D C (.error (.ledger .oneSidedEntry))
  | accepted {x : Decimal} (something : lines ≠ []) (sound : ∀ l ∈ lines, Sound accounts company l)
      (difference : D.sub C = .ok x) (gap : |x.value| ≤ 1 / 100) (debit : D.value ≠ 0)
      (credit : C.value ≠ 0) : Verdict accounts company lines D C (.ok (D, C))

/-- The part of a sum that comes before an amount. -/
theorem sum_before {f : PostingLine → Decimal} (h : Decimal.sum ((before ++ after).map f) = .ok x) :
    ∃ y, (before.map f).foldlM Decimal.add .zero = .ok y := by
  rw [Decimal.sum, List.map_append, List.foldlM_append] at h
  obtain ⟨y, hy, -⟩ := bind_eq_ok h
  exact ⟨y, hy⟩

/-- A line that breaks a rule ends the check, whatever the lines after it are. -/
theorem check_refused (finite : ∀ k ∈ before ++ [l], FiniteAmounts k)
    (debits : ∃ d, (before.map PostingLine.debit).foldlM Decimal.add .zero = .ok d)
    (credits : ∃ c, (before.map PostingLine.credit).foldlM Decimal.add .zero = .ok c)
    (sound : ∀ k ∈ before, Sound accounts company k) (first : FirstBroken accounts company l rule)
    (later : List PostingLine) :
    (check accounts company (before ++ l :: later)).totals =
      .error (.ledger (rule.error accounts (before.length + 1) l)) := by
  obtain ⟨d, hd⟩ := debits
  obtain ⟨c, hc⟩ := credits
  obtain ⟨notes, hlines⟩ := checkLines_append sound (fun k hk => finite k (by simp [hk])) hd hc 1
    (l :: later) []
  have hsome : (before ++ l :: later).isEmpty = false := by simp
  rw [check, hsome, if_neg Bool.false_ne_true, hlines]
  dsimp only
  rw [checkLines_refused first (finite l (by simp)), Nat.add_comm]
  rfl

/-- Lines that keep every rule are judged by their totals. -/
theorem check_sound (summed : Summed lines D C) (something : lines ≠ [])
    (sound : ∀ l ∈ lines, Sound accounts company l) :
    (check accounts company lines).totals = checkTotals D C := by
  obtain ⟨notes, hlines⟩ := checkLines_append sound summed.finite summed.debits summed.credits 1 [] []
  have hsome : lines.isEmpty = false := by
    rw [List.isEmpty_eq_false_iff]
    exact something
  rw [List.append_nil] at hlines
  rw [check, hsome, if_neg Bool.false_ne_true, hlines]
  rfl

/-- The totals of lines that keep every rule are those of amounts that are not negative. -/
theorem Summed.isTotal (summed : Summed lines D C) (sound : ∀ l ∈ lines, Sound accounts company l) :
    D.IsTotal ∧ C.IsTotal := by
  constructor
  · refine Decimal.isTotal_zero.foldlM_add ?_ ?_ summed.debits
    · simpa using fun l hl => (summed.finite l hl).1
    · simpa using fun l hl => (sound l hl .nonnegative).1
  · refine Decimal.isTotal_zero.foldlM_add ?_ ?_ summed.credits
    · simpa using fun l hl => (summed.finite l hl).2
    · simpa using fun l hl => (sound l hl .nonnegative).2

theorem Verdict.answered {r : Except Failure (Decimal × Decimal)} (summed : Summed lines D C)
    (h : Verdict accounts company lines D C r) : (check accounts company lines).totals = r := by
  cases h with
  | empty nothing =>
      subst nothing
      rfl
  | refused split sound first =>
      subst split
      exact check_refused (fun k hk => summed.finite k (by simp at hk ⊢; tauto)) (sum_before summed.debits)
        (sum_before summed.credits) sound first _
  | unbalanced something sound difference gap =>
      obtain ⟨hD, hC⟩ := summed.isTotal sound
      obtain ⟨x, hx, htotals⟩ := checkTotals_eq hD hC
      cases difference.symm.trans hx
      rw [check_sound summed something sound, htotals, if_pos gap]
  | oneSided something sound difference gap zero =>
      obtain ⟨hD, hC⟩ := summed.isTotal sound
      obtain ⟨x, hx, htotals⟩ := checkTotals_eq hD hC
      cases difference.symm.trans hx
      rw [check_sound summed something sound, htotals, if_neg (not_lt.mpr gap), if_pos zero]
  | accepted something sound difference gap debit credit =>
      obtain ⟨hD, hC⟩ := summed.isTotal sound
      obtain ⟨x, hx, htotals⟩ := checkTotals_eq hD hC
      cases difference.symm.trans hx
      rw [check_sound summed something sound, htotals, if_neg (not_lt.mpr gap),
        if_neg (not_or.mpr ⟨debit, credit⟩)]

/-- The answer of the check is a verdict. -/
theorem Summed.verdict (accounts : Directory) (company : Option Uuid) (summed : Summed lines D C) :
    Verdict accounts company lines D C (check accounts company lines).totals := by
  suffices answer : ∃ r, Verdict accounts company lines D C r by
    obtain ⟨r, hr⟩ := answer
    rwa [hr.answered summed]
  rcases eq_or_ne lines [] with nothing | something
  · exact ⟨_, .empty nothing⟩
  · rcases sound_or_refused accounts company lines with sound | ⟨before, l, after, rule, split, sound, first⟩
    · obtain ⟨hD, hC⟩ := summed.isTotal sound
      obtain ⟨x, hx, -⟩ := hD.sub_ok hC
      rcases lt_or_ge (1 / 100) |x.value| with gap | gap
      · exact ⟨_, .unbalanced something sound hx gap⟩
      · by_cases zero : D.value = 0 ∨ C.value = 0
        · exact ⟨_, .oneSided something sound hx gap zero⟩
        · obtain ⟨hd, hc⟩ := not_or.mp zero
          exact ⟨_, .accepted something sound hx gap hd hc⟩
    · exact ⟨_, .refused split sound first⟩

/-- Lines that pass are a debit and a credit at least. -/
theorem Passed.bothSides (h : Passed lines) :
    ∃ l ∈ lines, ∃ k ∈ lines, l ≠ k ∧ (0 < l.debit.value ∧ l.credit.value = 0) ∧
      0 < k.credit.value ∧ k.debit.value = 0 := by
  have side (l) (hl : l ∈ lines) := h.oneSided hl
  obtain ⟨d, c, ⟨-, debits, credits⟩, t, ht⟩ := h
  obtain ⟨-, -, -, -, -, hd0, hc0⟩ := checkTotals_ok ht
  obtain ⟨hdf, hcf⟩ := finite_of_checkTotals ht
  rw [Decimal.isZero_finite hdf] at hd0
  rw [Decimal.isZero_finite hcf] at hc0
  simp only [Except.ok.injEq, decide_eq_false_iff_not] at hd0 hc0
  have nonzero {f : PostingLine → Decimal} {r : Decimal} (finite : ∀ l ∈ lines, (f l).isFinite)
      (h : (lines.map f).foldlM Decimal.add .zero = .ok r) (hr : r.value ≠ 0) :
      ∃ l ∈ lines, (f l).value ≠ 0 := by
    by_contra zeros
    refine hr (Decimal.value_foldlM_add_zeros rfl Decimal.value_zero (by simpa using finite) ?_ h)
    simpa using fun l hl => by_contra fun hne => zeros ⟨l, hl, hne⟩
  obtain ⟨l, hl, hdebit⟩ := nonzero (fun l hl => (side l hl).finite.1) debits hd0
  obtain ⟨k, hk, hcredit⟩ := nonzero (fun l hl => (side l hl).finite.2) credits hc0
  have hlzero := (side l hl).side.resolve_left hdebit
  have hkzero := (side k hk).side.resolve_right hcredit
  refine ⟨l, hl, k, hk, ?_, ⟨lt_of_le_of_ne (side l hl).debit (Ne.symm hdebit), hlzero⟩,
    lt_of_le_of_ne (side k hk).credit (Ne.symm hcredit), hkzero⟩
  rintro rfl
  exact hdebit hkzero

/-- The answer of the check is the verdict on the lines, whichever it is. A line that breaks a rule
    settles it whatever comes later, and lines that are accepted are a debit and a credit at least. -/
theorem check_verdict (accounts : Directory) (company : Option Uuid) (summed : Summed lines D C) :
    (∀ r, (check accounts company lines).totals = r ↔ Verdict accounts company lines D C r) ∧
      (∀ before l after rule, lines = before ++ l :: after → (∀ k ∈ before, Sound accounts company k) →
        FirstBroken accounts company l rule → ∀ later : List PostingLine,
          ∃ e, (check accounts company (before ++ l :: later)).totals = .error (.ledger e) ∧
            e = rule.error accounts (before.length + 1) l ∧ e.kind = rule.kind) ∧
      ∀ t, (check accounts company lines).totals = .ok t →
        ∃ l ∈ lines, ∃ k ∈ lines, l ≠ k ∧ (0 < l.debit.value ∧ l.credit.value = 0) ∧
          0 < k.credit.value ∧ k.debit.value = 0 := by
  refine ⟨fun r => ⟨fun h => ?_, fun h => h.answered summed⟩, ?_, fun t h => (check_passed h).bothSides⟩
  · rw [← h]
    exact summed.verdict accounts company
  · rintro before l after rule rfl sound first later
    exact ⟨_, check_refused (fun k hk => summed.finite k (by simp at hk ⊢; tauto))
      (sum_before summed.debits) (sum_before summed.credits) sound first later, rfl,
      rule.error_kind accounts _ l⟩

/-- Two debits against one credit. -/
def splitHundred : List PostingLine :=
  [{ account := Uuid.issue 0, debit := .finite false 605 (-1) },
    { account := Uuid.issue 0, debit := .finite false 395 (-1) },
    { account := Uuid.issue 1, credit := .finite false 100 0 }]

theorem check_verdict_splitHundred :
    Summed splitHundred (.finite false 1000 (-1)) (.finite false 100 0) ∧
      Verdict (Directory.ofList (Store.after [Session.opensTwoAccounts]).accounts) (some ⟨1⟩)
        splitHundred (.finite false 1000 (-1)) (.finite false 100 0)
        (.ok (.finite false 1000 (-1), .finite false 100 0)) := by
  have summed : Summed splitHundred (.finite false 1000 (-1)) (.finite false 100 0) :=
    ⟨by simp [splitHundred, FiniteAmounts, Decimal.isFinite, Decimal.zero], by decide +kernel,
      by decide +kernel⟩
  exact ⟨summed, ((check_verdict _ _ summed).1 _).mp (by decide +kernel)⟩

end Bookkeeping.Posting
