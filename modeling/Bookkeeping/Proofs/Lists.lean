import Mathlib.Algebra.Order.BigOperators.Group.List
import Mathlib.Algebra.Order.Field.Rat
import Mathlib.Data.List.Flatten
import Mathlib.Data.List.Forall2
import Mathlib.Data.List.Perm.Subperm

set_option autoImplicit false

/-! # Lists

Facts about lists that several proofs share: lists that are related element by element, elements that
are left out, also of a list that is sorted, lists that sorting makes the same, computations over lists
that succeed, and sums of some of the terms of a list. -/

namespace Bookkeeping

variable {α β γ ε : Type}

/-! ## Related element by element -/

section Forall₂

variable {R : α → β → Prop} {as : List α} {bs : List β}

theorem map_eq_of_forall₂ {f : α → γ} {g : β → γ} (h : List.Forall₂ R as bs)
    (same : ∀ a ∈ as, ∀ b, R a b → g b = f a) : bs.map g = as.map f := by
  induction h with
  | nil => rfl
  | cons hab _ ih =>
      rw [List.map_cons, List.map_cons, same _ (by simp) _ hab,
        ih fun a ha => same a (by simp [ha])]

theorem exists_left_of_forall₂ (h : List.Forall₂ R as bs) {b : β} (hb : b ∈ bs) :
    ∃ a ∈ as, R a b := by
  induction h with
  | nil => cases hb
  | cons hab _ ih =>
      rcases List.mem_cons.mp hb with rfl | hb
      · exact ⟨_, by simp, hab⟩
      · obtain ⟨a, ha, hab⟩ := ih hb
        exact ⟨a, by simp [ha], hab⟩

theorem exists_right_of_forall₂ (h : List.Forall₂ R as bs) {a : α} (ha : a ∈ as) :
    ∃ b ∈ bs, R a b :=
  exists_left_of_forall₂ (R := fun b a => R a b) h.flip ha

theorem forall_mem_iff_of_forall₂ {p : α → Prop} {q : β → Prop} (h : List.Forall₂ R as bs)
    (hpq : ∀ {a b}, R a b → (p a ↔ q b)) : (∀ a ∈ as, p a) ↔ ∀ b ∈ bs, q b := by
  induction h with
  | nil => simp
  | cons hab _ ih => simp [hpq hab, ih]

theorem forall_mem_of_forall₂ {q : β → Prop} (h : List.Forall₂ R as bs)
    (hq : ∀ {a b}, R a b → q b) : ∀ b ∈ bs, q b := by
  induction h with
  | nil => simp
  | cons hab _ ih => simpa [hq hab] using ih

theorem exists_mem_iff_of_forall₂ {p : α → Prop} {q : β → Prop} (h : List.Forall₂ R as bs)
    (hpq : ∀ {a b}, R a b → (p a ↔ q b)) : (∃ a ∈ as, p a) ↔ ∃ b ∈ bs, q b := by
  induction h with
  | nil => simp
  | cons hab _ ih => simp [hpq hab, ih]

theorem forall₂_flatMap {as : List γ} {f : γ → List α} {g : γ → List β}
    (h : ∀ a ∈ as, List.Forall₂ R (f a) (g a)) :
    List.Forall₂ R (as.flatMap f) (as.flatMap g) := by
  induction as with
  | nil => exact .nil
  | cons a as ih =>
      rw [List.flatMap_cons, List.flatMap_cons]
      exact List.rel_append (h a (by simp)) (ih fun b hb => h b (by simp [hb]))

end Forall₂

/-! ## Filtered lists -/

/-- Elements that contribute nothing may be left out. -/
theorem flatMap_filter_of_nil {as : List α} {p : α → Bool} {f : α → List β}
    (h : ∀ a ∈ as, p a = false → f a = []) : (as.filter p).flatMap f = as.flatMap f := by
  induction as with
  | nil => rfl
  | cons a as ih =>
      have hrest := ih fun b hb => h b (by simp [hb])
      cases hp : p a with
      | true => rw [List.filter_cons_of_pos hp, List.flatMap_cons, List.flatMap_cons, hrest]
      | false =>
          rw [List.filter_cons_of_neg (by simp [hp]), List.flatMap_cons, h a (by simp) hp, hrest,
            List.nil_append]

/-- Of elements with different keys, one has its own. -/
theorem filter_key_eq [DecidableEq β] {as : List α} {key : α → β} (distinct : (as.map key).Nodup)
    {a : α} (ha : a ∈ as) : as.filter (fun b => key b == key a) = [a] := by
  induction as with
  | nil => cases ha
  | cons b as ih =>
      rw [List.map_cons, List.nodup_cons] at distinct
      obtain ⟨hb, distinct⟩ := distinct
      rcases List.mem_cons.mp ha with rfl | ha
      · rw [List.filter_cons_of_pos (by simp), List.filter_eq_nil_iff.mpr]
        intro c hc heq
        exact hb (beq_iff_eq.mp heq ▸ List.mem_map_of_mem hc)
      · rw [List.filter_cons_of_neg, ih distinct ha]
        intro heq
        exact hb (beq_iff_eq.mp heq ▸ List.mem_map_of_mem ha)

/-- A change of elements that are chosen neither before nor after it. -/
theorem filter_map_of_unchosen {as : List α} {p : α → Bool} {f : α → α}
    (h : ∀ a ∈ as, f a = a ∨ (p a = false ∧ p (f a) = false)) :
    (as.map f).filter p = as.filter p := by
  induction as with
  | nil => rfl
  | cons a as ih =>
      have hrest := ih fun b hb => h b (by simp [hb])
      rcases h a (by simp) with hf | ⟨before, after⟩
      · rw [List.map_cons, hf, List.filter_cons, List.filter_cons, hrest]
      · rw [List.map_cons, List.filter_cons_of_neg (by simp [after]),
          List.filter_cons_of_neg (by simp [before]), hrest]

/-- A choice by two conditions is made in two steps. -/
theorem filter_and (as : List α) (p q : α → Bool) :
    (as.filter fun a => p a && q a) = (as.filter p).filter q := by
  rw [List.filter_filter]
  exact List.filter_congr fun a _ => Bool.and_comm _ _

/-- Leaving out elements that are not chosen. -/
theorem filter_filter_of_unchosen {as : List α} {p q : α → Bool}
    (h : ∀ a ∈ as, q a = false → p a = false) : (as.filter q).filter p = as.filter p := by
  rw [List.filter_filter]
  refine List.filter_congr fun a ha => ?_
  cases hq : q a with
  | true => rw [Bool.and_true]
  | false => rw [h a ha hq, Bool.false_and]

/-- Leaving repetitions out makes a list no longer. -/
theorem length_eraseDups_le [BEq α] : ∀ as : List α, as.eraseDups.length ≤ as.length
  | [] => le_rfl
  | a :: as => by
      -- the elements behind the first are filtered before they are looked at again
      have shorter := List.length_filter_le (fun b => !b == a) as
      have hle := length_eraseDups_le (as.filter fun b => !b == a)
      rw [List.eraseDups_cons, List.length_cons, List.length_cons]
      exact Nat.succ_le_succ (hle.trans shorter)
termination_by as => as.length

/-! ## Stable sorting -/

section Sorting

variable {as : List α} {le : α → α → Bool} (trans : ∀ a b c, le a b → le b c → le a c)
  (total : ∀ a b, le a b || le b a)
include trans total

/-- The first element comes after those that it is not to come before. -/
theorem mergeSort_cons_eq (a : α) :
    (a :: as).mergeSort le =
      (as.mergeSort le).filter (fun b => !le a b) ++ a :: (as.mergeSort le).filter (le a) := by
  obtain ⟨before, after, hcons, hsort, hbefore⟩ := List.mergeSort_cons trans total a as
  have hafter : ∀ b ∈ after, le a b := by
    have sorted := List.pairwise_mergeSort trans total (a :: as)
    rw [hcons, List.pairwise_append, List.pairwise_cons] at sorted
    exact sorted.2.1.1
  have hnot : ∀ b ∈ before, ¬ le a b := fun b hb => by simpa using hbefore b hb
  rw [hcons, hsort, List.filter_append, List.filter_append, List.filter_eq_self.mpr hbefore,
    List.filter_eq_nil_iff.mpr hnot, List.filter_eq_self.mpr hafter,
    List.filter_eq_nil_iff.mpr (by simpa using hafter), List.append_nil, List.nil_append]

/-- It makes no difference whether elements are left out before they are sorted or after it. -/
theorem filter_mergeSort (p : α → Bool) :
    (as.mergeSort le).filter p = (as.filter p).mergeSort le := by
  induction as with
  | nil => rw [List.mergeSort_nil, List.filter_nil, List.mergeSort_nil]
  | cons a as ih =>
      cases hp : p a with
      | true =>
          rw [List.filter_cons_of_pos hp, mergeSort_cons_eq trans total, mergeSort_cons_eq trans total,
            List.filter_append, List.filter_cons_of_pos hp, ← ih, List.filter_comm, List.filter_comm p]
      | false =>
          obtain ⟨before, after, hcons, hsort, -⟩ := List.mergeSort_cons trans total a as
          have hp : ¬ p a := by simp [hp]
          rw [List.filter_cons_of_neg hp, ← ih, hcons, hsort, List.filter_append, List.filter_append,
            List.filter_cons_of_neg hp]

end Sorting

/-! ## Rearranged lists -/

section SameByKey

variable {κ : Type} [DecidableEq κ] {key : α → κ} {xs ys : List α}

/-- The lists have the same elements, and those with one key in the same order. -/
def SameByKey (key : α → κ) (xs ys : List α) : Prop :=
  ∀ k, (xs.filter fun a => key a = k) = ys.filter fun a => key a = k

namespace SameByKey

theorem filter (h : SameByKey key xs ys) (p : α → Bool) :
    SameByKey key (xs.filter p) (ys.filter p) := by
  intro k
  rw [List.filter_comm, h k, List.filter_comm]

theorem perm (h : SameByKey key xs ys) : xs.Perm ys := by
  classical
  rw [List.perm_iff_count]
  intro a
  have hcount := congrArg (List.count a) (h (key a))
  rwa [List.count_filter (p := fun b => key b = key a) (by simp),
    List.count_filter (p := fun b => key b = key a) (by simp)] at hcount

/-- Elements with different keys may change places. -/
theorem swap {a b : α} (hne : key a ≠ key b) (xs : List α) :
    SameByKey key (xs ++ [a] ++ [b]) (xs ++ [b] ++ [a]) := by
  intro k
  simp only [List.filter_append, List.append_assoc, List.append_cancel_left_eq]
  by_cases ha : key a = k
  · have hb : key b ≠ k := fun hb => hne (ha.trans hb.symm)
    simp [hb]
  · simp [ha]

theorem of_cons {a : α} (h : SameByKey key (a :: xs) (a :: ys)) : SameByKey key xs ys := by
  intro k
  have hk := h k
  rw [List.filter_cons, List.filter_cons] at hk
  by_cases ha : key a = k
  · rw [if_pos (decide_eq_true ha), if_pos (decide_eq_true ha)] at hk
    exact (List.cons.inj hk).2
  · rw [if_neg (by simpa using ha), if_neg (by simpa using ha)] at hk
    exact hk

variable {le : α → α → Bool}

/-- Sorted lists are the same, if elements that tie in the order have the same key. -/
theorem eq_of_sorted (h : SameByKey key xs ys)
    (ties : ∀ a ∈ xs, ∀ b ∈ xs, le a b → le b a → key a = key b)
    (hxs : xs.Pairwise fun a b => le a b) (hys : ys.Pairwise fun a b => le a b) : xs = ys := by
  induction xs generalizing ys with
  | nil => exact h.perm.nil_eq
  | cons a xs ih =>
      cases ys with
      | nil => exact h.perm.eq_nil
      | cons b ys =>
          rw [List.pairwise_cons] at hxs hys
          have hb : b ∈ a :: xs := h.perm.symm.subset List.mem_cons_self
          have ha : a ∈ b :: ys := h.perm.subset List.mem_cons_self
          -- both come first, so they tie
          have hkey : key a = key b := by
            rcases List.mem_cons.mp ha with rfl | ha
            · rfl
            · rcases List.mem_cons.mp hb with rfl | hb
              · rfl
              · exact ties a (by simp) b (by simp [hb]) (hxs.1 b hb) (hys.1 a ha)
          obtain rfl : a = b := by
            have hfirst := h (key a)
            rw [List.filter_cons_of_pos (by simp), List.filter_cons_of_pos (by simp [hkey])] at hfirst
            exact (List.cons.inj hfirst).1
          rw [ih h.of_cons (fun x hx y hy => ties x (by simp [hx]) y (by simp [hy])) hxs.2 hys.2]

/-- Sorting undoes a rearrangement, if elements that tie in the order have the same key. -/
theorem mergeSort (trans : ∀ a b c, le a b → le b c → le a c) (total : ∀ a b, le a b || le b a)
    (h : SameByKey key xs ys) (ties : ∀ a ∈ xs, ∀ b ∈ xs, le a b → le b a → key a = key b) :
    xs.mergeSort le = ys.mergeSort le := by
  have sorted : SameByKey key (xs.mergeSort le) (ys.mergeSort le) := by
    intro k
    rw [filter_mergeSort trans total, h k, filter_mergeSort trans total]
  refine sorted.eq_of_sorted (fun a ha b hb => ?_) (List.pairwise_mergeSort trans total xs)
    (List.pairwise_mergeSort trans total ys)
  exact ties a (List.mem_mergeSort.mp ha) b (List.mem_mergeSort.mp hb)

end SameByKey

end SameByKey

/-! ## Computations over lists -/

/-- What is done to each element succeeds if it does so for every one. -/
theorem mapM_ok (as : List α) {f : α → Except ε β} {R : α → β → Prop}
    (h : ∀ a ∈ as, ∃ b, f a = .ok b ∧ R a b) : ∃ bs, as.mapM f = .ok bs ∧ List.Forall₂ R as bs := by
  induction as with
  | nil => exact ⟨[], rfl, .nil⟩
  | cons a as ih =>
      obtain ⟨b, hb, hab⟩ := h a (by simp)
      obtain ⟨bs, hbs, hall⟩ := ih fun a ha => h a (by simp [ha])
      refine ⟨b :: bs, ?_, .cons hab hall⟩
      rw [List.mapM_cons, hb, hbs]
      rfl

/-- What is done to each element fails if it does so for one, and all failures are the same. -/
theorem mapM_error {as : List α} {f : α → Except ε β} {e : ε} {a : α} (ha : a ∈ as) (fails : f a = .error e)
    (only : ∀ b ∈ as, ∀ e', f b = .error e' → e' = e) : as.mapM f = .error e := by
  induction as with
  | nil => cases ha
  | cons b as ih =>
      rw [List.mapM_cons]
      cases hb : f b with
      | error e' =>
          rw [only b (by simp) e' hb]
          rfl
      | ok c =>
          rcases List.mem_cons.mp ha with rfl | ha
          · cases fails.symm.trans hb
          · rw [ih ha fun b hb => only b (by simp [hb])]
            rfl

/-! ## Sums -/

/-- Some of the terms come to no more than all, when none is negative. -/
theorem sum_map_le_of_subperm {f : α → ℚ} {xs ys : List α} (nonneg : ∀ y ∈ ys, 0 ≤ f y)
    (sub : xs.Subperm ys) : (xs.map f).sum ≤ (ys.map f).sum := by
  obtain ⟨zs, hperm, hsub⟩ := sub
  rw [← (hperm.map f).sum_eq]
  refine (hsub.map f).sum_le_sum fun q hq => ?_
  obtain ⟨y, hy, rfl⟩ := List.mem_map.mp hq
  exact nonneg y hy

end Bookkeeping
