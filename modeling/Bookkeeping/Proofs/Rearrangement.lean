import Bookkeeping.Proofs.Isolation
import Bookkeeping.Proofs.LedgerListing

set_option autoImplicit false

/-! # Entries in another order

Two stores may hold the same entries under other identifiers, in an order that differs only between
entries of different companies or days, and written in another order (`Store.Rearranged`). Neither the
lists of entries, nor the next numbers, nor the balances tell which of both they are read from; ledgers
do not either, as long as what they open with is summed exactly, which it is for whole numbers
(`Store.Rearranged.reads`).

For every report is sorted by day, and entries that tie in its order are of one company and one day: a
stable sort undoes the rearrangement (`SameByKey.mergeSort`). Only the sums before a day are taken in the
order in which lines were written. -/

namespace Bookkeeping

variable {clock : Clock} {σ : Uuid → Uuid} {s t : Store} {a : Account}

/-! ## Identifiers -/

/-- The entry under another identifier. -/
def Entry.renamed {α : Type} (σ : Uuid → Uuid) (e : Entry α) : Entry α := { e with id := σ e.id }

/-- The line with the entry under another identifier. -/
def PostedLine.renamed (σ : Uuid → Uuid) (l : PostedLine) : PostedLine := { l with entry := σ l.entry }

namespace Reports

/-- The line with the entry under another identifier. -/
def LedgerLine.renamed (σ : Uuid → Uuid) (l : LedgerLine) : LedgerLine :=
  { l with line := l.line.renamed σ }

/-- The ledger with the entries under other identifiers. -/
def AccountLedger.renamed (σ : Uuid → Uuid) (l : AccountLedger) : AccountLedger :=
  { l with entries := l.entries.map (LedgerLine.renamed σ) }

end Reports

namespace StoredEntry

/-- The company and the day of an entry. -/
def day (e : StoredEntry) : Uuid × Date := (e.entry.company, e.entry.date)

/-- What entries are listed by, the largest first: day, sequence and number. -/
def key (e : StoredEntry) : Nat ×ₗ Int ×ₗ String :=
  toLex (e.entry.date.ordinal, toLex (e.sequence, e.entry.number))

/-- What is seen of an entry under another identifier: all but the time at which it was written. -/
def seen (σ : Uuid → Uuid) (e : StoredEntry) : StoredEntry :=
  { e with entry := e.entry.renamed σ, written := 0 }

variable (σ)

/-- What does not depend on the identifier or the time of writing chooses the same entries. -/
theorem map_seen_filter (es : List StoredEntry) {p : StoredEntry → Bool}
    (unseen : ∀ e, p (e.seen σ) = p e) : (es.filter p).map (seen σ) = (es.map (seen σ)).filter p := by
  rw [List.filter_map]
  congr 1
  exact List.filter_congr fun e _ => (unseen e).symm

theorem map_seen_mergeSort (es : List StoredEntry) {le : StoredEntry → StoredEntry → Bool}
    (unseen : ∀ a b, le (a.seen σ) (b.seen σ) = le a b) :
    (es.mergeSort le).map (seen σ) = (es.map (seen σ)).mergeSort le :=
  List.map_mergeSort fun a _ b _ => (unseen a b).symm

theorem flatMap_seen {β : Type} (es : List StoredEntry) {f : StoredEntry → List β}
    (unseen : ∀ e, f (e.seen σ) = f e) : (es.map (seen σ)).flatMap f = es.flatMap f := by
  rw [List.flatMap_map]
  exact List.flatMap_congr fun e _ => unseen e

end StoredEntry

/-! ## Rearranged stores -/

namespace Store

/-- The numbers of the entries of a company, in the order in which the entries were created. -/
def numbersOf (s : Store) (company : Uuid) : List String :=
  (s.entries.filter fun e => e.entry.company == company).map fun e => e.entry.number

/-- `t` is `s` with other identifiers, and with entries of different companies or days in another order. -/
structure Rearranged (σ : Uuid → Uuid) (s t : Store) : Prop where
  accounts : t.accounts = s.accounts
  counters : ∀ company dayPrefix, t.counter? company dayPrefix = s.counter? company dayPrefix
  days : SameByKey StoredEntry.day (t.entries.map (StoredEntry.seen id)) (s.entries.map (StoredEntry.seen σ))
  /-- The first numbers of a company are the same, and the last ones, in some order, can be read. -/
  numbers : ∀ company, ∃ old new new', s.numbersOf company = old ++ new ∧
    t.numbersOf company = old ++ new' ∧ new'.Perm new ∧
    ∀ x ∈ new, ∃ n, EntryNumber.sequenceOf x = .ok n

/-! ## Stored entries -/

/-- An entry is found under its other identifier. -/
theorem Rearranged.stored? (h : s.Rearranged σ t) (sound' : t.Sound) (injective : Function.Injective σ)
    (x : Uuid) :
    (t.stored? (σ x)).map (StoredEntry.seen id) = (s.stored? x).map (StoredEntry.seen σ) := by
  have seen_id {e e' : StoredEntry} (same : e'.seen id = e.seen σ) : e'.entry.id = σ e.entry.id :=
    congrArg (fun e => e.entry.id) same
  cases found : s.stored? x with
  | some e =>
      obtain ⟨he, rfl⟩ := stored?_some found
      have hmem := h.days.perm.symm.subset (List.mem_map_of_mem (f := StoredEntry.seen σ) he)
      obtain ⟨e', he', same⟩ := List.mem_map.mp hmem
      rw [← seen_id same, sound'.stored?_eq he']
      exact congrArg some same
  | none =>
      have missing : t.stored? (σ x) = none := by
        rw [stored?_eq_none]
        intro e' he' hid
        have hmem := h.days.perm.subset (List.mem_map_of_mem (f := StoredEntry.seen id) he')
        obtain ⟨e, he, same⟩ := List.mem_map.mp hmem
        exact stored?_eq_none.mp found e he (injective ((seen_id same.symm).symm.trans hid))
      rw [missing]
      rfl

/-! ## Next numbers -/

theorem largestSequence_append (best : Int) (xs ys : List String) :
    largestSequence best (xs ++ ys) = largestSequence best xs >>= fun n => largestSequence n ys := by
  induction xs generalizing best with
  | nil => rfl
  | cons x xs ih =>
      rw [List.cons_append, largestSequence, largestSequence, bind_assoc]
      simp only [ih]

/-- The order of numbers that can be read does not matter. -/
theorem largestSequence_perm {xs ys : List String} (perm : xs.Perm ys)
    (read : ∀ x ∈ xs, ∃ n, EntryNumber.sequenceOf x = .ok n) (best : Int) :
    largestSequence best xs = largestSequence best ys := by
  induction perm generalizing best with
  | nil => rfl
  | cons x _ ih =>
      rw [largestSequence, largestSequence]
      simp only [ih fun y hy => read y (by simp [hy])]
  | swap x y xs =>
      obtain ⟨m, hm⟩ := read x (by simp)
      obtain ⟨n, hn⟩ := read y (by simp)
      simp only [largestSequence, hm, hn]
      show largestSequence (max (max best _) _) xs = largestSequence (max (max best _) _) xs
      rw [max_right_comm]
  | trans hxy _ ih ih' =>
      rw [ih read, ih' fun y hy => read y (hxy.symm.subset hy)]

theorem numbersLike_eq (s : Store) (company : Uuid) (dayPrefix : String) :
    s.numbersLike company dayPrefix = keepMatches (dayPrefix ++ "-%")
      (Text.likeMatches none (dayPrefix ++ "-%")) (s.numbersOf company) := rfl

/-- Looking through numbers does not depend on the order of the last ones. -/
theorem highestExisting_perm {company : Uuid} (dayPrefix : String) {old new new' : List String}
    (hs : s.numbersOf company = old ++ new) (ht : t.numbersOf company = old ++ new')
    (perm : new'.Perm new) (read : ∀ x ∈ new, ∃ n, EntryNumber.sequenceOf x = .ok n) :
    t.highestExisting company dayPrefix = s.highestExisting company dayPrefix := by
  unfold highestExisting
  rw [numbersLike_eq, numbersLike_eq, hs, ht]
  unfold keepMatches
  have hempty : (old ++ new').isEmpty = (old ++ new).isEmpty := by
    exact (perm.append_left old).isEmpty_eq
  rw [hempty]
  split
  · rfl
  · rw [List.filter_append, List.filter_append]
    have hfilter := perm.filter (Text.likeMatches none (dayPrefix ++ "-%"))
    have hlength := (hfilter.append_left (old.filter (Text.likeMatches none (dayPrefix ++ "-%")))).length_eq
    show largestSequence _ _ = largestSequence _ _
    rw [hlength, largestSequence_append, largestSequence_append]
    congr 1
    funext n
    refine largestSequence_perm hfilter (fun x hx => ?_) n
    exact read x (perm.subset (List.mem_of_mem_filter hx))

theorem Rearranged.peekSequence (h : s.Rearranged σ t) (company : Uuid) (dayPrefix : String) :
    t.peekSequence company dayPrefix = s.peekSequence company dayPrefix := by
  obtain ⟨old, new, new', hs, ht, perm, read⟩ := h.numbers company
  unfold Store.peekSequence
  rw [h.counters, highestExisting_perm dayPrefix hs ht perm read]

/-! ## Lists in order -/

/-- A choice of entries of one company is the same, once it is sorted by day in the first place. -/
theorem Rearranged.sorted (h : s.Rearranged σ t) (company : Uuid) (p : StoredEntry → Bool)
    (le : StoredEntry → StoredEntry → Bool) (unseen : ∀ σ e, p (e.seen σ) = p e)
    (own : ∀ e, p e = true → e.entry.company = company)
    (unseen_le : ∀ σ a b, le (a.seen σ) (b.seen σ) = le a b) (trans : ∀ a b c, le a b → le b c → le a c)
    (total : ∀ a b, le a b || le b a) (ties : ∀ a b, le a b → le b a → a.entry.date = b.entry.date) :
    ((t.entries.filter p).mergeSort le).map (StoredEntry.seen id) =
      ((s.entries.filter p).mergeSort le).map (StoredEntry.seen σ) := by
  rw [StoredEntry.map_seen_mergeSort id _ (unseen_le id), StoredEntry.map_seen_mergeSort σ _ (unseen_le σ),
    StoredEntry.map_seen_filter id _ (unseen id), StoredEntry.map_seen_filter σ _ (unseen σ)]
  refine (h.days.filter p).mergeSort trans total fun a ha b hb hab hba => ?_
  have ha := own a (List.mem_filter.mp ha).2
  have hb := own b (List.mem_filter.mp hb).2
  exact Prod.ext (ha.trans hb.symm) (ties a b hab hba)

theorem newestFirst_iff {a b : StoredEntry} : newestFirst a b = true ↔ b.key ≤ a.key := by
  rw [StoredEntry.key, StoredEntry.key, Prod.Lex.toLex_le_toLex, Prod.Lex.toLex_le_toLex,
    ← Date.eq_iff_ordinal, newestFirst]
  by_cases hdate : a.entry.date = b.entry.date
  · rw [if_neg (not_not.mpr hdate)]
    by_cases hsequence : a.sequence = b.sequence
    · rw [if_neg (not_not.mpr hsequence), ← decide_not, decide_eq_true_iff, not_lt]
      simp [hdate, hsequence]
    · rw [if_pos hsequence, decide_eq_true_iff]
      simp [hdate, Ne.symm hsequence]
  · rw [if_pos hdate, decide_eq_true_iff]
    simp only [Ne.symm hdate, false_and, or_false]
    rfl

theorem newestFirst_trans (a b c : StoredEntry) (hab : newestFirst a b) (hbc : newestFirst b c) :
    newestFirst a c :=
  newestFirst_iff.mpr ((newestFirst_iff.mp hbc).trans (newestFirst_iff.mp hab))

theorem newestFirst_total (a b : StoredEntry) : newestFirst a b || newestFirst b a := by
  rw [Bool.or_eq_true, newestFirst_iff, newestFirst_iff]
  exact le_total _ _

theorem dateLe_trans (a b c : StoredEntry) (hab : dateLe a b) (hbc : dateLe b c) : dateLe a c :=
  decide_eq_true (Nat.le_trans (of_decide_eq_true hab) (of_decide_eq_true hbc))

theorem dateLe_total (a b : StoredEntry) : dateLe a b || dateLe b a := by
  rw [Bool.or_eq_true]
  exact (Nat.le_total a.entry.date.ordinal b.entry.date.ordinal).imp decide_eq_true decide_eq_true

/-- An entry is listed if it is of the company, and of the status on request. -/
theorem entriesOf_eq (s : Store) (company : Uuid) (status : Option EntryStatus) :
    s.entriesOf company status =
      ((s.entries.filter fun e => e.entry.company == company && status.all e.isIn).mergeSort
        newestFirst).mapM StoredEntry.read := by
  cases status <;> rfl

/-- The list of the entries of a company shows the same entries. -/
theorem Rearranged.entriesOf (h : s.Rearranged σ t) (sound : s.Sound) (sound' : t.Sound) (company : Uuid)
    (status : Option EntryStatus) :
    t.entriesOf company status = (s.entriesOf company status).map (List.map (Entry.renamed σ)) := by
  let wanted (e : StoredEntry) : Bool :=
    e.entry.company == company && status.all e.isIn
  have read {u : Store} (sound : u.Sound) : u.entriesOf company status =
      .ok (((u.entries.filter wanted).mergeSort newestFirst).map StoredEntry.shown) := by
    rw [entriesOf_eq]
    exact sound.mapM_read fun e he => List.mem_of_mem_filter (List.mem_mergeSort.mp he)
  have sorted := h.sorted company wanted newestFirst (fun _ _ => rfl)
    (fun e he => beq_iff_eq.mp (Bool.and_eq_true_iff.mp he).1) (fun _ _ _ => rfl) newestFirst_trans
    newestFirst_total fun a b hab hba => by
      have hkey := le_antisymm (newestFirst_iff.mp hba) (newestFirst_iff.mp hab)
      exact Date.eq_iff_ordinal.mpr (congrArg (fun k => (ofLex k).1) hkey)
  have shown := congrArg (List.map StoredEntry.shown) sorted
  rw [List.map_map, List.map_map] at shown
  rw [read sound, read sound']
  show Except.ok _ = Except.ok _
  rw [List.map_map]
  exact congrArg Except.ok shown

/-! ## Sums -/

/-- Balances are summed over the same lines in the same order. -/
theorem Rearranged.postedTotals (h : s.Rearranged σ t) (company : Uuid) (range : DateRange) :
    t.postedTotals company range = s.postedTotals company range := by
  have sorted := h.sorted company
    (fun e => e.entry.company == company && e.isPosted && range.holds e.entry.date) dateLe (fun _ _ => rfl)
    (fun e he => by
      rw [Bool.and_assoc] at he
      exact beq_iff_eq.mp (Bool.and_eq_true_iff.mp he).1)
    (fun _ _ _ => rfl) dateLe_trans dateLe_total fun a b hab hba =>
      Date.eq_iff_ordinal.mpr (Nat.le_antisymm (of_decide_eq_true hab) (of_decide_eq_true hba))
  have lines : ((t.postedEntries company range).flatMap fun e => e.entry.lines) =
      (s.postedEntries company range).flatMap fun e => e.entry.lines := by
    rw [← StoredEntry.flatMap_seen id (t.postedEntries company range) fun _ => rfl,
      ← StoredEntry.flatMap_seen σ (s.postedEntries company range) fun _ => rfl]
    exact congrArg _ sorted
  rw [Store.postedTotals, Store.postedTotals, lines]

end Store

/-- The sum of whole numbers does not depend on their order. -/
theorem Cell.sum?_perm {cells cells' : List Cell} (perm : cells'.Perm cells)
    (each : ∀ c ∈ cells, c.IsWhole) (lt : (cells.map amount).sum < 2 ^ 53) :
    sum? cells' = sum? cells := by
  have hsum := (perm.map amount).sum_eq
  obtain ⟨m, hm, hm'⟩ := foldl_whole each (s := {}) (n := 0) rfl rfl rfl (by simpa using lt)
  obtain ⟨n, hn, hn'⟩ := foldl_whole (fun c hc => each c (perm.subset hc)) (s := {}) (n := 0) rfl rfl rfl
    (by rw [hsum]; simpa using lt)
  rw [hsum, ← hm'] at hn'
  obtain rfl : n = m := by exact_mod_cast hn'
  exact hn.trans hm.symm

/-- All amounts of the lines are whole numbers, below `2 ^ 53` in total on either side. -/
structure Line.WholeNumbers (ls : List (Line Cell)) : Prop where
  each : ∀ l ∈ ls, l.debit.IsWhole ∧ l.credit.IsWhole
  debits : (ls.map fun l => l.debit.amount).sum < 2 ^ 53
  credits : (ls.map fun l => l.credit.amount).sum < 2 ^ 53

theorem Line.WholeNumbers.subperm {ls ls' : List (Line Cell)} (h : WholeNumbers ls)
    (sub : ls'.Subperm ls) : WholeNumbers ls' := by
  refine ⟨fun l hl => h.each l (sub.subset hl), ?_, ?_⟩
  · exact (sum_map_le_of_subperm (fun l hl => (h.each l hl).1.amount_eq.2.2) sub).trans_lt h.debits
  · exact (sum_map_le_of_subperm (fun l hl => (h.each l hl).2.amount_eq.2.2) sub).trans_lt h.credits

namespace Store

theorem sumLines_perm {ls ls' : List (Line Cell)} (perm : ls'.Perm ls) (whole : Line.WholeNumbers ls) :
    sumLines ls' = sumLines ls := by
  have debits : Cell.sum? (ls'.map Line.debit) = Cell.sum? (ls.map Line.debit) := by
    refine Cell.sum?_perm (perm.map _) (fun c hc => ?_) ?_
    · obtain ⟨l, hl, rfl⟩ := List.mem_map.mp hc
      exact (whole.each l hl).1
    · rw [List.map_map]
      exact whole.debits
  have credits : Cell.sum? (ls'.map Line.credit) = Cell.sum? (ls.map Line.credit) := by
    refine Cell.sum?_perm (perm.map _) (fun c hc => ?_) ?_
    · obtain ⟨l, hl, rfl⟩ := List.mem_map.mp hc
      exact (whole.each l hl).2
    · rw [List.map_map]
      exact whole.credits
  unfold sumLines sumCells
  rw [debits, credits]

/-- What is chosen of the entries has the same lines. -/
theorem Rearranged.linesOn_perm (h : s.Rearranged σ t) (id : Uuid) (days : Date → Bool) :
    (t.linesOn id days).Perm (s.linesOn id days) := by
  have chosen := (h.days.filter fun e => e.isPosted && days e.entry.date).perm
  rw [← StoredEntry.map_seen_filter _ _ fun _ => rfl, ← StoredEntry.map_seen_filter _ _ fun _ => rfl]
    at chosen
  have lines := chosen.flatMap_right fun e => e.linesOn id
  rwa [StoredEntry.flatMap_seen _ _ fun _ => rfl, StoredEntry.flatMap_seen _ _ fun _ => rfl] at lines

/-- What was posted before a day comes to the same, if it is in whole numbers. -/
theorem Rearranged.postedTotalsBefore (h : s.Rearranged σ t) (whole : Line.WholeNumbers s.lines)
    (id : Uuid) (day : Date) : t.postedTotalsBefore id day = s.postedTotalsBefore id day := by
  have hs := linesBefore_perm (s := s) id day
  have ht := (linesBefore_perm (s := t) id day).trans (h.linesOn_perm id fun d => decide (d < day))
  refine sumLines_perm (ht.trans hs.symm) (whole.subperm ?_)
  exact hs.subperm.trans (s.linesOn_subperm id fun d => decide (d < day))

/-! ## Lines of an account -/

/-- The lines on an account on one day are lines of the entries of its company on that day. -/
theorem Chartered.linesFor_day (chartered : s.Chartered) (ha : a ∈ s.accounts) (range : DateRange)
    (d : Date) : ((s.linesFor a.id range).filter fun l => l.date = d) =
      ((s.entries.filter fun e => e.day = (a.company, d)).filter fun e =>
        e.isPosted && range.holds e.entry.date).flatMap fun e =>
          (e.linesOn a.id).map (postedLine e) := by
  have dated (e : StoredEntry) : (((e.linesOn a.id).map (postedLine e)).filter fun l => l.date = d) =
      if e.entry.date = d then (e.linesOn a.id).map (postedLine e) else [] := by
    by_cases hd : e.entry.date = d
    · rw [if_pos hd, List.filter_eq_self]
      intro l hl
      obtain ⟨x, -, rfl⟩ := List.mem_map.mp hl
      exact decide_eq_true hd
    · rw [if_neg hd, List.filter_eq_nil_iff]
      intro l hl hld
      obtain ⟨x, -, rfl⟩ := List.mem_map.mp hl
      exact hd (of_decide_eq_true hld)
  have hday {e : StoredEntry} : decide (e.day = (a.company, d)) = true ↔
      e.entry.company = a.company ∧ e.entry.date = d := by
    rw [decide_eq_true_iff, StoredEntry.day, Prod.mk.injEq]
  rw [linesFor, List.filter_flatMap, List.filter_comm, ← flatMap_filter_of_nil (p := fun e =>
    decide (e.day = (a.company, d)))]
  · refine List.flatMap_congr fun e he => ?_
    rw [dated, if_pos (hday.mp (List.mem_filter.mp he).2).2]
  · intro e he hother
    rw [dated]
    split
    · next hd =>
        have hcompany : e.entry.company ≠ a.company := by
          intro hcompany
          rw [hday.mpr ⟨hcompany, hd⟩] at hother
          cases hother
        rw [chartered.linesOn_nil ha (List.mem_of_mem_filter he) hcompany, List.map_nil]
    · rfl

theorem Rearranged.linesFor (h : s.Rearranged σ t) (chartered : s.Chartered) (chartered' : t.Chartered)
    (ha : a ∈ s.accounts) (range : DateRange) :
    SameByKey PostedLine.date (t.linesFor a.id range)
      ((s.linesFor a.id range).map (PostedLine.renamed σ)) := by
  intro d
  let f (e : StoredEntry) : List PostedLine := (e.linesOn a.id).map (postedLine e)
  let chosen (e : StoredEntry) : Bool := e.isPosted && range.holds e.entry.date
  have entries := congrArg (List.filter chosen) (h.days (a.company, d))
  rw [← StoredEntry.map_seen_filter _ _ fun _ => rfl, ← StoredEntry.map_seen_filter _ _ fun _ => rfl,
    ← StoredEntry.map_seen_filter _ _ fun _ => rfl, ← StoredEntry.map_seen_filter _ _ fun _ => rfl]
    at entries
  have lines := congrArg (List.flatMap f) entries
  rw [List.flatMap_map, List.flatMap_map] at lines
  have ha' : a ∈ t.accounts := by
    rw [h.accounts]
    exact ha
  rw [chartered'.linesFor_day ha' range d, List.filter_map]
  refine lines.trans ?_
  have renamed := congrArg (List.map (PostedLine.renamed σ)) (chartered.linesFor_day ha range d)
  refine Eq.trans ?_ renamed.symm
  rw [List.map_flatMap]
  refine List.flatMap_congr fun e _ => ?_
  show (e.linesOn a.id).map _ = ((e.linesOn a.id).map _).map _
  rw [List.map_map]
  rfl

/-- A search does not look at identifiers. -/
theorem filter_matchesSearch (pattern : String) (ls : List PostedLine) :
    (ls.map (PostedLine.renamed σ)).filter (matchesSearch pattern) =
      (ls.filter (matchesSearch pattern)).map (PostedLine.renamed σ) := by
  rw [List.filter_map]
  congr 1

/-- Lines that agree by day are the same once they are sorted. -/
theorem sorted_lines {ls ls' : List PostedLine}
    (h : SameByKey PostedLine.date ls' (ls.map (PostedLine.renamed σ))) :
    ls'.mergeSort chronological = (ls.mergeSort chronological).map (PostedLine.renamed σ) := by
  have sorted : (ls.mergeSort chronological).map (PostedLine.renamed σ) =
      (ls.map (PostedLine.renamed σ)).mergeSort chronological := List.map_mergeSort fun _ _ _ _ => rfl
  rw [sorted]
  refine h.mergeSort chronological_trans chronological_total fun x _ y _ hxy hyx => ?_
  have hkey := le_antisymm (chronological_iff.mp hxy) (chronological_iff.mp hyx)
  exact Date.eq_iff_ordinal.mpr (congrArg (fun k => (ofLex k).1) hkey)

/-- The lines of an account are read in the same order. -/
theorem Rearranged.postedLines (h : s.Rearranged σ t) (chartered : s.Chartered)
    (chartered' : t.Chartered) (ha : a ∈ s.accounts) (range : DateRange) (search : Option String) :
    t.postedLines a.id range search =
      (s.postedLines a.id range search).map (List.map (PostedLine.renamed σ)) := by
  have lines := h.linesFor chartered chartered' ha range
  rw [postedLines_eq, postedLines_eq]
  cases search with
  | none => exact congrArg Except.ok (sorted_lines lines)
  | some term =>
      have hempty : (t.linesFor a.id range).isEmpty = (s.linesFor a.id range).isEmpty := by
        rw [lines.perm.isEmpty_eq, List.isEmpty_map]
      have found := lines.filter (matchesSearch (Text.containsPattern term))
      rw [filter_matchesSearch] at found
      unfold foundLines keepMatches
      dsimp only
      rw [hempty]
      by_cases long : (Text.isPatternTooLong (Text.containsPattern term) &&
          !(s.linesFor a.id range).isEmpty) = true
      · rw [if_pos long, if_pos long]
        rfl
      · rw [if_neg long, if_neg long]
        exact congrArg Except.ok (sorted_lines found)

end Store

/-! ## Ledgers -/

namespace Reports

theorem page_map {α β : Type} (f : LedgerFilters) (g : α → β) (xs : List α) :
    f.page (xs.map g) = (f.page xs).map g := by
  unfold LedgerFilters.page
  cases f.limit with
  | none => exact List.map_drop.symm
  | some n => simp [List.map_drop, List.map_take]

/-- Balances do not depend on the identifiers of entries. -/
theorem runningBalances_renamed (type : AccountType) (opening : Decimal) (rows : List PostedLine) :
    runningBalances type opening (rows.map (PostedLine.renamed σ)) =
      (runningBalances type opening rows).map (List.map (LedgerLine.renamed σ)) := by
  induction rows generalizing opening with
  | nil => rfl
  | cons l rest ih =>
      rw [List.map_cons, runningBalances, runningBalances]
      simp only [ih, map_bind_except]
      show (type.signedMovement l.debit l.credit >>= _) = _
      congr 1
      funext m
      congr 1
      funext b
      cases runningBalances type b rest <;> rfl

theorem replay_renamed (a : Account) (opening : Decimal) (rows : List PostedLine) :
    replay a opening (rows.map (PostedLine.renamed σ)) =
      (replay a opening rows).map (AccountLedger.renamed σ) := by
  have amounts (field : PostedLine → Decimal) (unseen : ∀ l, field (l.renamed σ) = field l) :
      (rows.map (PostedLine.renamed σ)).map field = rows.map field := by
    rw [List.map_map]
    exact List.map_congr_left fun l _ => unseen l
  unfold replay
  rw [runningBalances_renamed, amounts PostedLine.debit fun _ => rfl, amounts PostedLine.credit fun _ => rfl]
  cases runningBalances a.type opening rows with
  | error f => rfl
  | ok entries =>
      simp only [map_bind_except]
      dsimp only [Except.map, bind, Except.bind, pure, Except.pure]
      rw [List.length_map]
      rfl

theorem paged_renamed (l : AccountLedger) (f : LedgerFilters) :
    (l.renamed σ).paged f = (l.paged f).renamed σ := by
  show { l with entries := f.page (l.entries.map (LedgerLine.renamed σ)) } =
    { l with entries := (f.page l.entries).map (LedgerLine.renamed σ) }
  rw [page_map]

/-- The ledger of an account that does not exist is refused. -/
theorem ledgerFor_missing {w : World} {id : Uuid} (idle : w.pending = none)
    (missing : w.store.account? id = none) (f : LedgerFilters) :
    (ledgerFor id f).run clock w = (.error (.ledger (.accountNotFound id)), w) := by
  have account : (Procedure.perform (.account id)).exec clock w = (.ok none, w) :=
    Procedure.exec_perform idle (congrArg (fun x => (Except.ok x, w)) missing)
  refine Procedure.run_of_exec ?_ idle
  rw [ledgerFor, Procedure.exec_bind_ok account]
  rfl

end Reports

namespace Store

open Reports

/-- The ledger of an account lists the same lines with the same balances, if what it opens with is summed
    exactly. -/
theorem Rearranged.wholeLedger (h : s.Rearranged σ t) (chartered : s.Chartered) (chartered' : t.Chartered)
    (whole : Line.WholeNumbers s.lines) (ha : a ∈ s.accounts) (f : LedgerFilters) :
    wholeLedger t a f = (wholeLedger s a f).map (AccountLedger.renamed σ) := by
  have opening : openingOf t a f.start = openingOf s a f.start := by
    unfold openingOf
    simp only [h.postedTotalsBefore whole]
  unfold Reports.wholeLedger
  rw [opening, h.postedLines chartered chartered' ha]
  cases openingOf s a f.start with
  | error e => rfl
  | ok b =>
      cases s.postedLines a.id f.range (searchTerm f.search) with
      | error e => rfl
      | ok rows =>
          show liftAmount (replay a b (rows.map (PostedLine.renamed σ))) = _
          rw [replay_renamed]
          show _ = (liftAmount (replay a b rows)).map _
          cases replay a b rows <;> rfl

/-! ## All that is read -/

/-- What is read of `t` is what is read of `s`, with the entries under other identifiers. -/
structure ReadsAs (σ : Uuid → Uuid) (s t : Store) : Prop where
  /-- All that is stored of an entry but the time at which it was written. -/
  stored : ∀ x, (t.stored? (σ x)).map (StoredEntry.seen id) = (s.stored? x).map (StoredEntry.seen σ)
  listEntries : ∀ clock company status,
    ((Journal.listEntries company status).run clock { store := t }).1 =
      ((Journal.listEntries company status).run clock { store := s }).1.map (List.map (Entry.renamed σ))
  nextEntryNumber : ∀ clock setting company date,
    ((Journal.nextEntryNumber setting company date).run clock { store := t }).1 =
      ((Journal.nextEntryNumber setting company date).run clock { store := s }).1
  balances : ∀ clock company range, ((Reports.balances company range).run clock { store := t }).1 =
    ((Reports.balances company range).run clock { store := s }).1
  trialBalance : ∀ clock company range,
    ((Reports.trialBalance company range).run clock { store := t }).1 =
      ((Reports.trialBalance company range).run clock { store := s }).1
  ledgerFor : ∀ clock id f, ((Reports.ledgerFor id f).run clock { store := t }).1 =
    ((Reports.ledgerFor id f).run clock { store := s }).1.map (AccountLedger.renamed σ)

theorem Rearranged.reads (h : s.Rearranged σ t) (sound : s.Sound) (sound' : t.Sound)
    (chartered : s.Chartered) (chartered' : t.Chartered) (injective : Function.Injective σ)
    (whole : Line.WholeNumbers s.lines) : s.ReadsAs σ t := by
  have accounts (company : Uuid) : t.accountsOf company true = s.accountsOf company true := by
    rw [accountsOf, accountsOf, companyAccounts, companyAccounts, h.accounts]
  have balances (clock : Clock) (company : Uuid) (range : DateRange) :
      (Reports.balances company range).AnswersAlike clock clock { store := t } { store := s } :=
    balances_alike rfl rfl (accounts company).symm (h.postedTotals company range).symm
  refine ⟨h.stored? sound' injective, fun clock company status => ?_,
    fun clock setting company date => ?_,
    fun clock company range => (balances clock company range).run,
    fun clock company range => (trialBalance_alike (balances clock company range)).run,
    fun clock id f => ?_⟩
  · exact h.entriesOf sound sound' company status
  · have look (dayPrefix : String) : (Procedure.perform (.peekSequence company dayPrefix)).AnswersAlike
        clock clock { store := t } { store := s } :=
      Procedure.answersAlike_perform rfl rfl (Store.peekSequence · company dayPrefix) (fun _ _ => rfl)
        (h.peekSequence company dayPrefix).symm
    refine Procedure.AnswersAlike.run ((look _).bind fun sequence => ?_)
    dsimp only
    split <;> exact Procedure.answersAlike_done _
  · have account : t.account? id = s.account? id := by rw [account?, account?, h.accounts]
    cases found : s.account? id with
    | none =>
        rw [ledgerFor_missing (w := { store := s }) rfl found,
          ledgerFor_missing (w := { store := t }) rfl (account.trans found)]
        rfl
    | some a =>
        obtain ⟨ha, rfl⟩ := account?_some found
        rw [ledgerFor_run (w := { store := s }) rfl found,
          ledgerFor_run (w := { store := t }) rfl (account.trans found)]
        show (Reports.wholeLedger t a f).map _ = ((Reports.wholeLedger s a f).map _).map _
        rw [h.wholeLedger chartered chartered' whole ha]
        cases Reports.wholeLedger s a f with
        | error e => rfl
        | ok ledger => exact congrArg Except.ok (paged_renamed ledger f)

end Store

end Bookkeeping
