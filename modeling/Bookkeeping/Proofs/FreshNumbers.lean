import Bookkeeping.Proofs.DoubleValue
import Bookkeeping.Proofs.Lifecycle
import Bookkeeping.Proofs.NumberText
import Bookkeeping.Proofs.ReadBack

set_option autoImplicit false

/-! # Fresh numbers

A number that is allocated next is never in use, whatever the words that numbers have started with so
far: every stored number was allocated from the counter that stands for what is before its sequence,
and that counter has moved past it (`Store.Counted`). Identifiers are fresh as well, and what the check
of double entry accepts can be stored. So after any run the write of an accepted entry goes through as
soon as it is prepared (`Store.creation_applies`): only a disturbance from outside can end its
transaction. -/

namespace Bookkeeping

variable {clock : Clock} {word : String} {s s' : Store} {ev : Event}

/-! ## What a step does to numbers -/

namespace Store

/-- The numbers of the entries, with their companies. -/
def numbers (s : Store) : List (Uuid × String) :=
  s.entries.map fun a => (a.entry.company, a.entry.number)

theorem mem_numbers {company : Uuid} {number : String} : (company, number) ∈ s.numbers ↔
    ∃ a ∈ s.entries, a.entry.company = company ∧ a.entry.number = number := by
  simp [numbers]

/-- What a step does to the numbers: it leaves them and the counters, deletes an entry with its number, or
    gives a new entry the number that was foretold. -/
inductive NumberStep (word : String) (s : Store) : Event → Store → Prop where
  | kept {ev : Event} {s' : Store} (event : ∀ e, ev ≠ .entryCreated e)
      (counters : s'.counters = s.counters) (numbers : s'.numbers = s.numbers) : NumberStep word s ev s'
  | deleted {id : Uuid} : NumberStep word s (.entryDeleted id)
      { s with entries := s.entries.filter fun e => e.entry.id != id }
  | created {e : Entry Decimal} {e' : Entry Cell} {n : Int} {counters : List Counter}
      (company : e'.company = e.company) (same : e'.number = e.number)
      (allocation : Allocation s e.company (EntryNumber.dayPrefix word e.date) n counters)
      (number : e.number = EntryNumber.format (EntryNumber.dayPrefix word e.date) n) :
      NumberStep word s (.entryCreated e) (s.withEntry counters e' n)

/-- A change of one entry that keeps company and number. -/
theorem numbers_updateStored {id : Uuid} {f : StoredEntry → StoredEntry}
    (hf : ∀ e, (f e).entry.company = e.entry.company ∧ (f e).entry.number = e.entry.number) :
    (s.updateStored id f).numbers = s.numbers := by
  rw [numbers, updateStored, List.map_map]
  refine List.map_congr_left fun e _ => ?_
  dsimp only [Function.comp_apply]
  split
  · rw [(hf e).1, (hf e).2]
  · rfl

theorem Step.numberStep (hs : s.Step clock word ev s') : s.NumberStep word ev s' := by
  cases hs with
  | nothing | accountsOpened | accountKept | accountSaved | accountDeleted =>
      exact .kept (fun e he => by cases he) rfl rfl
  | entryCreated accepted clock_eq allocation number_eq status_eq postedBy_eq stored new free =>
      exact .created rfl rfl allocation number_eq
  | draftEdited => exact .kept (fun e he => by cases he) rfl (numbers_updateStored fun e => ⟨rfl, rfl⟩)
  | entryPosted | entryVoided =>
      refine .kept (fun e he => by cases he) rfl (numbers_updateStored fun e => ?_)
      split <;> exact ⟨rfl, rfl⟩
  | entryDeleted => exact .deleted

end Store

/-! ## Counters ahead of the numbers -/

namespace Store

/-- Counters are not negative, and those of the stored numbers have moved past them. -/
structure Counted (s : Store) : Prop where
  nonneg : ∀ company dayPrefix c, s.counter? company dayPrefix = some c → 0 ≤ c.next
  stored : ∀ a ∈ s.entries, ∃ dayPrefix n c, 0 ≤ n ∧
    a.entry.number = EntryNumber.format dayPrefix n ∧
    s.counter? a.entry.company dayPrefix = some c ∧ n < c.next

theorem Counted.empty : ({} : Store).Counted := by
  refine ⟨fun company dayPrefix c h => ?_, fun a ha => ?_⟩
  · cases h
  · cases ha

theorem le_largestSequence {best n : Int} {numbers : List String}
    (h : largestSequence best numbers = .ok n) : best ≤ n := by
  induction numbers generalizing best with
  | nil =>
      cases h
      exact le_rfl
  | cons number rest ih =>
      obtain ⟨x, -, h⟩ := bind_eq_ok h
      exact (le_max_left _ _).trans (ih h)

/-- The number that is allocated next is not negative when its counter is not. -/
theorem peekSequence_nonneg {company : Uuid} {dayPrefix : String} {n : Int}
    (nonneg : ∀ c, s.counter? company dayPrefix = some c → 0 ≤ c.next)
    (hn : s.peekSequence company dayPrefix = .ok n) : 0 ≤ n := by
  unfold peekSequence at hn
  cases hc : s.counter? company dayPrefix with
  | some c =>
      rw [hc] at hn
      cases hn
      exact nonneg c hc
  | none =>
      rw [hc] at hn
      obtain ⟨highest, hhighest, hn⟩ := bind_eq_ok hn
      obtain ⟨numbers, -, hhighest⟩ := bind_eq_ok hhighest
      have hle := le_largestSequence hhighest
      cases hn
      omega

theorem Counted.peekSequence_nonneg (h : s.Counted) {company : Uuid} {dayPrefix : String} {n : Int}
    (hn : s.peekSequence company dayPrefix = .ok n) : 0 ≤ n :=
  Store.peekSequence_nonneg (h.nonneg company dayPrefix) hn

/-- A counter tells the number that is allocated next. -/
theorem peekSequence_of_counter {company : Uuid} {dayPrefix : String} {c : Counter}
    (hc : s.counter? company dayPrefix = some c) : s.peekSequence company dayPrefix = .ok c.next := by
  rw [peekSequence, hc]

/-- The number that is allocated next is not in use. -/
theorem Counted.numberFree (h : s.Counted) {company : Uuid} {dayPrefix : String} {n : Int}
    (hn : s.peekSequence company dayPrefix = .ok n) :
    s.numberTaken company (EntryNumber.format dayPrefix n) = false := by
  rw [numberTaken, List.any_eq_false]
  intro a ha taken
  obtain ⟨hcompany, hnumber⟩ := Bool.and_eq_true_iff.mp taken
  obtain ⟨p, m, c, hm, hstored, hc, hlt⟩ := h.stored a ha
  have hsame := hstored.symm.trans (beq_iff_eq.mp hnumber)
  obtain ⟨rfl, rfl⟩ := EntryNumber.format_cancel hm (h.peekSequence_nonneg hn) hsame
  -- its counter would be the one that tells the number, and stands behind it
  rw [beq_iff_eq.mp hcompany] at hc
  have hnext := (peekSequence_of_counter hc).symm.trans hn
  cases hnext
  exact lt_irrefl _ hlt

/-- What leaves the counters, and adds no number. -/
theorem Counted.kept (h : s.Counted) (counters : s'.counters = s.counters)
    (numbers : s'.numbers ⊆ s.numbers) : s'.Counted := by
  have same (company : Uuid) (dayPrefix : String) :
      s'.counter? company dayPrefix = s.counter? company dayPrefix := by
    rw [counter?, counter?, counters]
  refine ⟨fun company dayPrefix c hc => ?_, fun a' ha' => ?_⟩
  · rw [same] at hc
    exact h.nonneg company dayPrefix c hc
  · obtain ⟨a, ha, hcompany, hnumber⟩ := mem_numbers.mp (numbers (mem_numbers.mpr ⟨a', ha', rfl, rfl⟩))
    obtain ⟨p, n, c, hn, hstored, hc, hlt⟩ := h.stored a ha
    refine ⟨p, n, c, hn, hnumber.symm.trans hstored, ?_, hlt⟩
    rw [same, ← hcompany, hc]

/-- A new entry moves its counter past its number, and leaves the others. -/
theorem Counted.created (h : s.Counted) {e : Entry Cell} {dayPrefix : String} {n : Int}
    {counters : List Counter} (allocation : Allocation s e.company dayPrefix n counters)
    (number : e.number = EntryNumber.format dayPrefix n) : (s.withEntry counters e n).Counted := by
  have hn := h.peekSequence_nonneg allocation.number
  have counter : (s.withEntry counters e n).counter? e.company dayPrefix =
      some ⟨e.company, dayPrefix, n + 1⟩ := allocation.counter
  have others {company : Uuid} {p : String} (hne : ¬ (company = e.company ∧ p = dayPrefix)) :
      (s.withEntry counters e n).counter? company p = s.counter? company p :=
    allocation.others company p hne
  refine ⟨fun company p c hc => ?_, fun a ha => ?_⟩
  · by_cases hsame : company = e.company ∧ p = dayPrefix
    · obtain ⟨rfl, rfl⟩ := hsame
      obtain rfl := Option.some.inj (counter.symm.trans hc)
      show 0 ≤ n + 1
      omega
    · rw [others hsame] at hc
      exact h.nonneg company p c hc
  · rcases List.mem_append.mp ha with ha | ha
    · obtain ⟨p, m, c, hm, hstored, hc, hlt⟩ := h.stored a ha
      by_cases hsame : a.entry.company = e.company ∧ p = dayPrefix
      · obtain ⟨hcompany, rfl⟩ := hsame
        rw [hcompany] at hc ⊢
        have hnext := (peekSequence_of_counter hc).symm.trans allocation.number
        cases hnext
        exact ⟨p, m, _, hm, hstored, counter, hlt.trans (lt_add_one _)⟩
      · exact ⟨p, m, c, hm, hstored, (others hsame).trans hc, hlt⟩
    · rw [List.mem_singleton.mp ha]
      exact ⟨dayPrefix, n, _, hn, number, counter, lt_add_one n⟩

/-- Deleting entries adds no number. -/
theorem numbers_filter_subset (keep : StoredEntry → Bool) :
    ({ s with entries := s.entries.filter keep } : Store).numbers ⊆ s.numbers :=
  List.map_subset _ (List.filter_subset_self _)

theorem Counted.step (h : s.Counted) (hs : s.Step clock word ev s') : s'.Counted := by
  cases hs.numberStep with
  | kept _ counters numbers => exact h.kept counters fun x hx => numbers ▸ hx
  | deleted => exact h.kept rfl (numbers_filter_subset _)
  | created company same allocation number =>
      exact h.created (company ▸ allocation) (same.trans number)

/-- The counters after a run are ahead of the numbers. -/
theorem after_counted (sessions : List Session) : (after sessions).Counted :=
  run_invariant (P := fun _ s => s.Counted) (W := fun _ => True) .empty (fun _ h hs => h.step hs) sessions
    fun _ _ => trivial

/-- The identifier that is given out next is not in use. -/
theorem Sound.stored?_issue (sound : s.Sound) : s.stored? (Uuid.issue s.issued) = none := by
  rw [stored?_eq_none]
  intro e he hid
  obtain ⟨k, hk, hissued⟩ := sound.issued e he
  exact absurd (Uuid.issue_injective (hissued.symm.trans hid)) (Nat.ne_of_lt hk)

end Store

/-! ## Storing lines -/

/-- A number of any size can be stored. -/
theorem Cell.ofDecimal?_of_isFinite {a : Decimal} (ha : a.isFinite) : ∃ c, ofDecimal? a = some c := by
  obtain ⟨s, c, e, rfl⟩ := Decimal.isFinite_iff.mp ha
  have hnan : Binary64.ofDecimal (.finite s c e) ≠ .nan := by
    unfold Binary64.ofDecimal Binary64.ofRatio Binary64.ofUnits
    dsimp only
    split
    · exact nofun
    · split
      · exact nofun
      · split
        · exact nofun
        · split <;> exact nofun
  unfold ofDecimal?
  split
  · next h => exact absurd h hnan
  · exact ⟨_, rfl⟩

/-- Lines that are accepted can be stored. -/
theorem storeLines_of_finite {ls : List (Line Decimal)}
    (finite : ∀ l ∈ ls, l.debit.isFinite ∧ l.credit.isFinite) :
    ∃ cells, storeLines ls = some cells := by
  induction ls with
  | nil => exact ⟨[], rfl⟩
  | cons l rest ih =>
      obtain ⟨hdebit, hcredit⟩ := finite l (by simp)
      obtain ⟨d, hd⟩ := Cell.ofDecimal?_of_isFinite hdebit
      obtain ⟨c, hc⟩ := Cell.ofDecimal?_of_isFinite hcredit
      obtain ⟨cells, hcells⟩ := ih fun l hl => finite l (by simp [hl])
      unfold storeLines at hcells ⊢
      refine ⟨{ l with debit := d, credit := c } :: cells, ?_⟩
      rw [List.mapM_cons, Line.store?, hd, hc, hcells]
      rfl

namespace Statement

/-- Lines that can be stored are inserted one by one. -/
theorem insertLines_applies (id : Uuid) {ls : List (Line Decimal)} {cells : List (Line Cell)}
    (h : storeLines ls = some cells) (s : Store) :
    ∃ t, applyAll (ls.map (.insertLine id)) s = .ok t := by
  induction ls generalizing s cells with
  | nil => exact ⟨s, rfl⟩
  | cons l rest ih =>
      unfold storeLines at h
      rw [List.mapM_cons, Option.bind_eq_bind, Option.bind_eq_some_iff] at h
      obtain ⟨c, hc, h⟩ := h
      rw [Option.bind_eq_bind, Option.bind_eq_some_iff] at h
      obtain ⟨rest', hrest, -⟩ := h
      obtain ⟨t, ht⟩ := ih hrest (s.updateStored id (StoredEntry.withLine c))
      refine ⟨t, applyAll_cons_ok.mpr ⟨_, ?_, ht⟩⟩
      rw [apply, hc]

end Statement

/-! ## The write of an entry -/

namespace Store

/-- A number that can be allocated is allocated by statements that go through. -/
theorem allocate_applies {company : Uuid} {dayPrefix : String} {p : Write Int}
    (hp : s.allocate company dayPrefix = .ok p) :
    ∃ t, Statement.applyAll p.statements s = .ok t := by
  unfold allocate at hp
  cases hc : s.counter? company dayPrefix with
  | some c =>
      rw [hc] at hp
      dsimp only at hp
      split at hp <;> cases hp
      exact ⟨_, rfl⟩
  | none =>
      rw [hc] at hp
      obtain ⟨n, -, hp⟩ := bind_eq_ok hp
      obtain ⟨-, -, hp⟩ := bind_eq_ok hp
      cases hp
      have hfree : (s.counters.any fun d => d.company == company && d.dayPrefix == dayPrefix) =
          false := by
        rw [List.any_eq_false]
        exact List.find?_eq_none.mp hc
      exact ⟨_, Statement.applyAll_cons_ok.mpr ⟨_, Statement.violated_ok.mpr ⟨hfree, rfl⟩, rfl⟩⟩

/-- A number is allocated when it was foretold and its successor fits into the store. -/
theorem allocate_of_peekSequence {company : Uuid} {dayPrefix : String} {n : Int}
    (hn : s.peekSequence company dayPrefix = .ok n) (fits : Cell.fits (n + 1) = true) :
    ∃ p, s.allocate company dayPrefix = .ok p := by
  unfold peekSequence at hn
  unfold allocate
  cases hc : s.counter? company dayPrefix with
  | some c =>
      rw [hc] at hn
      cases hn
      dsimp only
      rw [if_pos fits]
      exact ⟨_, rfl⟩
  | none =>
      rw [hc] at hn
      obtain ⟨highest, hhighest, hn⟩ := bind_eq_ok hn
      cases hn
      dsimp only
      rw [hhighest]
      dsimp only [bind, Except.bind]
      rw [checkWidth, if_pos fits]
      exact ⟨_, rfl⟩

theorem largestSequence_error {best : Int} {numbers : List String} {f : Failure}
    (h : largestSequence best numbers = .error f) : f.kind? = none := by
  induction numbers generalizing best with
  | nil => cases h
  | cons number rest ih =>
      rcases bind_eq_error h with h | ⟨x, -, h⟩
      · unfold EntryNumber.sequenceOf at h
        dsimp only at h
        split at h
        · split at h <;> cases h
          rfl
        · cases h
      · exact ih h

theorem highestExisting_error {company : Uuid} {dayPrefix : String} {f : Failure}
    (h : s.highestExisting company dayPrefix = .error f) : f.kind? = none := by
  rcases bind_eq_error h with h | ⟨numbers, -, h⟩
  · unfold numbersLike keepMatches at h
    dsimp only at h
    split at h <;> cases h
    rfl
  · exact largestSequence_error h

/-- A number that cannot be allocated breaks no rule of the ledger. -/
theorem allocate_error {company : Uuid} {dayPrefix : String} {f : Failure}
    (h : s.allocate company dayPrefix = .error f) : f.kind? = none := by
  unfold allocate at h
  cases hc : s.counter? company dayPrefix with
  | some c =>
      rw [hc] at h
      dsimp only at h
      split at h <;> cases h
      rfl
  | none =>
      rw [hc] at h
      rcases bind_eq_error h with h | ⟨n, -, h⟩
      · exact highestExisting_error h
      · rcases bind_eq_error h with h | ⟨-, -, h⟩
        · unfold checkWidth at h
          split at h <;> cases h
          rfl
        · cases h

/-- The write of an accepted entry goes through once it is prepared, when its number is not in use. -/
theorem creation_applies (sound : s.Sound) {now : Instant} {header : EntryHeader}
    {lines : List PostingLine} (accepted : s.Accepts header.company lines) {dayPrefix : String}
    (free : ∀ n, s.peekSequence header.company dayPrefix = .ok n →
      s.numberTaken header.company (EntryNumber.format dayPrefix n) = false)
    {status : EntryStatus} {postedBy : Option String} {p : Write (Entry Decimal)}
    (hp : s.createEntry now header lines dayPrefix status postedBy = .ok p) :
    ∃ t, Statement.applyAll p.statements s = .ok t := by
  obtain ⟨q, hq, hp⟩ := bind_eq_ok hp
  cases hp
  obtain ⟨t, ht⟩ := allocate_applies hq
  obtain ⟨allocation, hcounters⟩ := allocate_sent hq ht
  have finite : ∀ l ∈ numberLines 1 lines, l.debit.isFinite ∧ l.credit.isFinite := by
    intro l hl
    exact (accepted.passed.oneSided (List.mem_map_of_mem hl)).finite
  obtain ⟨cells, hcells⟩ := storeLines_of_finite finite
  have unused : (t.numberTaken header.company (EntryNumber.format dayPrefix q.answer) ||
      (t.stored? (Uuid.issue s.issued)).isSome) = false := by
    rw [hcounters, Bool.or_eq_false_iff]
    refine ⟨free q.answer allocation.number, ?_⟩
    show (s.stored? (Uuid.issue s.issued)).isSome = false
    rw [sound.stored?_issue]
    rfl
  obtain ⟨u, hu⟩ := Statement.insertLines_applies (Uuid.issue s.issued) hcells _
  exact ⟨u, Statement.applyAll_append_ok.mpr ⟨t, ht, Statement.applyAll_cons_ok.mpr
    ⟨_, Statement.violated_ok.mpr ⟨unused, rfl⟩, hu⟩⟩⟩

end Store

end Bookkeeping
