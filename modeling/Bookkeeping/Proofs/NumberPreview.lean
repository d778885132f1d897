import Bookkeeping.Proofs.IndependentCreations
import Bookkeeping.Proofs.Numbering
import Bookkeeping.Proofs.Precision

set_option autoImplicit false

/-! # Number previews

The number that is told for the next entry of a day is the number that it gets, also when counters were
lost before (`Creation.number_foretold`). Without its counter the next number of a day is one more than the
largest that the pattern of the day finds, so it is not in use (`Store.Ahead.numberFree`), and the first
attempt to create the entry meets no conflict.

A counter is moved by the entries of its own company and day only, so nothing else disturbs the preview while
there is one. Where there is none, what the pattern of the day finds has to stay as it is: no entry with such
a number may go (`Creation.number_foretold_false_of_deletion`), and none may come from another day, which only
another word or a word with a zero character can bring about
(`Creation.number_foretold_false_of_found_numbers`). -/

namespace Bookkeeping

variable {s s' : Store} {ev : Event} {company : Uuid} {date : Date} {word dayPrefix : String} {n : Int}
  {k : Nat}

/-! ## Losing counters -/

namespace Store

/-- Lose the counters of some companies and days. -/
def loseCounters (s : Store) (lost : Uuid → String → Bool) : Store :=
  { s with counters := s.counters.filter fun c => !lost c.company c.dayPrefix }

/-- Removing every counter is losing all of them. -/
theorem clearCounters_eq (s : Store) : s.clearCounters = s.loseCounters fun _ _ => true := by
  simp [clearCounters, loseCounters]

/-- A counter is lost, or it stays as it is. -/
theorem counter?_loseCounters (s : Store) (lost : Uuid → String → Bool) (company : Uuid)
    (dayPrefix : String) : (s.loseCounters lost).counter? company dayPrefix =
      if lost company dayPrefix then none else s.counter? company dayPrefix := by
  unfold counter? loseCounters
  rw [List.find?_filter]
  by_cases hlost : lost company dayPrefix = true
  · rw [if_pos hlost, List.find?_eq_none]
    intro c _ hc
    simp only [Bool.and_eq_true, beq_iff_eq, Bool.not_eq_true', decide_eq_true_eq] at hc
    obtain ⟨hkept, rfl, rfl⟩ := hc
    rw [hlost] at hkept
    cases hkept
  · rw [if_neg hlost]
    congr 1
    funext c
    by_cases hkey : (c.company == company && c.dayPrefix == dayPrefix) = true
    · obtain ⟨hcompany, hday⟩ := Bool.and_eq_true_iff.mp hkey
      rw [beq_iff_eq.mp hcompany, beq_iff_eq.mp hday]
      simp [hlost]
    · simp only [Bool.not_eq_true] at hkey
      simp [hkey]

end Store

/-! ## Turns -/

/-- What happens to the books: a call, or the loss of counters. -/
inductive Turn where
  | call (session : Session)
  | countersLost (lost : Uuid → String → Bool)

namespace Turn

/-- What a turn makes of the store. -/
def run : Turn → Store → Store
  | .call x, s => (x.run s).2
  | .countersLost lost, s => s.loseCounters lost

/-- Every turn leaves a sound store, with counters ahead of its numbers. -/
theorem keeps (t : Turn) (sound : s.Sound) (ahead : s.Ahead k) (few : k + 2 < 2 ^ 63) :
    (t.run s).Sound ∧ (t.run s).Ahead (k + 1) := by
  cases t with
  | call x => exact ⟨sound.step (x.run_step s), ahead.step few (x.run_step s)⟩
  | countersLost lost =>
      refine ⟨⟨sound.distinct, sound.issued, sound.coherent⟩,
        ahead.kept (fun company p c hc => ?_) le_rfl fun _ hx => hx⟩
      change (s.loseCounters lost).counter? company p = some c at hc
      rw [Store.counter?_loseCounters] at hc
      split at hc
      · cases hc
      · exact hc

end Turn

namespace Store

/-- The store after turns one after the other. -/
def afterTurns (s : Store) : List Turn → Store
  | [] => s
  | t :: rest => (t.run s).afterTurns rest

/-- Without losses, turns are sessions. -/
theorem afterTurns_call (s : Store) (sessions : List Session) :
    s.afterTurns (sessions.map .call) = s.afterSessions sessions := by
  induction sessions generalizing s with
  | nil => rfl
  | cons x rest ih => exact ih (x.run s).2

/-- Turns leave a sound store, with counters ahead of its numbers. -/
theorem afterTurns_keeps (turns : List Turn) (sound : s.Sound) (ahead : s.Ahead k)
    (few : k + turns.length + 1 < 2 ^ 63) :
    (s.afterTurns turns).Sound ∧ (s.afterTurns turns).Ahead (k + turns.length) := by
  induction turns generalizing s k with
  | nil => exact ⟨sound, ahead⟩
  | cons t rest ih =>
      rw [List.length_cons] at few ⊢
      obtain ⟨sound', ahead'⟩ := t.keeps sound ahead (by omega)
      have later := ih sound' ahead' (by omega)
      rwa [Nat.add_right_comm, Nat.add_assoc] at later

end Store

namespace Turn

/-- The store after turns one after the other, from the empty store. -/
def after (turns : List Turn) : Store := ({} : Store).afterTurns turns

theorem after_keeps (turns : List Turn) (few : turns.length + 1 < 2 ^ 63) :
    (after turns).Sound ∧ (after turns).Ahead turns.length := by
  have kept := Store.afterTurns_keeps turns .empty .empty (by rwa [Nat.zero_add])
  rwa [Nat.zero_add] at kept

end Turn

/-! ## Previews -/

/-- The session asks for the number of the next entry of the company and the day. -/
structure Session.Previews (x : Session) (c : Creation) : Prop where
  call : x.call = .nextEntryNumber c.header.company c.header.date
  word : x.setting.numberWord = c.setting.numberWord

namespace Session.Previews

variable {x : Session} {c : Creation}

/-- A preview leaves the store as it is, whatever it answers. -/
theorem run_store (previews : x.Previews c) (s : Store) : (x.run s).2 = s := by
  have nothing : x.event s = .nothing := by
    unfold Session.event
    rw [previews.call]
    split
    · next a _ => cases a <;> rfl
    · rfl
  have hstep := x.run_step s
  rw [nothing] at hstep
  generalize (x.run s).2 = t at hstep
  cases hstep
  rfl

/-- A preview tells the number that is allocated next. -/
theorem run_number (previews : x.Previews c) (hn : s.peekSequence c.header.company c.dayPrefix = .ok n)
    (fits : n.natAbs < 2 ^ 63) : (x.run s).1 = .ok (.number (EntryNumber.format c.dayPrefix n)) := by
  have short : ¬ Text.maxNumberDigits < Decimal.digitCount n.natAbs := by
    have hdigits := (Decimal.digitCount_le_iff 19 (by decide) n.natAbs).mpr
      (fits.trans (by norm_num [pow10]))
    rw [Nat.not_lt]
    exact hdigits.trans (by decide)
  have asked : (Procedure.perform (.peekSequence c.header.company c.dayPrefix)).Looks x.setting.clock
      (x.world s) n := Procedure.looks_perform rfl (congrArg (·, x.world s) hn)
  have told : (Journal.nextEntryNumber x.setting c.header.company c.header.date).Looks x.setting.clock
      (x.world s) (EntryNumber.format c.dayPrefix n) := by
    unfold Journal.nextEntryNumber
    rw [previews.word]
    refine asked.bind ?_
    dsimp only
    rw [if_neg short]
    rfl
  have answered : (x.call.procedure x.setting).Looks x.setting.clock (x.world s)
      (.number (EntryNumber.format c.dayPrefix n)) := by
    rw [previews.call]
    exact told.bind rfl
  rw [Session.run, answered.run rfl]

end Session.Previews

/-! ## What leaves the next number alone -/

theorem History.createdOn_append (xs ys : List Event) :
    createdOn (xs ++ ys) company date = createdOn xs company date ++ createdOn ys company date := by
  simp [createdOn, created]

namespace Store.NumberStep

/-- A step that creates no entry of the company and the day leaves their counter. -/
theorem counter?_eq (h : s.NumberStep word ev s') (alone : History.createdOn [ev] company date = [])
    (word' : String) : s'.counter? company (EntryNumber.dayPrefix word' date) =
      s.counter? company (EntryNumber.dayPrefix word' date) := by
  cases h with
  | kept _ counters _ => rw [counter?, counter?, counters]
  | deleted => rfl
  | @created e e' n counters hcompany same allocation number =>
      refine allocation.others _ _ fun hkey => ?_
      obtain ⟨hsame, hprefix⟩ := hkey
      have hday := (EntryNumber.dayPrefix_cancel hprefix).2
      simp [History.createdOn, History.created, Event.created?, hsame, hday] at alone

/-- A step leaves the numbers that a pattern finds when it neither deletes nor creates such a number. -/
theorem numbersLike_eq (h : s.NumberStep word ev s')
    (short : Text.isPatternTooLong (dayPrefix ++ "-%") = false)
    (deleted : ∀ a ∈ s.entries, ev = .entryDeleted a.entry.id → a.entry.company = company →
      Text.likeMatches none (dayPrefix ++ "-%") a.entry.number = false)
    (created : ∀ e, ev = .entryCreated e → e.company = company →
      Text.likeMatches none (dayPrefix ++ "-%") e.number = false) :
    s'.numbersLike company dayPrefix = s.numbersLike company dayPrefix := by
  cases h with
  | kept _ _ numbers =>
      have ofNumbers (t : Store) : t.numbersOf company =
          (t.numbers.filter fun x => x.1 == company).map Prod.snd := by
        simp [numbersOf, Store.numbers, List.filter_map, Function.comp_def]
      rw [Store.numbersLike_eq, Store.numbersLike_eq, ofNumbers, ofNumbers, numbers]
  | @deleted id =>
      rw [Store.numbersLike_eq, Store.numbersLike_eq]
      unfold keepMatches
      rw [short, Bool.false_and, if_neg Bool.false_ne_true, Bool.false_and, if_neg Bool.false_ne_true]
      simp only [numbersOf, List.filter_map, List.filter_filter]
      congr 2
      refine List.filter_congr fun a ha => ?_
      by_cases hid : a.entry.id = id
      · have unfound : (Text.likeMatches none (dayPrefix ++ "-%") a.entry.number &&
            a.entry.company == company) = false := by
          rw [Bool.and_eq_false_iff, beq_eq_false_iff_ne]
          by_cases hcompany : a.entry.company = company
          · exact .inl (deleted a ha (by rw [hid]) hcompany)
          · exact .inr hcompany
        rw [← Bool.and_assoc]
        simp only [Function.comp_apply, unfound, Bool.false_and]
      · rw [bne_iff_ne.mpr hid, Bool.and_true]
  | @created e e' n counters hcompany same allocation number =>
      refine numbersLike_withEntry (fun he => ?_) short
      rw [same]
      exact created e rfl (hcompany.symm.trans he)

end Store.NumberStep

namespace Creation

/-- Does the pattern for the numbers of the day find this number? -/
def finds (c : Creation) (number : String) : Bool :=
  Text.likeMatches none (c.dayPrefix ++ "-%") number

/-- The session leaves what the pattern of the day finds: it deletes no entry of the company with such a
    number, and creates none under another word, or under a word with a zero character. -/
structure Spares (c : Creation) (x : Session) (s : Store) : Prop where
  deleted : ∀ a ∈ s.entries, x.event s = .entryDeleted a.entry.id →
    a.entry.company = c.header.company → c.finds a.entry.number = false
  created : ∀ e, x.event s = .entryCreated e → e.company = c.header.company →
    x.setting.numberWord ≠ c.setting.numberWord ∨ '\x00' ∈ c.setting.numberWord.toList →
      c.finds e.number = false

/-- Sessions one after the other leave what the pattern of the day finds. -/
def SparedBy (c : Creation) (s : Store) : List Session → Prop
  | [] => True
  | x :: rest => c.Spares x s ∧ c.SparedBy (x.run s).2 rest

variable {c : Creation} {x : Session}

/-- A session that spares what the pattern finds, and creates no entry of the day, creates none that the
    pattern finds. -/
theorem Spares.unfound (h : c.Spares x s) (ahead : s.Ahead k)
    (alone : History.createdOn [x.event s] c.header.company c.header.date = []) {e : Entry Decimal}
    (he : x.event s = .entryCreated e) (hcompany : e.company = c.header.company) :
    c.finds e.number = false := by
  by_cases hword : x.setting.numberWord ≠ c.setting.numberWord ∨ '\x00' ∈ c.setting.numberWord.toList
  · exact h.created e he hcompany hword
  · obtain ⟨hsame, hended⟩ := not_or.mp hword
    have hstep := (x.run_step s).numberStep
    rw [he] at hstep alone
    generalize (x.run s).2 = t at hstep
    rw [Bool.eq_false_iff]
    intro found
    cases hstep with
    | kept created => exact created e rfl
    | @created e e' n counters hcompany' same allocation number =>
        -- the pattern of a word without a zero character finds numbers of its own day only
        rw [number, not_not.mp hsame] at found
        have hday := EntryNumber.date_eq_of_likeMatches (fun d hd hzero => hended (hzero ▸ hd))
          (ahead.peekSequence_nonneg allocation.number) found
        simp [History.createdOn, History.created, Event.created?, hcompany, hday] at alone

/-- Under a word without a zero character, only deletions and other words touch what the pattern finds. -/
theorem Spares.of_word (same : x.setting.numberWord = c.setting.numberWord)
    (ended : '\x00' ∉ c.setting.numberWord.toList)
    (deleted : ∀ a ∈ s.entries, x.event s = .entryDeleted a.entry.id →
      a.entry.company = c.header.company → c.finds a.entry.number = false) : c.Spares x s :=
  ⟨deleted, fun _ _ _ hword => absurd hword (not_or.mpr ⟨not_not.mpr same, ended⟩)⟩

/-- Sessions that create no entry of the company and the day leave the next number, as long as it has a
    counter, or the sessions spare what the pattern of the day finds. -/
theorem peekSequence_afterSessions {between : List Session} (ahead : s.Ahead k)
    (few : k + between.length + 1 < 2 ^ 63)
    (alone : History.createdOn (Session.events s between) c.header.company c.header.date = [])
    (spared : s.counter? c.header.company c.dayPrefix = none →
      Text.isPatternTooLong (c.dayPrefix ++ "-%") = false ∧ c.SparedBy s between) :
    (s.afterSessions between).peekSequence c.header.company c.dayPrefix =
      s.peekSequence c.header.company c.dayPrefix := by
  induction between generalizing s k with
  | nil => rfl
  | cons x rest ih =>
      rw [List.length_cons] at few
      rw [Session.events, ← List.singleton_append, History.createdOn_append,
        List.append_eq_nil_iff] at alone
      obtain ⟨first, later⟩ := alone
      have hstep := x.run_step s
      have counter : (x.run s).2.counter? c.header.company c.dayPrefix =
          s.counter? c.header.company c.dayPrefix :=
        hstep.numberStep.counter?_eq first c.setting.numberWord
      have next : (x.run s).2.peekSequence c.header.company c.dayPrefix =
          s.peekSequence c.header.company c.dayPrefix := by
        refine Store.peekSequence_congr counter fun hc => ?_
        obtain ⟨short, spares, -⟩ := spared hc
        exact hstep.numberStep.numbersLike_eq short spares.deleted fun e he => spares.unfound ahead first he
      rw [Store.afterSessions, ← next]
      refine ih (ahead.step (by omega) hstep) (by omega) later fun hc => ?_
      obtain ⟨short, -, spares⟩ := spared (counter.symm.trans hc)
      exact ⟨short, spares⟩

/-! ## The previewed number -/

/-- After the sessions the creation succeeds at its first attempt, with the number that the preview has told
    before them. -/
def Foretold (c : Creation) (x : Session) (s : Store) (between : List Session) : Prop :=
  ∃ e t, (x.run s).1 = .ok (.number e.number) ∧
    (c.under []).run (s.afterSessions between) = (.ok (.entry e), t) ∧
    (∃ a ∈ t.entries, a.entry.id = e.id ∧ a.entry.number = e.number) ∧
    (c.under []).creationAttempts (s.afterSessions between) = 1

/-- On a sound store with counters ahead of its numbers, the number that is foretold is allocated at the first
    attempt. -/
theorem run_ahead (sound : s.Sound) (ahead : s.Ahead k) (few : k + 2 < 2 ^ 63)
    (accepted : s.Accepts c.header.company c.lines) {now : Instant} (clock : c.setting.clock = .ok now)
    (hn : s.peekSequence c.header.company c.dayPrefix = .ok n) :
    ∃ e t, (c.under []).run s = (.ok (.entry e), t) ∧ e.number = EntryNumber.format c.dayPrefix n ∧
      (∃ a ∈ t.entries, a.entry.id = e.id ∧ a.entry.number = e.number) ∧
      (c.under []).creationAttempts s = 1 := by
  have possible : c.Possible s := by
    refine possible_of_free sound accepted (fun f hf => ?_) fun m hm => ahead.numberFree few hm
    cases clock.symm.trans hf
  have hnonneg := ahead.peekSequence_nonneg hn
  have hle := ahead.peekSequence_le few hn
  obtain ⟨counters, cells, -, -, hrun⟩ :=
    run_undisturbed possible accepted clock hn (Cell.fits_of_nonneg (by omega) (by omega))
  have attempts : 0 < c.setting.attempts := by
    unfold Setting.attempts
    omega
  have once := (run_clean possible accepted attempts (fun i hi => absurd hi i.not_lt_zero) (meets_nil 0)).2
  exact ⟨_, _, hrun, rfl, ⟨_, List.mem_append_right _ (List.mem_singleton_self _), rfl, rfl⟩, once⟩

/-- After any turns, also when counters were lost, a preview leaves the store as it is, and the number that
    it tells is what the next entry of the company and the day gets at its first attempt. No other entry of
    them may be created in between; and if they have no counter, the pattern for the numbers of the day must
    not be too long, and what it finds must stay as it is. -/
theorem number_foretold (turns : List Turn) (previews : x.Previews c) :
    (x.run (Turn.after turns)).2 = Turn.after turns ∧
      ∀ between : List Session, turns.length + between.length + 2 < 2 ^ 63 →
        History.createdOn (Session.events (Turn.after turns) between) c.header.company c.header.date = [] →
        ((Turn.after turns).counter? c.header.company c.dayPrefix = none →
          Text.isPatternTooLong (c.dayPrefix ++ "-%") = false ∧ c.SparedBy (Turn.after turns) between) →
        ((Turn.after turns).afterSessions between).Accepts c.header.company c.lines →
        (∃ now, c.setting.clock = .ok now) → c.Foretold x (Turn.after turns) between := by
  refine ⟨previews.run_store _, fun between few alone spared accepted ⟨now, clock⟩ => ?_⟩
  obtain ⟨sound, ahead⟩ := Turn.after_keeps turns (by omega)
  have kept := Store.afterTurns_keeps (between.map .call) sound ahead (by rw [List.length_map]; omega)
  rw [Store.afterTurns_call, List.length_map] at kept
  obtain ⟨sound', ahead'⟩ := kept
  obtain ⟨n, hn⟩ := ahead.peekSequence_ok (by omega) c.header.company fun hc => (spared hc).1
  have later := (peekSequence_afterSessions ahead (by omega) alone spared).trans hn
  have hnonneg := ahead.peekSequence_nonneg hn
  have hle := ahead.peekSequence_le (by omega) hn
  obtain ⟨e, t, hrun, hnumber, stored, once⟩ := run_ahead sound' ahead' few accepted clock later
  refine ⟨e, t, ?_, hrun, stored, once⟩
  rw [hnumber]
  exact previews.run_number hn (by omega)

/-- The session that asks for the number of the next entry before a creation. -/
def preview (c : Creation) : Session where
  call := .nextEntryNumber c.header.company c.header.date
  setting := c.setting

theorem previews_preview (c : Creation) : c.preview.Previews c := ⟨rfl, rfl⟩

/-- A company opens two accounts, drafts entries of 1 on one day, and loses its counters. -/
def losesCounters (drafts : Nat) : List Turn :=
  .call .opensTwoAccounts ::
    List.replicate drafts (.call { Session.opensTwoAccounts with
      call := .moving firstDay (.finite false 1 0) false }) ++ [.countersLost fun _ _ => true]

/-- An entry is drafted on a later day and deleted, then one is posted on the later day. -/
def entersLater : List Session :=
  [.moving laterDay (.finite false 1 0) false, .deleteEntry (Uuid.issue 4),
    .moving laterDay (.finite false 1 0) true].map fun call =>
      { call, setting := { clock := .ok default } }

theorem number_foretold_losesCounters :
    hundred.preview.Previews hundred ∧
      (hundred.preview.run (Turn.after (losesCounters 2))).1 = .ok (.number "JE-20240105-003") ∧
      (hundred.preview.run (Turn.after (losesCounters 2))).2 = Turn.after (losesCounters 2) ∧
      hundred.Foretold hundred.preview (Turn.after (losesCounters 2)) entersLater := by
  obtain ⟨unchanged, foretold⟩ := number_foretold (losesCounters 2) hundred.previews_preview
  refine ⟨hundred.previews_preview, by decide +kernel, unchanged, foretold entersLater (by decide)
    (by decide +kernel) (fun _ => ⟨by decide +kernel, ?_⟩)
    ⟨by decide, (.finite false 100 0, .finite false 100 0), by decide +kernel⟩ ⟨default, rfl⟩⟩
  exact ⟨.of_word rfl (by decide) (by decide +kernel), .of_word rfl (by decide) (by decide +kernel),
    .of_word rfl (by decide) (by decide +kernel), trivial⟩

/-- A preview misses when the creation gets another number. -/
theorem not_foretold {between : List Session} {told given : String}
    (hx : (x.run s).1 = .ok (.number told))
    (hgiven : answeredNumber ((c.under []).run (s.afterSessions between)).1 = some given)
    (different : given ≠ told) : ¬ c.Foretold x s between := by
  rintro ⟨e, t, htold, hrun, -⟩
  rw [hrun] at hgiven
  cases hx.symm.trans htold
  exact different (Option.some.inj hgiven).symm

/-- Once counters are lost, the number of a draft that is deleted after the preview is given out again:
    the preview tells 4, and the next entry gets 3. -/
theorem number_foretold_false_of_deletion :
    ¬ ∀ (turns : List Turn) (c : Creation) (x : Session) (between : List Session), x.Previews c →
      History.createdOn (Session.events (Turn.after turns) between) c.header.company c.header.date = [] →
      ((Turn.after turns).afterSessions between).Accepts c.header.company c.lines →
      (∃ now, c.setting.clock = .ok now) → c.Foretold x (Turn.after turns) between := by
  intro h
  have told : (hundred.preview.run (Turn.after (losesCounters 3))).1 =
      .ok (.number "JE-20240105-004") := by decide +kernel
  let deletes : Session := { Session.opensTwoAccounts with call := .deleteEntry (Uuid.issue 4) }
  have given : answeredNumber ((hundred.under []).run
      ((Turn.after (losesCounters 3)).afterSessions [deletes])).1 = some "JE-20240105-003" := by
    decide +kernel
  exact not_foretold told given (by decide) (h (losesCounters 3) hundred hundred.preview [deletes]
    hundred.previews_preview (by decide +kernel)
    ⟨by decide, (.finite false 100 0, .finite false 100 0), by decide +kernel⟩ ⟨default, rfl⟩)

/-- Without a counter, an entry of another day disturbs the preview when the pattern finds its number: under a
    word that ends the pattern early, and under another word that goes on with the day. -/
theorem number_foretold_false_of_found_numbers :
    ∀ m ∈ [("\x00", "\x00"), ("JE", "JE-20240105")],
      let c := hundredOn m.1 firstDay
      let s := Turn.after [.call .opensTwoAccounts]
      let between := [(hundredOn m.2 laterDay).under []]
      History.createdOn (Session.events s between) c.header.company c.header.date = [] ∧
        ¬ c.Foretold c.preview s between := by
  intro m hm
  rcases List.mem_cons.mp hm with rfl | hm
  · have told : ((hundredOn "\x00" firstDay).preview.run (Turn.after [.call .opensTwoAccounts])).1 =
        .ok (.number "\x00-20240105-001") := by decide +kernel
    have given : answeredNumber (((hundredOn "\x00" firstDay).under []).run
        ((Turn.after [.call .opensTwoAccounts]).afterSessions [(hundredOn "\x00" laterDay).under []])).1 =
        some "\x00-20240105-002" := by decide +kernel
    exact ⟨by decide +kernel, not_foretold told given (by decide)⟩
  · obtain rfl := List.mem_singleton.mp hm
    have told : ((hundredOn "JE" firstDay).preview.run (Turn.after [.call .opensTwoAccounts])).1 =
        .ok (.number "JE-20240105-001") := by decide +kernel
    have given : answeredNumber (((hundredOn "JE" firstDay).under []).run
        ((Turn.after [.call .opensTwoAccounts]).afterSessions
          [(hundredOn "JE-20240105" laterDay).under []])).1 = some "JE-20240105-002" := by decide +kernel
    exact ⟨by decide +kernel, not_foretold told given (by decide)⟩

end Creation

end Bookkeeping
