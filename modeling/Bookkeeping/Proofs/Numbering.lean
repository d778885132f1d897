import Bookkeeping.Proofs.NumberText
import Bookkeeping.Proofs.Lifecycle

set_option autoImplicit false

/-! # Numbering

The entries that were created for a company and a day are numbered 1, 2, 3, ... in the order of their
creation, whatever became of them since (`numbering`). The invariant behind it, `Numbered`, ties the
counters and the stored numbers to the history: where there is a counter, it stands one after the
number of entries created so far; where there is none yet, no entry was created, and the numbers that
exist are those of other days. -/

namespace Bookkeeping

/-! ## What was created -/

/-- The entry that was created, if one was. -/
def Event.created? : Event → Option (Entry Decimal)
  | .entryCreated e => some e
  | _ => none

namespace History

/-- The entries that were created, in order. -/
def created (history : List Event) : List (Entry Decimal) := history.filterMap Event.created?

/-- The entries that were created for a company, in order. -/
def createdFor (history : List Event) (company : Uuid) : List (Entry Decimal) :=
  (created history).filter fun e => e.company == company

/-- The entries that were created for a company and a day, in order. -/
def createdOn (history : List Event) (company : Uuid) (date : Date) : List (Entry Decimal) :=
  (created history).filter fun e => e.company == company && e.date == date

variable {history : List Event} {ev : Event} {e : Entry Decimal} {c : Uuid} {d : Date}

theorem created_concat (h : ev.created? = none) : created (history ++ [ev]) = created history := by
  simp [created, h]

theorem created_concat_entryCreated :
    created (history ++ [.entryCreated e]) = created history ++ [e] := by
  simp [created, Event.created?]

theorem createdOn_concat (h : ev.created? = none) :
    createdOn (history ++ [ev]) c d = createdOn history c d := by
  rw [createdOn, created_concat h, createdOn]

theorem createdOn_concat_entryCreated :
    createdOn (history ++ [.entryCreated e]) c d =
      createdOn history c d ++ if e.company = c ∧ e.date = d then [e] else [] := by
  rw [createdOn, created_concat_entryCreated, List.filter_append, createdOn]
  simp [List.filter_cons]

theorem mem_createdOn :
    e ∈ createdOn history c d ↔ e ∈ created history ∧ e.company = c ∧ e.date = d := by
  simp [createdOn]

/-- An entry that is created comes after all others of its company and day. -/
theorem getElem?_createdOn_concat {i : Nat} {x : Entry Decimal} :
    (createdOn (history ++ [.entryCreated e]) c d)[i]? = some x ↔
      (createdOn history c d)[i]? = some x ∨
        (x = e ∧ c = e.company ∧ d = e.date ∧ i = (createdOn history c d).length) := by
  rw [createdOn_concat_entryCreated]
  split
  · next h =>
      obtain ⟨rfl, rfl⟩ := h
      grind
  · next h => grind

end History

/-! ## The invariant -/

/-- A stored entry is the one that was created as the `i`-th, from 0 on, for its company and a day. -/
structure StoredEntry.CreatedAs (history : List Event) (a : StoredEntry) (d : Date) (i : Nat)
    (e : Entry Decimal) : Prop where
  created : (History.createdOn history a.entry.company d)[i]? = some e
  id : a.entry.id = e.id
  number : a.entry.number = e.number
  sequence : a.sequence = i + 1

/-- Counters and numbers agree with what was created. -/
structure Store.Numbered (word : String) (history : List Event) (s : Store) : Prop where
  counters : ∀ c d, s.counter? c (EntryNumber.dayPrefix word d) =
    if History.createdOn history c d = [] then none
    else some ⟨c, EntryNumber.dayPrefix word d, (History.createdOn history c d).length + 1⟩
  numbers : ∀ c d (i : Nat) e, (History.createdOn history c d)[i]? = some e →
    e.number = EntryNumber.format (EntryNumber.dayPrefix word d) (i + 1)
  issued : ∀ e ∈ History.created history, ∃ k < s.issued, e.id = Uuid.issue k
  distinct : ((History.created history).map Entry.id).Nodup
  stored : ∀ a ∈ s.entries, ∃ d i e, a.CreatedAs history d i e

variable {clock : Clock} {word : String} {history : List Event} {s s' : Store} {ev : Event}

namespace Store

theorem Numbered.empty : ({} : Store).Numbered word [] where
  counters c d := rfl
  numbers c d i e h := by simp [History.createdOn, History.created] at h
  issued e h := by simp [History.created] at h
  distinct := by simp [History.created]
  stored a h := by simp at h

/-- The numbers that exist before the first entry of a day are numbers of other days. -/
theorem Numbered.numbersLike (h : s.Numbered word history) (plain : EntryNumber.Plain word)
    {c : Uuid} {d : Date} (first : History.createdOn history c d = []) {numbers : List String}
    (hn : s.numbersLike c (EntryNumber.dayPrefix word d) = .ok numbers) : numbers = [] := by
  unfold Store.numbersLike at hn
  dsimp only [keepMatches] at hn
  split at hn
  · cases hn
  · cases hn
    refine List.filter_eq_nil_iff.mpr fun number hnumber hmatch => ?_
    obtain ⟨a, ha, rfl⟩ := List.mem_map.mp hnumber
    obtain ⟨ha, hc⟩ := List.mem_filter.mp ha
    obtain ⟨d', i, e, hcreated, -, heq, -⟩ := h.stored a ha
    rw [heq, h.numbers _ _ _ _ hcreated] at hmatch
    -- a number that matches the day is one of that day, and none was created on it
    have hd := EntryNumber.date_eq_of_likeMatches (fun x hx => (plain x hx).2.2) (by omega) hmatch
    rw [beq_iff_eq.mp hc, ← hd, first] at hcreated
    simp at hcreated

/-- The number that is allocated next counts the entries that were created. -/
theorem Numbered.peekSequence (h : s.Numbered word history) (plain : EntryNumber.Plain word)
    {c : Uuid} {d : Date} {n : Int}
    (hn : s.peekSequence c (EntryNumber.dayPrefix word d) = .ok n) :
    n = (History.createdOn history c d).length + 1 := by
  unfold Store.peekSequence at hn
  rw [h.counters] at hn
  split at hn
  · next c hc =>
      cases hn
      split at hc
      · cases hc
      · cases hc
        rfl
  · next hc =>
      split at hc
      · next first =>
          obtain ⟨m, hm, hn⟩ := bind_eq_ok hn
          obtain ⟨numbers, hnumbers, hm⟩ := bind_eq_ok hm
          rw [h.numbersLike plain first hnumbers] at hm
          cases hm
          cases hn
          rw [first]
          rfl
      · cases hc

/-- What creates no entry, and changes no counter and no number, leaves numbers and history agreed. -/
theorem Numbered.kept (h : s.Numbered word history) (event : ev.created? = none)
    (counters : s'.counters = s.counters) (issued : s.issued ≤ s'.issued)
    (stored : ∀ a' ∈ s'.entries, ∃ a ∈ s.entries, a'.entry.id = a.entry.id ∧
      a'.entry.company = a.entry.company ∧ a'.entry.number = a.entry.number ∧
      a'.sequence = a.sequence) :
    s'.Numbered word (history ++ [ev]) where
  counters c d := by
    rw [History.createdOn_concat event, ← h.counters, counter?, counters, ← counter?]
  numbers c d i e he := h.numbers c d i e (by rwa [History.createdOn_concat event] at he)
  issued e he := by
    rw [History.created_concat event] at he
    obtain ⟨k, hk, hid⟩ := h.issued e he
    exact ⟨k, Nat.lt_of_lt_of_le hk issued, hid⟩
  distinct := by
    rw [History.created_concat event]
    exact h.distinct
  stored a' ha' := by
    obtain ⟨a, ha, hid, hcompany, hnumber, hsequence⟩ := stored a' ha'
    obtain ⟨d, i, e, hcreated, hid', hnumber', hsequence'⟩ := h.stored a ha
    refine ⟨d, i, e, ?_, hid.trans hid', hnumber.trans hnumber', hsequence.trans hsequence'⟩
    rwa [History.createdOn_concat event, hcompany]

/-- A change of one entry that keeps its identity. -/
theorem Numbered.updated (h : s.Numbered word history) (sound : s.Sound)
    (event : ev.created? = none) {id : Uuid} {old : StoredEntry} (found : s.stored? id = some old)
    {f : StoredEntry → StoredEntry} (hf : old.Continues (f old))
    (entries : s'.entries = (s.updateStored id f).entries) (counters : s'.counters = s.counters)
    (issued : s'.issued = s.issued) : s'.Numbered word (history ++ [ev]) := by
  refine h.kept event counters (Nat.le_of_eq issued.symm) fun a ha => ?_
  rw [entries] at ha
  rcases (sound.mem_updateStored found).mp ha with rfl | ⟨ha, -⟩
  · exact ⟨old, (stored?_some found).1, hf.id, hf.company, hf.number, hf.sequence⟩
  · exact ⟨a, ha, rfl, rfl, rfl, rfl⟩

/-- An entry that is created takes the next number. -/
theorem Numbered.created (h : s.Numbered word history) (plain : EntryNumber.Plain word)
    {e : Entry Decimal} {header : Entry Cell} {n : Int} {counters : List Counter}
    (allocation : Allocation s e.company (EntryNumber.dayPrefix word e.date) n counters)
    (number : e.number = EntryNumber.format (EntryNumber.dayPrefix word e.date) n)
    (id : e.id = Uuid.issue s.issued) (same : header.id = e.id ∧ header.company = e.company ∧
      header.number = e.number) :
    (s.withEntry counters header n).Numbered word (history ++ [.entryCreated e]) := by
  have hn := h.peekSequence plain allocation.number
  refine ⟨fun c d => ?_, fun c d i a ha => ?_, fun a ha => ?_, ?_, fun a ha => ?_⟩
  · rw [History.createdOn_concat_entryCreated]
    -- only the counter of the company and the day of the new entry has moved
    by_cases hcd : e.company = c ∧ e.date = d
    · obtain ⟨rfl, rfl⟩ := hcd
      refine allocation.counter.trans ?_
      simp [hn]
    · rw [if_neg hcd, List.append_nil, ← h.counters c d]
      refine allocation.others c _ fun hc => hcd ⟨hc.1.symm, ?_⟩
      exact (EntryNumber.dayPrefix_injective hc.2).symm
  · rcases History.getElem?_createdOn_concat.mp ha with ha | ⟨rfl, rfl, rfl, rfl⟩
    · exact h.numbers c d i a ha
    · rw [number, hn]
  · rw [History.created_concat_entryCreated] at ha
    rcases List.mem_append.mp ha with ha | ha
    · obtain ⟨k, hk, hid⟩ := h.issued a ha
      exact ⟨k, Nat.lt_succ_of_lt hk, hid⟩
    · rw [List.mem_singleton.mp ha]
      exact ⟨s.issued, Nat.lt_succ_self _, id⟩
  · rw [History.created_concat_entryCreated, List.map_append, List.nodup_append]
    refine ⟨h.distinct, by simp, ?_⟩
    intro a ha b hb hab
    obtain ⟨x, hx, rfl⟩ := List.mem_map.mp ha
    obtain ⟨k, hk, hid⟩ := h.issued x hx
    rw [List.map_cons, List.map_nil, List.mem_singleton] at hb
    rw [hb, id, hid] at hab
    exact absurd (Uuid.issue_injective hab) (Nat.ne_of_lt hk)
  · rcases List.mem_append.mp ha with ha | ha
    · obtain ⟨d, i, x, hcreated, hid, hnumber, hsequence⟩ := h.stored a ha
      exact ⟨d, i, x, History.getElem?_createdOn_concat.mpr (.inl hcreated), hid, hnumber, hsequence⟩
    · rw [List.mem_singleton.mp ha]
      refine ⟨e.date, (History.createdOn history header.company e.date).length, e,
        History.getElem?_createdOn_concat.mpr (.inr ?_), same.1, same.2.2, ?_⟩
      · exact ⟨rfl, same.2.1, rfl, rfl⟩
      · rw [hn, ← same.2.1]

theorem Numbered.step (h : s.Numbered word history) (sound : s.Sound)
    (plain : EntryNumber.Plain word) (hs : s.Step clock word ev s') :
    s'.Numbered word (history ++ [ev]) := by
  cases hs with
  | nothing | accountKept | accountSaved | accountDeleted =>
      exact h.kept rfl rfl (Nat.le_refl _) fun a ha => ⟨a, ha, rfl, rfl, rfl, rfl⟩
  | accountsOpened =>
      exact h.kept rfl rfl (Nat.le_add_right _ _) fun a ha => ⟨a, ha, rfl, rfl, rfl, rfl⟩
  | entryCreated accepted clock_eq allocation number_eq status_eq postedBy_eq stored new free =>
      exact h.created plain allocation number_eq rfl ⟨rfl, rfl, rfl⟩
  | draftEdited found draft accepted clock_eq stored =>
      exact h.updated sound rfl found (.rewritten draft _ _ _ _ _ _) rfl rfl rfl
  | entryPosted found draft accepted clock_eq =>
      refine h.updated sound rfl found ?_ rfl rfl rfl
      exact .moved draft _ _ _
  | entryVoided found draft clock_eq =>
      refine h.updated sound rfl found ?_ rfl rfl rfl
      exact .moved draft _ _ _
  | entryDeleted found unposted =>
      exact h.kept rfl rfl (Nat.le_refl _) fun a ha =>
        ⟨a, List.mem_of_mem_filter ha, rfl, rfl, rfl, rfl⟩

/-- Counters and numbers agree with the history of a run. -/
theorem after_numbered (plain : EntryNumber.Plain word) (sessions : List Session)
    (words : ∀ x ∈ sessions, x.setting.numberWord = word) :
    (after sessions).Numbered word (History.of sessions) := by
  have hrun := run_invariant (P := fun history s => s.Sound ∧ s.Numbered word history)
    (W := fun w => w = word) ⟨.empty, .empty⟩
    (fun hw h hs => ⟨h.1.step hs, h.2.step h.1 plain (hw ▸ hs)⟩) sessions words
  exact hrun.2

/-- A stored entry has the number and the sequence with which it was created. -/
theorem Numbered.of_created (h : s.Numbered word history) {c : Uuid} {d : Date} {i : Nat}
    {e : Entry Decimal} (he : (History.createdOn history c d)[i]? = some e) {a : StoredEntry}
    (ha : a ∈ s.entries) (hid : a.entry.id = e.id) :
    a.entry.company = c ∧ a.entry.number = e.number ∧ a.sequence = i + 1 := by
  obtain ⟨d', j, x, hx, hid', hnumber, hsequence⟩ := h.stored a ha
  obtain ⟨hec, hcompany, -⟩ := History.mem_createdOn.mp (List.mem_of_getElem? he)
  obtain ⟨hxc, hcompany', -⟩ := History.mem_createdOn.mp (List.mem_of_getElem? hx)
  obtain rfl : x = e := List.inj_on_of_nodup_map h.distinct hxc hec (hid'.symm.trans hid)
  have hij := (h.numbers _ _ _ _ hx).symm.trans (h.numbers _ _ _ _ he)
  obtain ⟨-, hij⟩ := EntryNumber.format_injective (by omega) (by omega) hij
  exact ⟨hcompany'.symm.trans hcompany, hnumber, by omega⟩

/-- No two entries that were created for a company have the same number. -/
theorem Numbered.created_distinct (h : s.Numbered word history) (c : Uuid) :
    ((History.createdFor history c).map Entry.number).Nodup := by
  refine List.Nodup.map_on (fun x hx y hy hxy => ?_) ((h.distinct.of_map _).filter _)
  have position {e : Entry Decimal} (he : e ∈ History.createdFor history c) :
      ∃ i : Nat, (History.createdOn history c e.date)[i]? = some e := by
    obtain ⟨he, hc⟩ := List.mem_filter.mp he
    exact List.mem_iff_getElem?.mp (History.mem_createdOn.mpr ⟨he, beq_iff_eq.mp hc, rfl⟩)
  obtain ⟨i, hi⟩ := position hx
  obtain ⟨j, hj⟩ := position hy
  rw [h.numbers _ _ _ _ hi, h.numbers _ _ _ _ hj] at hxy
  obtain ⟨hd, hij⟩ := EntryNumber.format_injective (by omega) (by omega) hxy
  obtain rfl : i = j := by omega
  rw [hd, hj] at hi
  exact (Option.some.inj hi).symm

/-- No two stored entries of a company have the same number. -/
theorem Numbered.stored_distinct (h : s.Numbered word history) (sound : s.Sound)
    {a b : StoredEntry} (ha : a ∈ s.entries) (hb : b ∈ s.entries)
    (hcompany : a.entry.company = b.entry.company) (hnumber : a.entry.number = b.entry.number) :
    a = b := by
  obtain ⟨d, i, e, he, hid, hn, -⟩ := h.stored a ha
  obtain ⟨d', j, x, hx, hid', hn', -⟩ := h.stored b hb
  rw [hn, hn', h.numbers _ _ _ _ he, h.numbers _ _ _ _ hx] at hnumber
  obtain ⟨rfl, hij⟩ := EntryNumber.format_injective (by omega) (by omega) hnumber
  obtain rfl : i = j := by omega
  rw [hcompany, hx] at he
  obtain rfl := Option.some.inj he
  exact sound.eq_of_id ha hb (hid.trans hid'.symm)

/-- An entry that was just created is stored. -/
theorem Step.stored {e : Entry Decimal} (hs : s.Step clock word (.entryCreated e) s') :
    ∃ a ∈ s'.entries, a.entry.id = e.id ∧ a.entry.date = e.date ∧ a.entry.status = e.status := by
  cases hs
  exact ⟨_, List.mem_append_right _ (List.mem_singleton.mpr rfl), rfl, rfl, rfl⟩

end Store

/-! ## Whole runs -/

/-- Under one word that stands for itself in a pattern: the `i`-th entry that was created for a company
    and a day has the number of that day with `i`, and is stored with it and with the sequence `i`;
    every entry that is stored later still has the number and the sequence with which it was created;
    and no two entries of a company, whether stored or created ever, have the same number. -/
theorem numbering {word : String} (plain : EntryNumber.Plain word) (sessions : List Session)
    (words : ∀ x ∈ sessions, x.setting.numberWord = word) :
    (∀ c d (i : Nat) e, (History.createdOn (History.of sessions) c d)[i]? = some e →
      e.number = EntryNumber.format (EntryNumber.dayPrefix word d) (i + 1) ∧
        ∀ a ∈ (Store.after sessions).entries, a.entry.id = e.id →
          a.entry.company = c ∧ a.entry.number = e.number ∧ a.sequence = i + 1) ∧
      (∀ before x later e, sessions = before ++ x :: later →
        x.event (Store.after before) = .entryCreated e →
          ∃ a ∈ (Store.after (before ++ [x])).entries, a.entry.id = e.id ∧
            a.entry.company = e.company ∧ a.entry.date = e.date ∧ a.entry.number = e.number ∧
            a.sequence = (History.createdOn (History.of before) e.company e.date).length + 1) ∧
      (∀ a ∈ (Store.after sessions).entries,
        ∃ e ∈ History.created (History.of sessions), e.id = a.entry.id) ∧
      (∀ c, ((History.createdFor (History.of sessions) c).map Entry.number).Nodup) ∧
      ∀ a ∈ (Store.after sessions).entries, ∀ b ∈ (Store.after sessions).entries,
        a.entry.company = b.entry.company → a.entry.number = b.entry.number → a = b := by
  have h := Store.after_numbered plain sessions words
  refine ⟨fun c d i e he => ⟨h.numbers c d i e he, fun a => h.of_created he⟩, ?_, fun a ha => ?_,
    h.created_distinct, fun a ha b hb => h.stored_distinct (Store.after_sound sessions) ha hb⟩
  · rintro before x later e rfl hev
    have hx := Store.after_numbered plain (before ++ [x]) fun y hy => words y (by grind)
    have hs := x.run_step (Store.after before)
    rw [hev] at hs
    obtain ⟨a, ha, hid, hdate, -⟩ := hs.stored
    rw [← Store.after_concat] at ha
    have he : (History.createdOn (History.of (before ++ [x])) e.company e.date)[
        (History.createdOn (History.of before) e.company e.date).length]? = some e := by
      rw [History.of_append]
      simp only [Session.events, hev]
      exact History.getElem?_createdOn_concat.mpr (.inr ⟨rfl, rfl, rfl, rfl⟩)
    obtain ⟨hcompany, hnumber, hsequence⟩ := hx.of_created he ha hid
    exact ⟨a, ha, hid, hcompany, hdate, hnumber, hsequence⟩
  · obtain ⟨d, i, e, he, hid, -⟩ := h.stored a ha
    exact ⟨e, (History.mem_createdOn.mp (List.mem_of_getElem? he)).1, hid.symm⟩

/-- A company enters the first draft of a day and deletes it, enters another one of the day, and then
    one of a later day. -/
def entersAndDeletes (word : String) : List Session :=
  let one : Decimal := .finite false 1 0
  [Session.opensTwoAccounts.call, .moving firstDay one false, .deleteEntry (Uuid.issue 2),
    .moving firstDay one false, .moving laterDay one false].map fun call =>
      { call, setting := { clock := .ok default, numberWord := word } }

/-- The number of the deleted draft is not given out again, and the later day begins with 1. -/
theorem numbering_entersAndDeletes :
    EntryNumber.Plain "JE" ∧ (∀ x ∈ entersAndDeletes "JE", x.setting.numberWord = "JE") ∧
      ((History.createdOn (History.of (entersAndDeletes "JE")) ⟨1⟩ laterDay)[0]?).isSome ∧
      (∀ e, (History.createdOn (History.of (entersAndDeletes "JE")) ⟨1⟩ firstDay)[1]? = some e →
        e.number = EntryNumber.format (EntryNumber.dayPrefix "JE" firstDay) 2 ∧
          ∀ a ∈ (Store.after (entersAndDeletes "JE")).entries, a.entry.id = e.id →
            a.entry.company = ⟨1⟩ ∧ a.entry.number = e.number ∧ a.sequence = 2) ∧
      ∀ e, (History.createdOn (History.of (entersAndDeletes "JE")) ⟨1⟩ laterDay)[0]? = some e →
        e.number = EntryNumber.format (EntryNumber.dayPrefix "JE" laterDay) 1 ∧
          ∀ a ∈ (Store.after (entersAndDeletes "JE")).entries, a.entry.id = e.id →
            a.entry.company = ⟨1⟩ ∧ a.entry.number = e.number ∧ a.sequence = 1 := by
  have plain : EntryNumber.Plain "JE" := by decide
  have words : ∀ x ∈ entersAndDeletes "JE", x.setting.numberWord = "JE" := by decide +kernel
  have created := (numbering plain (entersAndDeletes "JE") words).1
  exact ⟨plain, words, by decide +kernel, created ⟨1⟩ firstDay 1, created ⟨1⟩ laterDay 0⟩

/-- A word with the character that ends a pattern early stands for numbers of every day: the first
    entry of the later day has the number 3. -/
theorem numbering_false_of_zero_character :
    ¬ ∀ word : String, (∀ c ∈ word.toList, c ≠ '%' ∧ c ≠ '_') → ∀ sessions : List Session,
      (∀ x ∈ sessions, x.setting.numberWord = word) → ∀ c d (i : Nat) e,
        (History.createdOn (History.of sessions) c d)[i]? = some e →
          e.number = EntryNumber.format (EntryNumber.dayPrefix word d) (i + 1) := by
  intro h
  have first : ((History.createdOn (History.of (entersAndDeletes "\x00")) ⟨1⟩ laterDay)[0]?).map
      Entry.number = some "\x00-20240206-003" := by
    decide +kernel
  obtain ⟨e, he, hnumber⟩ := Option.map_eq_some_iff.mp first
  have hone := h "\x00" (by simp) (entersAndDeletes "\x00") (by decide +kernel) ⟨1⟩ laterDay 0 e he
  rw [hnumber] at hone
  exact absurd hone (by decide +kernel)

end Bookkeeping
