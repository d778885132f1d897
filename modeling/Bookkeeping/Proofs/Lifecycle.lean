import Bookkeeping.Proofs.Runs

set_option autoImplicit false

/-! # The life of an entry

An entry keeps its identity for as long as it is stored, a posted one keeps everything, and only a
draft changes its status (`StoredEntry.Continues`). Continuing is reflexive and transitive, each step
of the ledger continues every entry or deletes it, and no step brings an identifier back; so all of it
holds from any point of a run to any later one (`lifecycle`). -/

namespace Bookkeeping

variable {clock : Clock} {word : String} {s s' : Store} {ev : Event}

/-! ## One entry at two times -/

/-- What an entry `e` may have become later: `e'`. -/
structure StoredEntry.Continues (e e' : StoredEntry) : Prop where
  id : e'.entry.id = e.entry.id
  company : e'.entry.company = e.entry.company
  number : e'.entry.number = e.entry.number
  sequence : e'.sequence = e.sequence
  source : e'.entry.source = e.entry.source
  sourceId : e'.entry.sourceId = e.entry.sourceId
  reversedEntry : e'.entry.reversedEntry = e.entry.reversedEntry
  reversalReason : e'.entry.reversalReason = e.entry.reversalReason
  createdBy : e'.entry.createdBy = e.entry.createdBy
  createdAt : e'.entry.createdAt = e.entry.createdAt
  /-- Only a draft changes its status. -/
  status : e'.entry.status = e.entry.status ∨ e.entry.status = .draft
  /-- A posted entry stays as it is, with all of its lines. -/
  frozen : e.entry.status = .posted → e' = e

namespace StoredEntry.Continues

theorem refl (e : StoredEntry) : e.Continues e :=
  ⟨rfl, rfl, rfl, rfl, rfl, rfl, rfl, rfl, rfl, rfl, .inl rfl, fun _ => rfl⟩

theorem trans {a b c : StoredEntry} (hab : a.Continues b) (hbc : b.Continues c) : a.Continues c where
  id := hbc.id.trans hab.id
  company := hbc.company.trans hab.company
  number := hbc.number.trans hab.number
  sequence := hbc.sequence.trans hab.sequence
  source := hbc.source.trans hab.source
  sourceId := hbc.sourceId.trans hab.sourceId
  reversedEntry := hbc.reversedEntry.trans hab.reversedEntry
  reversalReason := hbc.reversalReason.trans hab.reversalReason
  createdBy := hbc.createdBy.trans hab.createdBy
  createdAt := hbc.createdAt.trans hab.createdAt
  status := by
    rcases hbc.status with h | h
    · rcases hab.status with h' | h'
      · exact .inl (h.trans h')
      · exact .inr h'
    · rcases hab.status with h' | h'
      · exact .inr (h'.symm.trans h)
      · exact .inr h'
  frozen := by
    intro h
    have hb := hab.frozen h
    subst hb
    exact hbc.frozen h

/-- A draft may be edited and get other lines. -/
theorem rewritten {e : StoredEntry} (draft : e.isIn .draft = true) (u : EntryUpdate)
    (user : String) (now : Instant) (written dropped : Nat) (cells : List (Line Cell)) :
    e.Continues (e.rewritten u user now written dropped cells) := by
  have hstatus := (isIn_iff.mp draft).2
  exact ⟨rfl, rfl, rfl, rfl, rfl, rfl, rfl, rfl, rfl, rfl, .inl rfl,
    fun h => by simp [hstatus] at h⟩

/-- A draft may change its status; nothing else happens to an entry that is moved as a draft. -/
theorem moved {e : StoredEntry} (draft : e.isIn .draft = true) (target : EntryStatus) (user : String)
    (now : Instant) : e.Continues (if e.isIn .draft then e.moved target user now else e) := by
  have hstatus := (isIn_iff.mp draft).2
  rw [if_pos draft]
  exact ⟨rfl, rfl, rfl, rfl, rfl, rfl, rfl, rfl, rfl, rfl, .inr hstatus,
    fun h => by simp [hstatus] at h⟩

end StoredEntry.Continues

/-! ## One step -/

/-- Only a call that deletes an entry, and succeeds, has deleted it. -/
theorem Session.event_entryDeleted {x : Session} {id : Uuid} (h : x.event s = .entryDeleted id) :
    x.call = .deleteEntry id ∧ (x.run s).1.isOk := by
  unfold event at h
  cases hr : (x.run s).1 with
  | error f => simp [hr] at h
  | ok a =>
      simp only [hr] at h
      unfold ServiceCall.event at h
      split at h <;> cases h
      exact ⟨by assumption, rfl⟩

namespace Store

/-- Every entry of `t` was one of `s` or is created by the event, and every one of `s` is still there or
    was deleted by the event. -/
structure Continues (s : Store) (ev : Event) (t : Store) : Prop where
  issued : s.issued ≤ t.issued
  forth : ∀ e ∈ s.entries, (∃ e' ∈ t.entries, e.Continues e') ∨
    (ev = .entryDeleted e.entry.id ∧ e.entry.status ≠ .posted)
  back : ∀ e' ∈ t.entries, (∃ e ∈ s.entries, e.Continues e') ∨
    ((∃ e, ev = .entryCreated e) ∧ ∃ k ≥ s.issued, e'.entry.id = Uuid.issue k)

/-- Nothing has happened to the entries. -/
theorem Continues.same (entries : s'.entries = s.entries) (issued : s.issued ≤ s'.issued) :
    s.Continues ev s' where
  issued := issued
  forth e he := .inl ⟨e, entries ▸ he, .refl e⟩
  back e he := .inl ⟨e, entries ▸ he, .refl e⟩

/-- One entry has been changed. -/
theorem Sound.continues_updateStored (h : s.Sound) {id : Uuid} {old : StoredEntry}
    (found : s.stored? id = some old) {f : StoredEntry → StoredEntry} (hf : old.Continues (f old))
    (entries : s'.entries = (s.updateStored id f).entries) (issued : s'.issued = s.issued) :
    s.Continues ev s' where
  issued := Nat.le_of_eq issued.symm
  forth e he := by
    obtain ⟨hold, hid⟩ := stored?_some found
    rw [entries]
    by_cases hei : e.entry.id = id
    · rw [h.eq_of_id he hold (hei.trans hid.symm)]
      exact .inl ⟨f old, (h.mem_updateStored found).mpr (.inl rfl), hf⟩
    · exact .inl ⟨e, (h.mem_updateStored found).mpr (.inr ⟨he, hei⟩), .refl e⟩
  back e he := by
    rw [entries] at he
    rcases (h.mem_updateStored found).mp he with rfl | ⟨he, -⟩
    · exact .inl ⟨old, (stored?_some found).1, hf⟩
    · exact .inl ⟨e, he, .refl e⟩

/-- A step continues every entry or deletes it. -/
theorem Sound.continues (h : s.Sound) (hs : s.Step clock word ev s') : s.Continues ev s' := by
  cases hs with
  | nothing | accountKept | accountSaved | accountDeleted => exact .same rfl (Nat.le_refl _)
  | accountsOpened => exact .same rfl (Nat.le_add_right _ _)
  | entryCreated accepted clock_eq allocation number_eq status_eq postedBy_eq stored new free =>
      refine ⟨Nat.le_succ _, fun e he => ?_, fun e he => ?_⟩
      · exact .inl ⟨e, List.mem_append_left _ he, .refl e⟩
      · rcases List.mem_append.mp he with he | he
        · exact .inl ⟨e, he, .refl e⟩
        · rw [List.mem_singleton.mp he]
          exact .inr ⟨⟨_, rfl⟩, s.issued, Nat.le_refl _, rfl⟩
  | draftEdited found draft accepted clock_eq stored =>
      exact h.continues_updateStored found (.rewritten draft _ _ _ _ _ _) rfl rfl
  | entryPosted found draft accepted clock_eq =>
      refine h.continues_updateStored found ?_ rfl rfl
      exact .moved draft _ _ _
  | entryVoided found draft clock_eq =>
      refine h.continues_updateStored found ?_ rfl rfl
      exact .moved draft _ _ _
  | @entryDeleted id old found unposted =>
      refine ⟨Nat.le_refl _, fun e he => ?_, fun e he => ?_⟩
      · obtain ⟨hold, hid⟩ := stored?_some found
        by_cases hei : e.entry.id = id
        · rw [h.eq_of_id he hold (hei.trans hid.symm), hid]
          exact .inr ⟨rfl, unposted⟩
        · exact .inl ⟨e, List.mem_filter.mpr ⟨he, by simpa using hei⟩, .refl e⟩
      · exact .inl ⟨e, List.mem_of_mem_filter he, .refl e⟩

/-- A posted entry is still there after a step. -/
theorem Continues.posted_mem (h : s.Continues ev s') {e : StoredEntry} (he : e ∈ s.entries)
    (posted : e.entry.status = .posted) : e ∈ s'.entries := by
  rcases h.forth e he with ⟨e', he', hee'⟩ | ⟨-, unposted⟩
  · rw [hee'.frozen posted] at he'
    exact he'
  · exact absurd posted unposted

/-! ## Whole runs -/

/-- The entry was deleted by one of the sessions `xs` from the store `s` on, as a draft or void. -/
def Deleted (s : Store) (xs : List Session) (e : StoredEntry) : Prop :=
  ∃ a x b, xs = a ++ x :: b ∧ x.call = .deleteEntry e.entry.id ∧
    (x.run (s.afterSessions a)).1.isOk ∧
    ∃ d ∈ (s.afterSessions a).entries, e.Continues d ∧
      (d.entry.status = .draft ∨ d.entry.status = .void)

theorem Sound.continues_run (h : s.Sound) (xs : List Session) :
    (∀ e ∈ s.entries, (∃ e' ∈ (s.afterSessions xs).entries, e.Continues e') ∨ s.Deleted xs e) ∧
      ∀ e' ∈ (s.afterSessions xs).entries, (∃ e ∈ s.entries, e.Continues e') ∨
        ∃ k ≥ s.issued, e'.entry.id = Uuid.issue k := by
  -- the first session is the step, so that the store after it is as sound as the one before
  induction xs generalizing s with
  | nil => exact ⟨fun e he => .inl ⟨e, he, .refl e⟩, fun e he => .inl ⟨e, he, .refl e⟩⟩
  | cons x xs ih =>
      have hstep := x.run_step s
      have hc := h.continues hstep
      obtain ⟨forth, back⟩ := ih (h.step hstep)
      refine ⟨fun e he => ?_, fun e he => ?_⟩
      · rcases hc.forth e he with ⟨a, ha, hea⟩ | ⟨hev, hst⟩
        · rcases forth a ha with ⟨b, hb, hab⟩ | ⟨pre, y, post, rfl, hcall, hrun, d, hd, had, hst⟩
          · exact .inl ⟨b, hb, hea.trans hab⟩
          · exact .inr ⟨x :: pre, y, post, rfl, hea.id ▸ hcall, hrun, d, hd, hea.trans had, hst⟩
        · obtain ⟨hcall, hrun⟩ := Session.event_entryDeleted hev
          refine .inr ⟨[], x, xs, rfl, hcall, hrun, e, he, .refl e, ?_⟩
          cases hs : e.entry.status <;> simp_all
      · rcases back e he with ⟨a, ha, hae⟩ | ⟨k, hk, hid⟩
        · rcases hc.back a ha with ⟨b, hb, hba⟩ | ⟨-, k, hk, hid⟩
          · exact .inl ⟨b, hb, hba.trans hae⟩
          · exact .inr ⟨k, hk, hae.id.trans hid⟩
        · exact .inr ⟨k, Nat.le_trans hc.issued hk, hid⟩

end Store

/-- From any point of a run to any later one: an entry that is stored at both continues; one that is
    stored only at the first was deleted in between, as a draft or void; so a posted one is still
    there, unchanged. And at every point an entry notes who posted it, and when, exactly when it is
    posted. -/
theorem lifecycle (before later : List Session) :
    (∀ e ∈ (Store.after before).entries, e.Coherent) ∧
      (∀ e ∈ (Store.after before).entries, ∀ e' ∈ (Store.after (before ++ later)).entries,
        e'.entry.id = e.entry.id → e.Continues e') ∧
      (∀ e ∈ (Store.after before).entries,
        (∀ e' ∈ (Store.after (before ++ later)).entries, e'.entry.id ≠ e.entry.id) →
          (Store.after before).Deleted later e) ∧
      ∀ e ∈ (Store.after before).entries, e.entry.status = .posted →
        e ∈ (Store.after (before ++ later)).entries := by
  have h := Store.after_sound before
  obtain ⟨forth, back⟩ := h.continues_run later
  rw [← Store.after_append] at forth back
  refine ⟨h.coherent, fun e he e' he' hid => ?_, fun e he gone => ?_, fun e he posted => ?_⟩
  · -- an identifier that was given out after `before` is not one of its entries
    rcases back e' he' with ⟨a, ha, hae⟩ | ⟨k, hk, hk'⟩
    · rw [h.eq_of_id he ha (hid.symm.trans hae.id)]
      exact hae
    · obtain ⟨m, hm, hm'⟩ := h.issued e he
      have : k = m := Uuid.issue_injective (by rw [← hk', hid, hm'])
      omega
  · rcases forth e he with ⟨a, ha, hea⟩ | hdel
    · exact absurd hea.id (gone a ha)
    · exact hdel
  · rcases forth e he with ⟨a, ha, hea⟩ | ⟨_, _, _, _, _, _, d, hd, hed, hst⟩
    · exact hea.frozen posted ▸ ha
    · rw [hed.frozen posted, posted] at hst
      simp at hst

end Bookkeeping
