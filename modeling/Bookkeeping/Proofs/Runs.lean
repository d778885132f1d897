import Bookkeeping.Proofs.Calls
import Mathlib.Data.List.Induction
import Mathlib.Data.List.Nodup

set_option autoImplicit false

/-! # Runs

What holds at the start and is kept by every step holds after every run, together with the history of
the run (`sessions_invariant`, `run_invariant`). The first such invariant is `Store.Sound`: the
identifiers in the store are distinct and were given out, every status is one, and the notes about
posting fit it. -/

namespace Bookkeeping

variable {clock : Clock} {word : String} {s s' : Store} {ev : Event}

/-! ## Cutting runs -/

namespace Store

theorem afterSessions_append (s : Store) (xs ys : List Session) :
    s.afterSessions (xs ++ ys) = (s.afterSessions xs).afterSessions ys := by
  induction xs generalizing s with
  | nil => rfl
  | cons x xs ih => exact ih (x.run s).2

theorem after_append (xs ys : List Session) : after (xs ++ ys) = (after xs).afterSessions ys :=
  afterSessions_append {} xs ys

theorem after_concat (xs : List Session) (x : Session) : after (xs ++ [x]) = (x.run (after xs)).2 :=
  after_append xs [x]

end Store

theorem Session.events_append (s : Store) (xs ys : List Session) :
    events s (xs ++ ys) = events s xs ++ events (s.afterSessions xs) ys := by
  induction xs generalizing s with
  | nil => rfl
  | cons x xs ih => simp [events, Store.afterSessions, ih]

theorem History.of_append (xs ys : List Session) :
    of (xs ++ ys) = of xs ++ Session.events (Store.after xs) ys :=
  Session.events_append {} xs ys

theorem History.of_concat (xs : List Session) (x : Session) :
    of (xs ++ [x]) = of xs ++ [x.event (Store.after xs)] :=
  of_append xs [x]

/-- What holds of the empty store without a history, and is kept by every allowed session, holds after
    every run of allowed sessions. -/
theorem sessions_invariant {P : List Event → Store → Prop} {W : Session → Prop} (start : P [] {})
    (step : ∀ {x : Session} {history s}, W x → P history s →
      P (history ++ [x.event s]) (x.run s).2)
    (sessions : List Session) (allowed : ∀ x ∈ sessions, W x) :
    P (History.of sessions) (Store.after sessions) := by
  -- from the end, because the last session is the step that is added to the history
  induction sessions using List.reverseRecOn with
  | nil => exact start
  | append_singleton xs x ih =>
      rw [Store.after_concat, History.of_append]
      exact step (allowed x (by simp)) (ih fun y hy => allowed y (by simp [hy]))

/-- The same for what every step keeps, when numbers start with allowed words. -/
theorem run_invariant {P : List Event → Store → Prop} {W : String → Prop} (start : P [] {})
    (step : ∀ {clock word history s ev s'}, W word → P history s →
      s.Step clock word ev s' → P (history ++ [ev]) s')
    (sessions : List Session) (hwords : ∀ x ∈ sessions, W x.setting.numberWord) :
    P (History.of sessions) (Store.after sessions) :=
  sessions_invariant (W := fun x => W x.setting.numberWord) start
    (fun {x _ s} hword h => step hword h (x.run_step s)) sessions hwords

/-! ## Sessions to try runs with -/

/-- A company opens two accounts. -/
def Session.opensTwoAccounts : Session where
  call := .openAccounts ⟨1⟩
    [{ code := "1000", nameEn := "Cash", type := .asset },
      { code := "3000", nameEn := "Capital", type := .equity }]
  setting := { clock := .ok default }

/-- 5 January 2024. -/
def firstDay : Date := ⟨738890, by decide, by decide⟩

/-- 6 February 2024. -/
def laterDay : Date := ⟨738922, by decide, by decide⟩

/-- The call that moves an amount from the second account to the first. -/
def ServiceCall.moving (date : Date) (amount : Decimal) (post : Bool) : ServiceCall :=
  .createEntry { company := ⟨1⟩, date, createdBy := "clerk" }
    [{ account := Uuid.issue 0, debit := amount }, { account := Uuid.issue 1, credit := amount }] post

/-- A company opens two accounts and moves 100 on one day and 40 on a later one. -/
def movesOnTwoDays : List Session :=
  [Session.opensTwoAccounts.call, .moving firstDay (.finite false 100 0) true,
    .moving laterDay (.finite false 40 0) true].map fun call =>
      { call, setting := { clock := .ok default } }

/-! ## Soundness -/

theorem Uuid.issue_injective {m n : Nat} (h : issue m = issue n) : m = n := by
  have := congrArg Uuid.value h
  simp only [issue] at this
  omega

namespace StoredEntry

/-- What an entry notes about its posting fits its status. -/
structure Coherent (e : StoredEntry) : Prop where
  known : e.strange = none
  postedBy : e.entry.postedBy.isSome ↔ e.entry.status = .posted
  postedAt : e.entry.postedAt.isSome ↔ e.entry.status = .posted

theorem isIn_iff {e : StoredEntry} {status : EntryStatus} :
    e.isIn status = true ↔ e.strange = none ∧ e.entry.status = status := by
  simp [isIn]

variable {e : StoredEntry}

theorem Coherent.posted (h : e.Coherent) (user : String) (now : Instant) :
    (e.moved .posted user now).Coherent :=
  ⟨h.known, by simp [moved, Entry.moved], by simp [moved, Entry.moved]⟩

/-- A draft that is made void was never posted. -/
theorem Coherent.voided (h : e.Coherent) (draft : e.entry.status = .draft) (user : String)
    (now : Instant) : (e.moved .void user now).Coherent := by
  have hby : e.entry.postedBy.isSome = false := by
    rw [Bool.eq_false_iff, ne_eq, h.postedBy, draft]
    decide
  have hat : e.entry.postedAt.isSome = false := by
    rw [Bool.eq_false_iff, ne_eq, h.postedAt, draft]
    decide
  exact ⟨h.known, by simpa [moved, Entry.moved] using hby, by simpa [moved, Entry.moved] using hat⟩

end StoredEntry

namespace Store

/-- The identifiers in the store are distinct and were given out, and its entries are coherent. -/
structure Sound (s : Store) : Prop where
  distinct : (s.entries.map fun e => e.entry.id).Nodup
  issued : ∀ e ∈ s.entries, ∃ k < s.issued, e.entry.id = Uuid.issue k
  coherent : ∀ e ∈ s.entries, e.Coherent

theorem Sound.eq_of_id (h : s.Sound) {a b : StoredEntry} (ha : a ∈ s.entries) (hb : b ∈ s.entries)
    (hab : a.entry.id = b.entry.id) : a = b :=
  List.inj_on_of_nodup_map h.distinct ha hb hab

theorem Sound.stored?_eq (h : s.Sound) {e : StoredEntry} (he : e ∈ s.entries) :
    s.stored? e.entry.id = some e := by
  cases hf : s.stored? e.entry.id with
  | none => exact absurd rfl (stored?_eq_none.mp hf e he)
  | some a =>
      obtain ⟨ha, hid⟩ := stored?_some hf
      rw [h.eq_of_id ha he hid]

/-- The entries after a change of one entry. -/
theorem Sound.mem_updateStored (h : s.Sound) {id : Uuid} {old : StoredEntry}
    (found : s.stored? id = some old) {f : StoredEntry → StoredEntry} {e : StoredEntry} :
    e ∈ (s.updateStored id f).entries ↔ e = f old ∨ (e ∈ s.entries ∧ e.entry.id ≠ id) := by
  obtain ⟨hold, hid⟩ := stored?_some found
  simp only [updateStored, List.mem_map]
  constructor
  · rintro ⟨a, ha, rfl⟩
    by_cases hai : a.entry.id = id
    · rw [h.eq_of_id ha hold (hai.trans hid.symm)]
      simp [hid]
    · exact .inr (by simpa [hai] using ha)
  · rintro (rfl | ⟨he, hne⟩)
    · exact ⟨old, hold, by simp [hid]⟩
    · exact ⟨e, he, by simp [hne]⟩

theorem updateStored_ids {id : Uuid} {f : StoredEntry → StoredEntry}
    (hid : ∀ e, (f e).entry.id = e.entry.id) :
    (s.updateStored id f).entries.map (fun e => e.entry.id) = s.entries.map fun e => e.entry.id := by
  rw [updateStored, List.map_map]
  refine List.map_congr_left fun e _ => ?_
  dsimp only [Function.comp_apply]
  split
  · exact hid e
  · rfl

/-- A change of one entry that keeps its identifier and leaves it coherent. -/
theorem Sound.updateStored (h : s.Sound) {id : Uuid} {old : StoredEntry}
    (found : s.stored? id = some old) {f : StoredEntry → StoredEntry}
    (hid : ∀ e, (f e).entry.id = e.entry.id) (hf : (f old).Coherent) :
    (s.updateStored id f).Sound := by
  refine ⟨?_, fun e he => ?_, fun e he => ?_⟩
  · rw [updateStored_ids hid]
    exact h.distinct
  · rcases (h.mem_updateStored found).mp he with rfl | ⟨he, -⟩
    · rw [hid]
      exact h.issued old (stored?_some found).1
    · exact h.issued e he
  · rcases (h.mem_updateStored found).mp he with rfl | ⟨he, -⟩
    · exact hf
    · exact h.coherent e he

theorem Sound.withWrites (h : s.Sound) (n : Nat) : ({ s with writes := n } : Store).Sound :=
  ⟨h.distinct, h.issued, h.coherent⟩

theorem Sound.step (h : s.Sound) (hs : s.Step clock word ev s') : s'.Sound := by
  cases hs with
  | nothing | accountKept | accountSaved | accountDeleted =>
      exact ⟨h.distinct, h.issued, h.coherent⟩
  | accountsOpened =>
      refine ⟨h.distinct, fun e he => ?_, h.coherent⟩
      obtain ⟨k, hk, hid⟩ := h.issued e he
      exact ⟨k, Nat.lt_add_right _ hk, hid⟩
  | @entryCreated _ _ post _ _ _ _ _ _ _ _ _ _ _ status_eq postedBy_eq _ new _ =>
      refine ⟨?_, fun e he => ?_, fun e he => ?_⟩
      · rw [withEntry, List.map_append, List.nodup_append]
        refine ⟨h.distinct, by simp, ?_⟩
        simpa [newEntry] using stored?_eq_none.mp new
      · rcases List.mem_append.mp he with he | he
        · obtain ⟨k, hk, hid⟩ := h.issued e he
          exact ⟨k, Nat.lt_succ_of_lt hk, hid⟩
        · rw [List.mem_singleton.mp he]
          exact ⟨s.issued, Nat.lt_succ_self _, rfl⟩
      · rcases List.mem_append.mp he with he | he
        · exact h.coherent e he
        · rw [List.mem_singleton.mp he]
          subst status_eq postedBy_eq
          cases post
          · exact ⟨rfl, by simp [newEntry], by simp [newEntry]⟩
          · exact ⟨rfl, by simp [newEntry], by simp [newEntry]⟩
  | draftEdited found draft accepted clock_eq stored =>
      have he := h.coherent _ (stored?_some found).1
      refine Sound.withWrites (h.updateStored found (fun e => ?_) ?_) _
      · rfl
      · exact ⟨he.known, he.postedBy, he.postedAt⟩
  | entryPosted found draft accepted clock_eq =>
      refine h.updateStored found (fun e => ?_) ?_
      · split <;> rfl
      · rw [if_pos draft]
        exact (h.coherent _ (stored?_some found).1).posted _ _
  | entryVoided found draft clock_eq =>
      refine h.updateStored found (fun e => ?_) ?_
      · split <;> rfl
      · rw [if_pos draft]
        exact (h.coherent _ (stored?_some found).1).voided (StoredEntry.isIn_iff.mp draft).2 _ _
  | entryDeleted found unposted =>
      exact ⟨h.distinct.sublist (List.filter_sublist.map _),
        fun e he => h.issued e (List.mem_of_mem_filter he),
        fun e he => h.coherent e (List.mem_of_mem_filter he)⟩

theorem Sound.empty : ({} : Store).Sound := ⟨by simp, by simp, by simp⟩

/-- A session leaves a sound store. -/
theorem Sound.run (sound : s.Sound) {x : Session} {r : Except Failure ServiceAnswer}
    (h : x.run s = (r, s')) : s'.Sound := by
  have hstep := sound.step (x.run_step s)
  rwa [h] at hstep

/-- The store after a run is sound. -/
theorem after_sound (sessions : List Session) : (after sessions).Sound :=
  run_invariant (P := fun _ s => s.Sound) (W := fun _ => True) .empty
    (fun _ h hs => h.step hs) sessions fun _ _ => trivial

end Store

end Bookkeeping
