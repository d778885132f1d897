import Bookkeeping.Proofs.PostingCheck
import Bookkeeping.Proofs.Runs

set_option autoImplicit false

/-! # Reading entries back

Every entry of a sound store can be read, alone and in the list of its company, with the same answer
(`Store.Sound.readIn`), and its lines are those of the last call that wrote lines of it, as the store
keeps them (`Store.after_written`). -/

namespace Bookkeeping

variable {clock : Clock} {word : String} {s s' : Store} {ev : Event} {history : List Event}

/-! ## The lines that were written last -/

/-- The lines of an entry with the amounts as they were given, if the event wrote them. -/
def Event.lines? (id : Uuid) : Event → Option (List (Line Decimal))
  | .entryCreated e | .draftEdited e => if e.id = id then some e.lines else none
  | _ => none

/-- The lines of an entry as they were given last. -/
def History.linesOf (history : List Event) (id : Uuid) : Option (List (Line Decimal)) :=
  history.reverse.findSome? (Event.lines? id)

theorem History.linesOf_concat (history : List Event) (ev : Event) (id : Uuid) :
    linesOf (history ++ [ev]) id = (ev.lines? id).or (linesOf history id) := by
  rw [linesOf, List.reverse_append, List.reverse_singleton, List.singleton_append,
    List.findSome?_cons, linesOf]
  cases ev.lines? id <;> rfl

/-- Lines are numbered and otherwise kept as proposed. -/
theorem map_toPosting_numberLines (n : Nat) (lines : List PostingLine) :
    (numberLines n lines).map Line.toPosting = lines := by
  induction lines generalizing n with
  | nil => rfl
  | cons l rest ih => rw [numberLines, List.map_cons, ih, Line.toPosting]

/-- The stored lines of an entry are those that were given last, and these passed the check. -/
structure StoredEntry.WrittenAs (history : List Event) (a : StoredEntry)
    (lines : List (Line Decimal)) : Prop where
  last : History.linesOf history a.entry.id = some lines
  stored : storeLines lines = some a.entry.lines
  passed : Posting.Passed (lines.map Line.toPosting)

/-- Every stored entry has the lines that were given last. -/
def Store.Written (history : List Event) (s : Store) : Prop :=
  ∀ a ∈ s.entries, ∃ lines, a.WrittenAs history lines

namespace Store

theorem Written.empty : ({} : Store).Written [] := by
  intro a ha
  simp at ha

/-- What writes no lines leaves them as they were given last. -/
theorem Written.kept (h : s.Written history) (event : ∀ id, ev.lines? id = none)
    (stored : ∀ a' ∈ s'.entries, ∃ a ∈ s.entries, a'.entry.id = a.entry.id ∧
      a'.entry.lines = a.entry.lines) : s'.Written (history ++ [ev]) := by
  intro a' ha'
  obtain ⟨a, ha, hid, hlines⟩ := stored a' ha'
  obtain ⟨lines, last, hstored, passed⟩ := h a ha
  refine ⟨lines, ?_, hlines ▸ hstored, passed⟩
  rw [History.linesOf_concat, event, Option.none_or, hid]
  exact last

/-- A change of one entry that leaves its lines. -/
theorem Written.updated (h : s.Written history) (sound : s.Sound)
    (event : ∀ id, ev.lines? id = none) {id : Uuid} {old : StoredEntry}
    (found : s.stored? id = some old) {f : StoredEntry → StoredEntry}
    (hid : (f old).entry.id = old.entry.id) (hlines : (f old).entry.lines = old.entry.lines)
    (entries : s'.entries = (s.updateStored id f).entries) : s'.Written (history ++ [ev]) := by
  refine h.kept event fun a ha => ?_
  rw [entries] at ha
  rcases (sound.mem_updateStored found).mp ha with rfl | ⟨ha, -⟩
  · exact ⟨old, (stored?_some found).1, hid, hlines⟩
  · exact ⟨a, ha, rfl, rfl⟩

/-- The lines of other entries are as they were when an event writes lines of one entry. -/
theorem Written.other (h : s.Written history) {e : Entry Decimal}
    (event : ∀ id, ev.lines? id = if e.id = id then some e.lines else none) {a : StoredEntry}
    (ha : a ∈ s.entries) (hne : a.entry.id ≠ e.id) :
    ∃ lines, a.WrittenAs (history ++ [ev]) lines := by
  obtain ⟨lines, last, hstored, passed⟩ := h a ha
  refine ⟨lines, ?_, hstored, passed⟩
  rw [History.linesOf_concat, event, if_neg hne.symm, Option.none_or]
  exact last

/-- The lines that an event writes. -/
theorem writtenAs_of_event {e : Entry Decimal}
    (event : ∀ id, ev.lines? id = if e.id = id then some e.lines else none) {a : StoredEntry}
    (id : a.entry.id = e.id) (stored : storeLines e.lines = some a.entry.lines)
    (passed : Posting.Passed (e.lines.map Line.toPosting)) :
    a.WrittenAs (history ++ [ev]) e.lines := by
  refine ⟨?_, stored, passed⟩
  rw [History.linesOf_concat, event, if_pos id.symm, Option.some_or]

theorem Accepts.passed {company : Uuid} {lines : List PostingLine} (h : s.Accepts company lines) :
    Posting.Passed ((numberLines 1 lines).map Line.toPosting) := by
  obtain ⟨-, totals, h⟩ := h
  rw [map_toPosting_numberLines]
  exact Posting.check_passed h

theorem Written.step (h : s.Written history) (sound : s.Sound) (hs : s.Step clock word ev s') :
    s'.Written (history ++ [ev]) := by
  cases hs with
  | nothing | accountsOpened | accountKept | accountSaved | accountDeleted =>
      exact h.kept (fun _ => rfl) fun a ha => ⟨a, ha, rfl, rfl⟩
  | entryCreated accepted clock_eq allocation number_eq status_eq postedBy_eq stored new free =>
      intro a ha
      rcases List.mem_append.mp ha with ha | ha
      · exact h.other (fun _ => rfl) ha (stored?_eq_none.mp new a ha)
      · rw [List.mem_singleton.mp ha]
        exact ⟨_, writtenAs_of_event (fun _ => rfl) rfl stored accepted.passed⟩
  | draftEdited found draft accepted clock_eq stored =>
      obtain ⟨hold, rfl⟩ := stored?_some found
      intro a ha
      rcases (sound.mem_updateStored found).mp ha with rfl | ⟨ha, hne⟩
      · refine ⟨_, writtenAs_of_event (fun _ => rfl) rfl ?_ accepted.passed⟩
        rw [StoredEntry.rewritten_lines]
        exact stored
      · exact h.other (fun _ => rfl) ha hne
  | entryPosted found draft accepted clock_eq =>
      refine h.updated sound (fun _ => rfl) found ?_ ?_ rfl
      · rw [if_pos draft]
        rfl
      · rw [if_pos draft]
        rfl
  | entryVoided found draft clock_eq =>
      refine h.updated sound (fun _ => rfl) found ?_ ?_ rfl
      · rw [if_pos draft]
        rfl
      · rw [if_pos draft]
        rfl
  | entryDeleted found unposted =>
      exact h.kept (fun _ => rfl) fun a ha => ⟨a, List.mem_of_mem_filter ha, rfl, rfl⟩

/-- Every entry that is stored after a run has the lines that were given last. -/
theorem after_written (sessions : List Session) : (after sessions).Written (History.of sessions) := by
  have hrun := run_invariant (P := fun history s => s.Sound ∧ s.Written history) (W := fun _ => True)
    ⟨.empty, .empty⟩ (fun _ h hs => ⟨h.1.step hs, h.2.step h.1 hs⟩) sessions fun _ _ => trivial
  exact hrun.2

end Store

/-! ## Reading -/

theorem Store.Sound.read_eq (sound : s.Sound) {a : StoredEntry} (ha : a ∈ s.entries) :
    a.read = .ok a.shown := by
  rw [StoredEntry.read, (sound.coherent a ha).known]

/-- All that is read from a sound store is shown with two places. -/
theorem Store.Sound.mapM_read (sound : s.Sound) {as : List StoredEntry}
    (stored : ∀ a ∈ as, a ∈ s.entries) :
    as.mapM StoredEntry.read = .ok (as.map StoredEntry.shown) := by
  induction as with
  | nil => rfl
  | cons a as ih =>
      rw [List.mapM_cons, sound.read_eq (stored a (by simp)), ih fun b hb => stored b (by simp [hb])]
      rfl

/-- The list of the entries of a company shows each of them, and nothing else. -/
theorem Store.Sound.entriesOf_eq (sound : s.Sound) {a : StoredEntry} (ha : a ∈ s.entries)
    {status : Option EntryStatus} (wanted : ∀ y ∈ status, a.entry.status = y) :
    ∃ es, s.entriesOf a.entry.company status = .ok es ∧ a.shown ∈ es ∧
      ∀ e ∈ es, ∃ b ∈ s.entries, b.shown = e := by
  have hstored {as : List StoredEntry} (h : as ⊆ s.entries) {e : Entry Decimal}
      (he : e ∈ as.map StoredEntry.shown) : ∃ b ∈ s.entries, b.shown = e := by
    obtain ⟨b, hb, rfl⟩ := List.mem_map.mp he
    exact ⟨b, h hb, rfl⟩
  have hsub {p : StoredEntry → Bool} :
      (s.entries.filter p).mergeSort Store.newestFirst ⊆ s.entries :=
    fun b hb => List.mem_of_mem_filter (List.mem_mergeSort.mp hb)
  -- the order of the list does not matter, only what is kept by the filter
  refine ⟨_, sound.mapM_read fun b hb => hsub hb,
    List.mem_map_of_mem (List.mem_mergeSort.mpr ?_), fun e he => hstored hsub he⟩
  rw [List.mem_filter]
  refine ⟨ha, ?_⟩
  cases status with
  | none => simp
  | some y => simpa [StoredEntry.isIn_iff] using ⟨(sound.coherent a ha).known, wanted y rfl⟩

/-- The two ways of reading a stored entry, each in a session of its own, both show it as `e`. -/
structure StoredEntry.ReadIn (s : Store) (a : StoredEntry) (e : Entry Decimal) : Prop where
  alone : ∀ x : Session, x.call = .getEntry a.entry.id → (x.run s).1 = .ok (.entry e)
  listed : ∀ (x : Session) (status : Option EntryStatus),
    x.call = .listEntries a.entry.company status → (∀ y ∈ status, a.entry.status = y) →
      ∃ es, (x.run s).1 = .ok (.entries es) ∧ e ∈ es ∧ ∀ e' ∈ es, e'.id = a.entry.id → e' = e

namespace Session

variable {x : Session} {a : StoredEntry}

theorem run_getEntry (sound : s.Sound) (ha : a ∈ s.entries) (call : x.call = .getEntry a.entry.id) :
    (x.run s).1 = .ok (.entry a.shown) := by
  have hread : s.entry? a.entry.id = .ok (some a.shown) := by
    rw [Store.entry?, sound.stored?_eq ha, Store.readFound, sound.read_eq ha]
    rfl
  have hstep : Op.exec x.setting.clock (.entry a.entry.id) (x.world s) =
      (s.entry? a.entry.id, x.world s) := rfl
  rw [hread] at hstep
  rw [Session.run, call, ServiceCall.procedure, Journal.getEntry, Procedure.run]
  change (Procedure.exec _ (.step (.entry a.entry.id) _) _).1 = _
  rw [Procedure.exec, hstep]
  rfl

theorem run_listEntries {company : Uuid} {status : Option EntryStatus} {es : List (Entry Decimal)}
    (read : s.entriesOf company status = .ok es) (call : x.call = .listEntries company status) :
    (x.run s).1 = .ok (.entries es) := by
  have hstep : Op.exec x.setting.clock (.entriesOf company status) (x.world s) =
      (s.entriesOf company status, x.world s) := rfl
  rw [read] at hstep
  rw [Session.run, call, ServiceCall.procedure, Journal.listEntries, Procedure.run]
  change (Procedure.exec _ (.step (.entriesOf company status) _) _).1 = _
  rw [Procedure.exec, hstep]
  rfl

end Session

theorem Store.Sound.readIn (sound : s.Sound) {a : StoredEntry} (ha : a ∈ s.entries) :
    a.ReadIn s a.shown := by
  refine ⟨fun x call => x.run_getEntry sound ha call, fun x status call wanted => ?_⟩
  obtain ⟨es, hread, hes, hstored⟩ := sound.entriesOf_eq ha wanted
  refine ⟨es, x.run_listEntries hread call, hes, fun e he hid => ?_⟩
  obtain ⟨b, hb, rfl⟩ := hstored e he
  rw [sound.eq_of_id hb ha hid]

end Bookkeeping
