import Bookkeeping.Proofs.Lifecycle

set_option autoImplicit false

/-! # Reversals

Nothing in the store ties a reversal to the entry that it reverses; that the two fit, and that an entry
is reversed only once, rests on the calls alone (`Store.Reversals`). Both entries are posted, so all
that a later step could do is create another reversal, and `reverseEntry` looks for one first
(`Store.Origin`). Callers who create an entry themselves could note anything in its header: the main
result (`reversals`) is about runs in which they note no reversed entry. -/

namespace Bookkeeping

variable {s s' : Store} {ev : Event} {x : Session}

/-! ## Lines of a reversal -/

/-- Lines of a reversal have debit and credit exchanged. -/
theorem map_reversalLines (n : Nat) (e : Entry Decimal) :
    (numberLines n (Journal.reversalLines e)).map (fun l => (l.account, l.debit, l.credit)) =
      e.lines.map fun l => (l.account, l.credit, l.debit) := by
  unfold Journal.reversalLines
  generalize e.lines = lines
  induction lines generalizing n with
  | nil => rfl
  | cons l rest ih =>
      rw [List.map_cons, numberLines, List.map_cons, List.map_cons, ih]
      rfl

/-- The lines of a reversal are stored on the accounts of the lines that they reverse. -/
theorem accounts_of_reversal {old : StoredEntry} {cells : List (Line Cell)}
    (stored : storeLines (numberLines 1 (Journal.reversalLines old.shown)) = some cells) :
    cells.map Line.account = old.entry.lines.map Line.account := by
  have hcells := map_storeLines stored fun _ _ h => h.account
  have hlines := congrArg (List.map Prod.fst) (map_reversalLines 1 old.shown)
  rw [List.map_map, List.map_map] at hlines
  rw [hcells]
  refine Eq.trans hlines ?_
  rw [StoredEntry.shown, Entry.map, List.map_map]
  rfl

/-! ## A reversal and what it reverses -/

/-- The stored entry `r` reverses the stored entry `o`, line by line on the same accounts. -/
structure StoredEntry.Reverses (r o : StoredEntry) : Prop where
  posted : r.entry.status = .posted
  source : r.entry.source = .reversal
  sourceId : r.entry.sourceId = some o.entry.id
  reversed : o.entry.status = .posted
  company : o.entry.company = r.entry.company
  accounts : r.entry.lines.map Line.account = o.entry.lines.map Line.account

namespace Store

/-- Every entry that is noted as reversed is stored, fits its reversal, and is reversed only once. -/
structure Reversals (s : Store) : Prop where
  reverses : ∀ r ∈ s.entries, ∀ id, r.entry.reversedEntry = some id →
    ∃ o ∈ s.entries, o.entry.id = id ∧ r.Reverses o
  once : ∀ r ∈ s.entries, ∀ r' ∈ s.entries, ∀ id, r.entry.reversedEntry = some id →
    r'.entry.reversedEntry = some id → r' = r

theorem Reversals.empty : ({} : Store).Reversals := ⟨by simp, by simp⟩

/-- Reversals and what they reverse are posted, so nothing but a new entry could add to them. -/
theorem Reversals.kept (h : s.Reversals) (hc : s.Continues ev s')
    (uncreated : ∀ e, ev ≠ .entryCreated e) : s'.Reversals := by
  -- an entry that notes what it reverses did so before, and has not changed since
  have before : ∀ r' ∈ s'.entries, ∀ id, r'.entry.reversedEntry = some id → r' ∈ s.entries := by
    intro r' hr' id hid
    rcases hc.back r' hr' with ⟨r, hr, hrr'⟩ | ⟨⟨e, he⟩, -⟩
    · obtain ⟨o, -, -, hro⟩ := h.reverses r hr id (hrr'.reversedEntry.symm.trans hid)
      rw [hrr'.frozen hro.posted]
      exact hr
    · exact absurd he (uncreated e)
  refine ⟨fun r hr id hid => ?_, fun r hr r' hr' id hid hid' => ?_⟩
  · obtain ⟨o, ho, hoid, hro⟩ := h.reverses r (before r hr id hid) id hid
    exact ⟨o, hc.posted_mem ho hro.reversed, hoid, hro⟩
  · exact h.once r (before r hr id hid) r' (before r' hr' id hid') id hid hid'

/-- A created entry is stored behind the others, with the lines as the store keeps them. -/
theorem Step.created {clock : Clock} {word : String} {e : Entry Decimal}
    (hs : s.Step clock word (.entryCreated e) s') :
    ∃ (new : StoredEntry) (given : List (Line Decimal)), s'.entries = s.entries ++ [new] ∧
      storeLines given = some new.entry.lines ∧ e = { new.entry with lines := given } := by
  cases hs with
  | entryCreated accepted clock_eq allocation number_eq status_eq postedBy_eq stored new free =>
      exact ⟨_, _, rfl, stored, rfl⟩

/-- A new entry that reverses nothing. -/
theorem Reversals.concat (h : s.Reversals) {new : StoredEntry} (plain : new.entry.reversedEntry = none)
    (entries : s'.entries = s.entries ++ [new]) : s'.Reversals := by
  have before : ∀ r ∈ s'.entries, ∀ id, r.entry.reversedEntry = some id → r ∈ s.entries := by
    intro r hr id hid
    rw [entries, List.mem_append, List.mem_singleton] at hr
    rcases hr with hr | rfl
    · exact hr
    · rw [plain] at hid
      cases hid
  refine ⟨fun r hr id hid => ?_, fun r hr r' hr' id hid hid' => ?_⟩
  · obtain ⟨o, ho, hro⟩ := h.reverses r (before r hr id hid) id hid
    refine ⟨o, ?_, hro⟩
    rw [entries]
    exact List.mem_append_left _ ho
  · exact h.once r (before r hr id hid) r' (before r' hr' id hid') id hid hid'

/-- A new entry that reverses one that was not reversed yet. -/
theorem Reversals.reversing (h : s.Reversals) {new old : StoredEntry} (hold : old ∈ s.entries)
    (unreversed : ∀ r ∈ s.entries, r.entry.reversedEntry ≠ some old.entry.id)
    (noted : new.entry.reversedEntry = some old.entry.id) (fits : new.Reverses old)
    (entries : s'.entries = s.entries ++ [new]) : s'.Reversals := by
  have cases_mem : ∀ r ∈ s'.entries, r ∈ s.entries ∨ r = new := by
    intro r hr
    rwa [entries, List.mem_append, List.mem_singleton] at hr
  have mem : ∀ r ∈ s.entries, r ∈ s'.entries := by
    intro r hr
    rw [entries]
    exact List.mem_append_left _ hr
  refine ⟨fun r hr id hid => ?_, fun r hr r' hr' id hid hid' => ?_⟩
  · rcases cases_mem r hr with hr | rfl
    · obtain ⟨o, ho, hro⟩ := h.reverses r hr id hid
      exact ⟨o, mem o ho, hro⟩
    · rw [noted] at hid
      exact ⟨old, mem old hold, Option.some.inj hid, fits⟩
  · rcases cases_mem r hr with hr | rfl
    · rcases cases_mem r' hr' with hr' | rfl
      · exact h.once r hr r' hr' id hid hid'
      · rw [noted] at hid'
        exact absurd (hid.trans hid'.symm) (unreversed r hr)
    · rcases cases_mem r' hr' with hr' | rfl
      · rw [noted] at hid
        exact absurd (hid'.trans hid.symm) (unreversed r' hr')
      · rfl

end Store

/-! ## Sessions and runs -/

/-- The call, if it creates an entry directly, does not note a reversed one. -/
def ServiceCall.NotesNoReversed (c : ServiceCall) : Prop :=
  ∀ h lines post, c = .createEntry h lines post → h.reversedEntry = none

/-- A created entry reverses nothing, or the call was to reverse a posted entry. -/
theorem Store.Origin.plain_or_reverses {e : Entry Decimal} {c : ServiceCall} (h : s.Origin e c)
    (plain : c.NotesNoReversed) :
    e.reversedEntry = none ∨ ∃ old ∈ s.entries, old.entry.status = .posted ∧
      (∀ r ∈ s.entries, r.entry.reversedEntry ≠ some old.entry.id) ∧ old.ReversedBy e := by
  cases c with
  | createEntry header lines post =>
      have hnone := plain header lines post rfl
      exact .inl (Eq.trans h hnone)
  | reverseEntry id user reason date =>
      obtain ⟨old, found, posted, unreversed, hold⟩ := h
      obtain ⟨hmem, rfl⟩ := stored?_some found
      exact .inr ⟨old, hmem, (StoredEntry.isIn_iff.mp posted).2, unreversed, hold⟩
  | _ => exact .inl h

theorem Store.Reversals.run (h : s.Reversals) (sound : s.Sound) (plain : x.call.NotesNoReversed) :
    (x.run s).2.Reversals := by
  have hstep := x.run_step s
  by_cases hcreated : ∃ e, x.event s = .entryCreated e
  · obtain ⟨e, he⟩ := hcreated
    rw [he] at hstep
    obtain ⟨new, given, entries, stored, rfl⟩ := hstep.created
    have horigin := (Session.event_origin he).plain_or_reverses plain
    rcases horigin with hnone | ⟨old, hold, posted, unreversed, hby⟩
    · exact h.concat hnone entries
    · refine h.reversing hold unreversed hby.reversedEntry ?_ entries
      have hgiven : given = numberLines 1 (Journal.reversalLines old.shown) := hby.lines
      rw [hgiven] at stored
      have haccounts := accounts_of_reversal stored
      exact ⟨hby.status, hby.source, hby.sourceId, posted, hby.company.symm, haccounts⟩
  · exact h.kept (sound.continues hstep) (not_exists.mp hcreated)

/-- After every run in which no header notes a reversed entry, reversals fit what they reverse. -/
theorem Store.after_reversals (sessions : List Session)
    (plain : ∀ x ∈ sessions, x.call.NotesNoReversed) :
    (Store.after sessions).Sound ∧ (Store.after sessions).Reversals :=
  sessions_invariant (P := fun _ s => s.Sound ∧ s.Reversals) ⟨.empty, .empty⟩
    (fun {x _ s} plain h => ⟨h.1.step (x.run_step s), h.2.run h.1 plain⟩) sessions plain

/-- What is answered to a call that reverses an entry. -/
theorem Session.run_reverseEntry {id : Uuid} {user : String} {reason : Option String}
    {date : Option Date} {a : ServiceAnswer} (call : x.call = .reverseEntry id user reason date)
    (answer : (x.run s).1 = .ok a) :
    ∃ old e, s.stored? id = some old ∧ a = .entry e ∧ old.ReversedBy e := by
  have hcall : (x.call.procedure x.setting).AllOrNothing x.setting.clock s fun a _ =>
      ∃ old e, s.stored? id = some old ∧ a = .entry e ∧ old.ReversedBy e := by
    rw [call]
    refine .map (Journal.reverseEntry_allOrNothing fun old day found _ _ =>
      Journal.createEntry_allOrNothing.mono fun e _ ⟨_, made⟩ => ?_)
    obtain ⟨_, now, number, postedBy, rfl⟩ := made
    exact ⟨old, _, found, rfl, rfl, rfl, rfl, rfl, rfl, rfl⟩
  exact run_answered hcall answer

/-- After every run in which no header notes a reversed entry: an entry that reverses another is posted,
    as a reversal of it; the other is still stored, posted, of the same company, with lines on the same
    accounts in the same order, and reversed by no other entry. And whenever an entry is reversed next,
    the answer has the lines of the stored entry with debit and credit exchanged. -/
theorem reversals (sessions : List Session)
    (plain : ∀ x ∈ sessions, x.call.NotesNoReversed) :
    (∀ r ∈ (Store.after sessions).entries, ∀ id, r.entry.reversedEntry = some id →
      (∃ o ∈ (Store.after sessions).entries, o.entry.id = id ∧ r.Reverses o) ∧
        ∀ r' ∈ (Store.after sessions).entries, r'.entry.reversedEntry = some id → r' = r) ∧
      ∀ (x : Session) id user reason date a, x.call = .reverseEntry id user reason date →
        (x.run (Store.after sessions)).1 = .ok a →
          ∃ o e, (Store.after sessions).stored? id = some o ∧ a = .entry e ∧
            e.lines.map (fun l => (l.account, l.debit, l.credit)) =
              o.shown.lines.map fun l => (l.account, l.credit, l.debit) := by
  obtain ⟨-, h⟩ := Store.after_reversals sessions plain
  refine ⟨fun r hr id hid => ⟨h.reverses r hr id hid, fun r' hr' => h.once r hr r' hr' id hid⟩, ?_⟩
  intro x id user reason date a call answer
  obtain ⟨o, e, found, rfl, hby⟩ := x.run_reverseEntry call answer
  refine ⟨o, e, found, rfl, ?_⟩
  rw [hby.lines]
  exact map_reversalLines 1 o.shown

/-- A company moves 100.00, reverses that, and reverses the reversal. -/
def reversesTwice : List Session :=
  [Session.opensTwoAccounts.call, .moving firstDay (.finite false 10000 (-2)) true,
    .reverseEntry (Uuid.issue 2) "clerk" none none,
    .reverseEntry (Uuid.issue 3) "clerk" (some "by mistake") (some laterDay)].map fun call =>
      { call, setting := { clock := .ok default } }

/-- The reversal can be reversed in its turn, by an entry that fits it. -/
theorem reversals_reversesTwice :
    (∀ x ∈ reversesTwice, x.call.NotesNoReversed) ∧
      ∃ r ∈ (Store.after reversesTwice).entries, r.entry.reversedEntry = some (Uuid.issue 3) ∧
        ∃ o ∈ (Store.after reversesTwice).entries, o.entry.id = Uuid.issue 3 ∧ r.Reverses o := by
  have plain : ∀ x ∈ reversesTwice, x.call.NotesNoReversed := by
    intro x hx h lines post hcall
    simp only [reversesTwice, List.map_cons, List.map_nil, List.mem_cons, List.not_mem_nil,
      or_false] at hx
    rcases hx with rfl | rfl | rfl | rfl <;> cases hcall
    rfl
  have noted : some (Uuid.issue 3) ∈ (Store.after reversesTwice).entries.map fun a =>
      a.entry.reversedEntry := by
    decide +kernel
  obtain ⟨r, hr, hid⟩ := List.mem_map.mp noted
  exact ⟨plain, r, hr, hid, ((reversals reversesTwice plain).1 r hr _ hid).1⟩

end Bookkeeping
