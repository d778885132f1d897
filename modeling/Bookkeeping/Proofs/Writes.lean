import Bookkeeping.Proofs.Lists
import Bookkeeping.Proofs.Transaction
import Bookkeeping.Store.Entries

set_option autoImplicit false

/-! # What writes do

Each prepared write, once it was sent as a whole, makes one store of another; here that store is told
without the statements in between. Later proofs read a write off these lemmas and never look at its
statements. -/

namespace Bookkeeping

/-- Two accounts share neither the identifier nor, within one company, the code. -/
structure Account.Apart (a b : Account) : Prop where
  id : a.id ≠ b.id
  code : a.company = b.company → a.code ≠ b.code

/-! ## Changing one entry -/

namespace StoredEntry

/-- The entry with more lines. -/
def withLines (ls : List (Line Cell)) (e : StoredEntry) : StoredEntry :=
  { e with entry := { e.entry with lines := e.entry.lines ++ ls } }

/-- The entry without its oldest lines. -/
def withoutLines (n : Nat) (e : StoredEntry) : StoredEntry :=
  { e with entry := { e.entry with lines := e.entry.lines.drop n } }

/-- A draft with edited header fields and new lines in the place of its oldest ones. -/
def rewritten (u : EntryUpdate) (user : String) (now : Instant) (written dropped : Nat)
    (cells : List (Line Cell)) (e : StoredEntry) : StoredEntry :=
  ((e.edited u user now written).withLines cells).withoutLines dropped

/-- When all old lines are dropped, the new ones are left. -/
theorem rewritten_lines (u : EntryUpdate) (user : String) (now : Instant) (written : Nat)
    (cells : List (Line Cell)) (e : StoredEntry) :
    (e.rewritten u user now written e.entry.lines.length cells).entry.lines = cells :=
  List.drop_left

@[simp] theorem withLine_id (l : Line Cell) (e : StoredEntry) :
    (e.withLine l).entry.id = e.entry.id := rfl

@[simp] theorem withoutLine_id (e : StoredEntry) : e.withoutLine.entry.id = e.entry.id := rfl

@[simp] theorem withoutLines_id (n : Nat) (e : StoredEntry) :
    (e.withoutLines n).entry.id = e.entry.id := rfl

end StoredEntry

namespace Store

variable {s s' : Store} {id : Uuid} {f g : StoredEntry → StoredEntry}

theorem updateStored_updateStored (hf : ∀ e, (f e).entry.id = e.entry.id) :
    (s.updateStored id f).updateStored id g = s.updateStored id fun e => g (f e) := by
  simp only [updateStored, List.map_map]
  congr 1
  refine List.map_congr_left fun e _ => ?_
  by_cases he : e.entry.id = id
  · simp [he, hf]
  · simp [he]

theorem updateStored_self (hf : ∀ e ∈ s.entries, e.entry.id = id → f e = e) :
    s.updateStored id f = s := by
  have h : s.entries.map (fun e => if e.entry.id == id then f e else e) = s.entries := by
    refine (List.map_congr_left fun e he => ?_).trans s.entries.map_id
    by_cases h : e.entry.id = id
    · simp [h, hf e he h]
    · simp [h]
  rw [updateStored, h]

/-- A change of the last entry, when it is the only one with its identifier. -/
theorem updateStored_last {s t : Store} {e : StoredEntry} (hs : t.entries = s.entries ++ [e])
    (he : s.stored? e.entry.id = none) :
    t.updateStored e.entry.id f = { t with entries := s.entries ++ [f e] } := by
  have old : s.entries.map (fun x => if x.entry.id == e.entry.id then f x else x) = s.entries := by
    refine (List.map_congr_left fun x hx => ?_).trans s.entries.map_id
    rw [stored?, List.find?_eq_none] at he
    rw [if_neg (he x hx), id]
  rw [updateStored, hs, List.map_append, old]
  simp

/-- A change of an entry is lost when the entry is removed. -/
theorem filter_updateStored (hf : ∀ e, (f e).entry.id = e.entry.id) :
    (s.updateStored id f).entries.filter (fun e => e.entry.id != id) =
      s.entries.filter fun e => e.entry.id != id := by
  simp only [updateStored]
  induction s.entries with
  | nil => rfl
  | cons e es ih =>
      rw [List.map_cons, List.filter_cons, List.filter_cons, ih]
      by_cases he : e.entry.id = id
      · simp [he, hf]
      · simp [he]

theorem stored?_eq_none : s.stored? id = none ↔ ∀ e ∈ s.entries, e.entry.id ≠ id := by
  simp [stored?, List.find?_eq_none]

theorem stored?_some {e : StoredEntry} (h : s.stored? id = some e) :
    e ∈ s.entries ∧ e.entry.id = id :=
  ⟨List.mem_of_find?_eq_some h, by simpa using List.find?_some h⟩

end Store

/-! ## Lines -/

/-- Lines as they are stored; a value that is not a number cannot be. -/
def storeLines (ls : List (Line Decimal)) : Option (List (Line Cell)) := ls.mapM Line.store?

/-- The stored line `c` is the given line `l`, but for what becomes of the amounts. -/
structure Line.StoredAs (l : Line Decimal) (c : Line Cell) : Prop where
  account : c.account = l.account
  number : c.number = l.number
  debit : Cell.ofDecimal? l.debit = some c.debit
  credit : Cell.ofDecimal? l.credit = some c.credit

theorem Line.storedAs_of_store? {l : Line Decimal} {c : Line Cell} (h : l.store? = some c) :
    l.StoredAs c := by
  unfold store? at h
  split at h
  · next debit credit hdebit hcredit =>
      cases h
      exact ⟨rfl, rfl, hdebit, hcredit⟩
  · cases h

/-- Lines are stored one by one. -/
theorem storeLines_storedAs {ls : List (Line Decimal)} {cells : List (Line Cell)}
    (h : storeLines ls = some cells) : List.Forall₂ Line.StoredAs ls cells := by
  induction ls generalizing cells with
  | nil =>
      cases h
      exact .nil
  | cons l rest ih =>
      rw [storeLines, List.mapM_cons, Option.bind_eq_bind, Option.bind_eq_some_iff] at h
      obtain ⟨c, hc, h⟩ := h
      rw [Option.bind_eq_bind, Option.bind_eq_some_iff] at h
      obtain ⟨cs, hcs, h⟩ := h
      cases h
      exact .cons (Line.storedAs_of_store? hc) (ih hcs)

/-- What storing a line keeps is kept of all lines. -/
theorem map_storeLines {β : Type} {f : Line Decimal → β} {g : Line Cell → β}
    {ls : List (Line Decimal)} {cells : List (Line Cell)} (h : storeLines ls = some cells)
    (kept : ∀ l c, l.StoredAs c → g c = f l) : cells.map g = ls.map f :=
  map_eq_of_forall₂ (storeLines_storedAs h) fun l _ => kept l

namespace Statement

open Store

variable {s s' : Store} {id : Uuid}

/-- Inserting lines stores all of them behind the lines that there are. -/
theorem insertLines_ok {ls : List (Line Decimal)}
    (h : applyAll (ls.map (.insertLine id)) s = .ok s') :
    ∃ cells, storeLines ls = some cells ∧ s' = s.updateStored id (StoredEntry.withLines cells) := by
  induction ls generalizing s with
  | nil =>
      cases h
      refine ⟨[], rfl, (updateStored_self fun e _ _ => ?_).symm⟩
      simp [StoredEntry.withLines]
  | cons l ls ih =>
      obtain ⟨t, ht, h⟩ := applyAll_cons_ok.mp h
      cases hl : l.store? with
      | none => simp [apply, hl] at ht
      | some c =>
          simp only [apply, hl, Except.ok.injEq] at ht
          subst ht
          obtain ⟨cells, hc, rfl⟩ := ih h
          refine ⟨c :: cells, ?_, ?_⟩
          · unfold storeLines at hc ⊢
            rw [List.mapM_cons, hl, hc]
            rfl
          rw [updateStored_updateStored (StoredEntry.withLine_id c)]
          congr 1
          funext e
          simp [StoredEntry.withLines, StoredEntry.withLine]

/-- Deleting lines takes the oldest ones. -/
theorem deleteLines_ok {n : Nat} (h : applyAll (List.replicate n (.deleteLine id)) s = .ok s') :
    s' = s.updateStored id (StoredEntry.withoutLines n) := by
  induction n generalizing s with
  | zero =>
      cases h
      exact (updateStored_self fun e _ _ => rfl).symm
  | succ n ih =>
      obtain ⟨t, ht, h⟩ := applyAll_cons_ok.mp h
      cases ht
      rw [ih h, updateStored_updateStored StoredEntry.withoutLine_id]
      congr 1
      funext e
      simp [StoredEntry.withoutLines, StoredEntry.withoutLine]

end Statement

/-! ## Numbers -/

/-- Allocating a number for a company's day: `counters` are the counters after it. -/
structure Allocation (s : Store) (company : Uuid) (dayPrefix : String) (n : Int)
    (counters : List Counter) : Prop where
  /-- The number is the one that was foretold. -/
  number : s.peekSequence company dayPrefix = .ok n
  counter : ({ s with counters } : Store).counter? company dayPrefix =
    some ⟨company, dayPrefix, n + 1⟩
  others : ∀ c d, ¬ (c = company ∧ d = dayPrefix) →
    ({ s with counters } : Store).counter? c d = s.counter? c d

namespace Store

variable {s s' : Store}

theorem counter?_some {company : Uuid} {dayPrefix : String} {c : Counter}
    (h : s.counter? company dayPrefix = some c) :
    c ∈ s.counters ∧ c.company = company ∧ c.dayPrefix = dayPrefix :=
  ⟨List.mem_of_find?_eq_some h, by simpa using List.find?_some h⟩

/-- What advancing a counter makes of counters. -/
theorem find?_advance (cs : List Counter) (company : Uuid) (dayPrefix : String) (c : Uuid)
    (d : String) :
    (cs.map fun x =>
        if x.company == company && x.dayPrefix == dayPrefix then { x with next := x.next + 1 }
        else x).find? (fun x => x.company == c && x.dayPrefix == d) =
      (cs.find? fun x => x.company == c && x.dayPrefix == d).map fun x =>
        if x.company == company && x.dayPrefix == dayPrefix then { x with next := x.next + 1 }
        else x := by
  rw [List.find?_map]
  congr 2
  funext x
  simp only [Function.comp_apply]
  split <;> rfl

theorem allocate_sent {company : Uuid} {dayPrefix : String} {p : Write Int} {t : Store}
    (hp : s.allocate company dayPrefix = .ok p)
    (ht : Statement.applyAll p.statements s = .ok t) :
    Allocation s company dayPrefix p.answer t.counters ∧ t = { s with counters := t.counters } := by
  unfold allocate at hp
  cases hc : s.counter? company dayPrefix with
  | some c =>
      simp only [hc] at hp
      split at hp <;> cases hp
      cases ht
      -- a counter that is there is advanced, all others are found as before
      obtain ⟨-, rfl, rfl⟩ := counter?_some hc
      refine ⟨⟨by simp [peekSequence, hc], ?_, fun d e hde => ?_⟩, rfl⟩
      · rw [counter?, find?_advance, ← counter?, hc]
        simp
      · rw [counter?, find?_advance, ← counter?]
        cases hd : s.counter? d e with
        | none => rfl
        | some x =>
            obtain ⟨-, rfl, rfl⟩ := counter?_some hd
            simp only [Option.map_some, Bool.and_eq_true, beq_iff_eq, if_neg hde]
  | none =>
      simp only [hc] at hp
      obtain ⟨n, hn, hp⟩ := bind_eq_ok hp
      obtain ⟨-, -, hp⟩ := bind_eq_ok hp
      cases hp
      obtain ⟨u, hu, ht⟩ := Statement.applyAll_cons_ok.mp ht
      cases ht
      obtain ⟨-, rfl⟩ := Statement.violated_ok.mp hu
      refine ⟨⟨?_, ?_, fun d e hde => ?_⟩, rfl⟩
      · simp only [peekSequence, hc, hn]
        rfl
      · rw [counter?, List.find?_append, ← counter?, hc]
        simp
      · have : ¬ (company = d ∧ dayPrefix = e) := fun h => hde ⟨h.1.symm, h.2.symm⟩
        rw [counter?, List.find?_append, ← counter?]
        simp [this]

/-! ## Entries -/

/-- The store with a new entry and the counters after its number was allocated. -/
def withEntry (s : Store) (counters : List Counter) (e : Entry Cell) (n : Int) : Store :=
  { s with
    counters
    entries := s.entries ++ [{ entry := e, sequence := n, written := s.writes }]
    issued := s.issued + 1
    writes := s.writes + 1 }

/-- The new entry is found. -/
theorem stored?_withEntry {counters : List Counter} {e : Entry Cell} {n : Int}
    (new : s.stored? e.id = none) :
    (s.withEntry counters e n).stored? e.id =
      some { entry := e, sequence := n, written := s.writes } := by
  rw [stored?] at new
  rw [stored?, withEntry, List.find?_append, new]
  simp

/-- A change of the new entry leaves the others. -/
theorem updateStored_withEntry {counters : List Counter} {e : Entry Cell} {n : Int}
    (new : s.stored? e.id = none) (f : StoredEntry → StoredEntry) :
    (s.withEntry counters e n).updateStored e.id f =
      { s with
        counters
        entries := s.entries ++ [f { entry := e, sequence := n, written := s.writes }]
        issued := s.issued + 1
        writes := s.writes + 1 } :=
  updateStored_last (s := s) (e := { entry := e, sequence := n, written := s.writes }) rfl new

/-- An entry is created with the number that is allocated, and with the counters after that. -/
theorem createEntry_allocated {now : Instant} {h : EntryHeader} {lines : List PostingLine}
    {dayPrefix : String} {status : EntryStatus} {postedBy : Option String} {q : Write Int} {t : Store}
    (hq : s.allocate h.company dayPrefix = .ok q) (ht : Statement.applyAll q.statements s = .ok t)
    {p : Write (Entry Decimal)} {e : Entry Decimal}
    (hp : s.createEntry now h lines dayPrefix status postedBy = .ok p) (hs : p.Sent s e s') :
    ∃ cells, storeLines (numberLines 1 lines) = some cells ∧
      s.stored? (Uuid.issue s.issued) = none ∧
      s.numberTaken h.company (EntryNumber.format dayPrefix q.answer) = false ∧
      e = newEntry (Uuid.issue s.issued) now (EntryNumber.format dayPrefix q.answer) h status postedBy
        (numberLines 1 lines) ∧
      s' = s.withEntry t.counters (newEntry (Uuid.issue s.issued) now
        (EntryNumber.format dayPrefix q.answer) h status postedBy cells) q.answer := by
  rw [createEntry, hq] at hp
  cases hp
  obtain ⟨answer, statements⟩ := hs
  obtain ⟨t', ht', hs⟩ := Statement.applyAll_append_ok.mp statements
  cases ht'.symm.trans ht
  obtain ⟨-, ht⟩ := allocate_sent hq ht
  generalize t.counters = counters at ht ⊢
  subst ht
  obtain ⟨u, hu, hs⟩ := Statement.applyAll_cons_ok.mp hs
  obtain ⟨hfree, rfl⟩ := Statement.violated_ok.mp hu
  obtain ⟨cells, hc, rfl⟩ := Statement.insertLines_ok hs
  simp only [Bool.or_eq_false_iff, Option.isSome_eq_false_iff, Option.isNone_iff_eq_none] at hfree
  obtain ⟨hnumber, hid⟩ := hfree
  refine ⟨cells, hc, hid, hnumber, answer, ?_⟩
  -- the new header is the only entry that the lines go to
  exact updateStored_last (s := s) (f := StoredEntry.withLines cells) (e := {
    entry := newEntry (Uuid.issue s.issued) now (EntryNumber.format dayPrefix q.answer) h status
      postedBy []
    sequence := q.answer
    written := s.writes }) rfl hid

theorem createEntry_sent {now : Instant} {h : EntryHeader} {lines : List PostingLine}
    {dayPrefix : String} {status : EntryStatus} {postedBy : Option String}
    {p : Write (Entry Decimal)} {e : Entry Decimal}
    (hp : s.createEntry now h lines dayPrefix status postedBy = .ok p) (hs : p.Sent s e s') :
    ∃ n counters cells, Allocation s h.company dayPrefix n counters ∧
      storeLines (numberLines 1 lines) = some cells ∧
      s.stored? (Uuid.issue s.issued) = none ∧
      s.numberTaken h.company (EntryNumber.format dayPrefix n) = false ∧
      e = newEntry (Uuid.issue s.issued) now (EntryNumber.format dayPrefix n) h status postedBy
        (numberLines 1 lines) ∧
      s' = s.withEntry counters (newEntry (Uuid.issue s.issued) now
        (EntryNumber.format dayPrefix n) h status postedBy cells) n := by
  obtain ⟨q, hq, hp'⟩ := bind_eq_ok hp
  cases hp'
  obtain ⟨t, ht, -⟩ := Statement.applyAll_append_ok.mp hs.2
  obtain ⟨cells, created⟩ := createEntry_allocated hq ht hp hs
  exact ⟨q.answer, t.counters, cells, (allocate_sent hq ht).1, created⟩

/-- A draft whose lines are replaced. Lines of another entry with the identifier, if there were one,
    would go to it as well. -/
theorem replaceDraft_sent {clock : Clock} {id : Uuid} {u : EntryUpdate} {lines : List PostingLine}
    {user : String} {p : Write (Option (Entry Decimal))} {a : Option (Entry Decimal)}
    (hp : s.replaceDraft clock id u lines user = .ok p) (hs : p.Sent s a s') :
    (a = none ∧ s' = s) ∨
      ∃ old now cells, clock = .ok now ∧ s.stored? id = some old ∧ old.isIn .draft = true ∧
        storeLines (numberLines 1 lines) = some cells ∧
        a = some { old.shown.edited u user now with lines := numberLines 1 lines } ∧
        s' = { s.updateStored id
            (StoredEntry.rewritten u user now s.writes old.entry.lines.length cells) with
          writes := s.writes + 1 } := by
  obtain ⟨answer, statements⟩ := hs
  unfold replaceDraft at hp
  split at hp
  · cases hp
    cases statements
    exact .inl ⟨answer, rfl⟩
  · next old hold =>
      obtain ⟨hfound, hdraft⟩ := Option.filter_eq_some_iff.mp hold
      obtain ⟨now, hnow, hp⟩ := bind_eq_ok hp
      cases hp
      obtain ⟨t, ht, hs⟩ := Statement.applyAll_append_ok.mp statements
      obtain ⟨v, hv, ht⟩ := Statement.applyAll_cons_ok.mp ht
      cases hv
      obtain ⟨cells, hc, rfl⟩ := Statement.insertLines_ok ht
      cases Statement.deleteLines_ok hs
      refine .inr ⟨old, now, cells, hnow, hfound, hdraft, hc, answer, ?_⟩
      -- the edit, the new lines and the removal of the old ones change the same entry in turn
      unfold StoredEntry.rewritten
      rw [← updateStored_updateStored (f := fun e => (e.edited u user now s.writes).withLines cells)
        fun e => rfl, ← updateStored_updateStored (f := fun e => e.edited u user now s.writes)
        fun e => rfl]
      rfl

theorem transition_sent {now : Instant} {id : Uuid} {expected target : EntryStatus} {user : String}
    {a : Option (Entry Decimal)} (hs : (s.transition now id expected target user).Sent s a s') :
    a = ((s.stored? id).filter fun e => e.isIn expected).map
        (fun old => (old.moved target user now).shown) ∧
      s' = s.updateStored id fun e => if e.isIn expected then e.moved target user now else e := by
  obtain ⟨answer, statements⟩ := hs
  cases statements
  exact ⟨answer, rfl⟩

theorem deleteEntry_sent {id : Uuid} {a : Unit} (hs : (s.deleteEntry id).Sent s a s') :
    s' = { s with entries := s.entries.filter fun e => e.entry.id != id } := by
  obtain ⟨-, statements⟩ := hs
  unfold deleteEntry at statements
  split at statements
  · next h =>
      cases statements
      have : s.entries.filter (fun e => e.entry.id != id) = s.entries :=
        List.filter_eq_self.mpr fun e he => by simpa using stored?_eq_none.mp h e he
      rw [this]
  · obtain ⟨t, ht, hs⟩ := Statement.applyAll_append_ok.mp statements
    cases Statement.deleteLines_ok ht
    cases hs
    rw [← filter_updateStored (s := s) (StoredEntry.withoutLines_id _)]
    rfl

/-! ## Accounts -/

theorem account?_some {id : Uuid} {a : Account} (h : s.account? id = some a) :
    a ∈ s.accounts ∧ a.id = id :=
  ⟨List.mem_of_find?_eq_some h, by simpa using List.find?_some h⟩

/-- An account that may be inserted shares neither identifier nor code with one that is there. -/
theorem apart_of_free {a : Account} (h : (s.codeTaken a || (s.account? a.id).isSome) = false) :
    ∀ b ∈ s.accounts, b.Apart a := by
  simp only [Bool.or_eq_false_iff, Option.isSome_eq_false_iff, Option.isNone_iff_eq_none, account?,
    List.find?_eq_none, beq_iff_eq] at h
  obtain ⟨hcode, hid⟩ := h
  intro b hb
  refine ⟨hid b hb, fun hcompany hsame => ?_⟩
  have htaken : s.codeTaken a = true :=
    List.any_eq_true.mpr ⟨b, hb, by simp [hid b hb, hcompany, hsame]⟩
  rw [hcode] at htaken
  cases htaken

/-- Inserting accounts keeps all accounts apart. -/
theorem insertAccounts_apart {accounts : List Account}
    (h : Statement.applyAll (accounts.map .insertAccount) s = .ok s')
    (apart : s.accounts.Pairwise Account.Apart) : (s.accounts ++ accounts).Pairwise Account.Apart := by
  induction accounts generalizing s with
  | nil => simpa using apart
  | cons a rest ih =>
      obtain ⟨t, ht, h⟩ := Statement.applyAll_cons_ok.mp h
      obtain ⟨hfree, rfl⟩ := Statement.violated_ok.mp ht
      have happ : (s.accounts ++ [a]).Pairwise Account.Apart := by
        rw [List.pairwise_append]
        refine ⟨apart, List.pairwise_singleton _ a, fun b hb c hc => ?_⟩
        rw [List.mem_singleton.mp hc]
        exact apart_of_free hfree b hb
      simpa using ih h happ

theorem insertAccounts_ok {accounts : List Account}
    (h : Statement.applyAll (accounts.map .insertAccount) s = .ok s') :
    s' = { s with
      accounts := s.accounts ++ accounts
      issued := s.issued + accounts.length } := by
  induction accounts generalizing s with
  | nil =>
      cases h
      simp
  | cons a rest ih =>
      obtain ⟨t, ht, h⟩ := Statement.applyAll_cons_ok.mp h
      obtain ⟨-, rfl⟩ := Statement.violated_ok.mp ht
      rw [ih h]
      simp [Nat.add_comm, Nat.add_left_comm]

theorem addAccounts_sent {company : Uuid} {now : Instant} {drafts : List AccountDraft}
    {as : List Account} (hs : (s.addAccounts company now drafts).Sent s as s') :
    as = makeAccounts company now s.issued drafts ∧
      (s.accounts.Pairwise Account.Apart → (s.accounts ++ as).Pairwise Account.Apart) ∧
      s' = { s with accounts := s.accounts ++ as, issued := s.issued + as.length } := by
  obtain ⟨rfl, statements⟩ := hs
  exact ⟨rfl, insertAccounts_apart statements, insertAccounts_ok statements⟩

/-- Saving keeps company, creation time and system flag of the account. -/
theorem saveAccount_sent {a b : Account} {p : Write Account} (hp : s.saveAccount a = .ok p)
    (hs : p.Sent s b s') :
    ∃ old, s.account? a.id = some old ∧
      b = { a with company := old.company, isSystem := old.isSystem, createdAt := old.createdAt } ∧
      s.codeTaken b = false ∧
      s' = { s with accounts := s.accounts.map fun c => if c.id == b.id then b else c } := by
  unfold saveAccount at hp
  cases hold : s.account? a.id with
  | none => simp [hold] at hp
  | some old =>
      simp only [hold, Except.ok.injEq] at hp
      subst hp
      obtain ⟨rfl, statements⟩ := hs
      obtain ⟨t, ht, hs⟩ := Statement.applyAll_cons_ok.mp statements
      cases hs
      obtain ⟨hfree, rfl⟩ := Statement.violated_ok.mp ht
      exact ⟨old, rfl, rfl, hfree, rfl⟩

/-- An account that is removed had no lines. -/
theorem deleteAccount_sent {id : Uuid} {a : Unit} (hs : (s.deleteAccount id).Sent s a s') :
    ((s.account? id).isSome → s.hasLines id = false) ∧
      s' = { s with accounts := s.accounts.filter fun a => a.id != id } := by
  obtain ⟨-, statements⟩ := hs
  unfold deleteAccount at statements
  split at statements
  · next h =>
      cases statements
      have : s.accounts.filter (fun a => a.id != id) = s.accounts :=
        List.filter_eq_self.mpr fun a ha => by simpa using List.find?_eq_none.mp h a ha
      exact ⟨by simp [h], by rw [this]⟩
  · obtain ⟨t, ht, hs⟩ := Statement.applyAll_cons_ok.mp statements
    obtain ⟨hlines, rfl⟩ := Statement.violated_ok.mp ht
    cases hs
    exact ⟨fun _ => hlines, rfl⟩

end Store

end Bookkeeping
