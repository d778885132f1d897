import Bookkeeping.Proofs.FreshNumbers
import Bookkeeping.Proofs.PostingPaths
import Bookkeeping.Proofs.ReportsAnswer
import Bookkeeping.Proofs.RunningBalance
import Mathlib.Data.Prod.Lex
import Mathlib.Data.String.Basic

set_option autoImplicit false

/-! # The lines that a ledger lists

The ledger of an account lists the posted lines on it that are in the window and match the search, in
one strict order (`Reports.ledger_listing`). That no two lines tie comes from two invariants of runs: no
two entries of a company have the same number (`Store.NumbersApart`), whatever words the numbers start
with, and the lines of an entry are numbered one after the other.

The page is cut out after everything else was computed, so only the listed lines depend on it, and pages
of one size put one after the other are the whole list. A search may have no answer: its pattern can be
too long for the database (`Reports.ledger_listing_false_of_longSearch`). -/

namespace Bookkeeping

variable {clock : Clock} {word : String} {w : World} {s s' : Store} {ev : Event} {a : Account}

/-! ## Numbers of entries -/

namespace Store

/-- No two entries of a company have the same number. -/
def NumbersApart (s : Store) : Prop :=
  ∀ a ∈ s.entries, ∀ b ∈ s.entries, a.entry.company = b.entry.company →
    a.entry.number = b.entry.number → a = b

theorem NumbersApart.empty : ({} : Store).NumbersApart := by
  intro a ha
  cases ha

/-- What keeps identifier, company and number of all entries that it keeps. -/
theorem NumbersApart.kept (h : s.NumbersApart) (sound : s'.Sound)
    (stored : ∀ a' ∈ s'.entries, ∃ a ∈ s.entries, a'.entry.id = a.entry.id ∧
      a'.entry.company = a.entry.company ∧ a'.entry.number = a.entry.number) : s'.NumbersApart := by
  intro a' ha' b' hb' hcompany hnumber
  obtain ⟨a, ha, haid, hacompany, hanumber⟩ := stored a' ha'
  obtain ⟨b, hb, hbid, hbcompany, hbnumber⟩ := stored b' hb'
  rw [hacompany, hbcompany] at hcompany
  rw [hanumber, hbnumber] at hnumber
  obtain rfl := h a ha b hb hcompany hnumber
  exact sound.eq_of_id ha' hb' (haid.trans hbid.symm)

/-- A change of one entry that keeps its company and its number. -/
theorem NumbersApart.updated (h : s.NumbersApart) (sound : s.Sound) (sound' : s'.Sound) {id : Uuid}
    {old : StoredEntry} (found : s.stored? id = some old) {f : StoredEntry → StoredEntry}
    (hf : old.Continues (f old)) (entries : s'.entries = (s.updateStored id f).entries) :
    s'.NumbersApart := by
  refine h.kept sound' fun a ha => ?_
  rw [entries] at ha
  rcases (sound.mem_updateStored found).mp ha with rfl | ⟨ha, -⟩
  · exact ⟨old, (stored?_some found).1, hf.id, hf.company, hf.number⟩
  · exact ⟨a, ha, rfl, rfl, rfl⟩

/-- A new entry has a number that was free. -/
theorem NumbersApart.created (h : s.NumbersApart) {e : Entry Cell} {counters : List Counter} {n : Int}
    (free : s.numberTaken e.company e.number = false) :
    (s.withEntry counters e n).NumbersApart := by
  have fresh : ∀ a ∈ s.entries, a.entry.company = e.company → a.entry.number ≠ e.number := by
    intro a ha hcompany hnumber
    rw [numberTaken, List.any_eq_false] at free
    exact free a ha (by simp [hcompany, hnumber])
  intro a ha b hb hcompany hnumber
  rcases List.mem_append.mp ha with ha | ha <;> rcases List.mem_append.mp hb with hb | hb
  · exact h a ha b hb hcompany hnumber
  · rw [List.mem_singleton.mp hb] at hcompany hnumber
    exact absurd hnumber (fresh a ha hcompany)
  · rw [List.mem_singleton.mp ha] at hcompany hnumber
    exact absurd hnumber.symm (fresh b hb hcompany.symm)
  · exact (List.mem_singleton.mp ha).trans (List.mem_singleton.mp hb).symm

theorem NumbersApart.step (h : s.NumbersApart) (sound : s.Sound) (hs : s.Step clock word ev s') :
    s'.NumbersApart := by
  have sound' := sound.step hs
  cases hs with
  | nothing | accountsOpened | accountKept | accountSaved | accountDeleted =>
      exact h.kept sound' fun a ha => ⟨a, ha, rfl, rfl, rfl⟩
  | entryCreated accepted clock_eq allocation number_eq status_eq postedBy_eq stored new free =>
      exact h.created free
  | draftEdited found draft accepted clock_eq stored =>
      exact h.updated sound sound' found (.rewritten draft _ _ _ _ _ _) rfl
  | entryPosted found draft accepted clock_eq =>
      refine h.updated sound sound' found ?_ rfl
      exact .moved draft _ _ _
  | entryVoided found draft clock_eq =>
      refine h.updated sound sound' found ?_ rfl
      exact .moved draft _ _ _
  | entryDeleted found unposted =>
      exact h.kept sound' fun a ha => ⟨a, List.mem_of_mem_filter ha, rfl, rfl, rfl⟩

/-- After a run no two entries of a company have the same number, whatever words its numbers start with. -/
theorem after_numbersApart (sessions : List Session) : (after sessions).NumbersApart := by
  have hrun := run_invariant (P := fun _ s => s.Sound ∧ s.NumbersApart) (W := fun _ => True)
    ⟨.empty, .empty⟩ (fun _ h hs => ⟨h.1.step hs, h.2.step h.1 hs⟩) sessions fun _ _ => trivial
  exact hrun.2

end Store

/-! ## The order of lines -/

/-- What lines are sorted by: day, sequence, number of the entry and number of the line. -/
def PostedLine.key (l : PostedLine) : Nat ×ₗ Int ×ₗ String ×ₗ Nat :=
  toLex (l.date.ordinal, toLex (l.sequence, toLex (l.entryNumber, l.lineNumber)))

theorem Date.eq_iff_ordinal {d d' : Date} : d = d' ↔ d.ordinal = d'.ordinal := by
  refine ⟨congrArg Date.ordinal, fun h => ?_⟩
  cases d
  cases d'
  congr

theorem Store.chronological_iff {l l' : PostedLine} : chronological l l' = true ↔ l.key ≤ l'.key := by
  rw [PostedLine.key, PostedLine.key, Prod.Lex.toLex_le_toLex, Prod.Lex.toLex_le_toLex,
    Prod.Lex.toLex_le_toLex, ← Date.eq_iff_ordinal, chronological]
  by_cases hdate : l.date = l'.date
  · rw [if_neg (not_not.mpr hdate)]
    by_cases hsequence : l.sequence = l'.sequence
    · rw [if_neg (not_not.mpr hsequence)]
      by_cases hnumber : l.entryNumber = l'.entryNumber
      · simp [hdate, hsequence, hnumber]
      · simp [hdate, hsequence, hnumber]
    · simp [hdate, hsequence]
  · rw [if_pos hdate, decide_eq_true_iff]
    simp only [hdate, false_and, or_false]
    rfl

namespace Store

theorem chronological_trans (l₁ l₂ l₃ : PostedLine) (h : chronological l₁ l₂) (h' : chronological l₂ l₃) :
    chronological l₁ l₃ :=
  chronological_iff.mpr ((chronological_iff.mp h).trans (chronological_iff.mp h'))

theorem chronological_total (l l' : PostedLine) : chronological l l' || chronological l' l := by
  rw [Bool.or_eq_true, chronological_iff, chronological_iff]
  exact le_total _ _

/-- Lines that differ in what they are sorted by are sorted strictly. -/
theorem pairwise_lt_of_distinct {ls : List PostedLine} (distinct : ls.Pairwise fun l l' => l.key ≠ l'.key) :
    (ls.mergeSort chronological).Pairwise fun l l' => l.key < l'.key := by
  have sorted := List.pairwise_mergeSort chronological_trans chronological_total ls
  have distinct := (List.mergeSort_perm ls chronological).symm.pairwise distinct fun h => h.symm
  refine (sorted.and distinct).imp ?_
  rintro l l' ⟨hle, hne⟩
  exact lt_of_le_of_ne (chronological_iff.mp hle) hne

/-! ## Lines on an account -/

/-- The posted lines on an account in a range of days. -/
def linesFor (s : Store) (account : Uuid) (range : DateRange) : List PostedLine :=
  (s.entries.filter fun e => e.isPosted && range.holds e.entry.date).flatMap fun e =>
    (e.linesOn account).map (postedLine e)

/-- No two lines of an account have the same place in the order. -/
theorem NumbersApart.linesFor_distinct (h : s.NumbersApart) (sound : s.Sound) (chartered : s.Chartered)
    (ha : a ∈ s.accounts) (range : DateRange) :
    (s.linesFor a.id range).Pairwise fun l l' => l.key ≠ l'.key := by
  rw [linesFor, List.pairwise_flatMap]
  constructor
  · -- lines of one entry differ in their own number
    intro e he
    have he := List.mem_of_mem_filter he
    have numbers : (e.entry.lines.map Line.number).Nodup := by
      rw [chartered.numbered e he]
      exact List.nodup_range'
    rw [List.nodup_iff_pairwise_ne, List.pairwise_map] at numbers
    rw [List.pairwise_map]
    refine (numbers.filter _).imp fun hne hkey => hne ?_
    simpa [PostedLine.key, postedLine] using hkey
  · -- lines of two entries differ in the number of the entry, as both are of the account's company
    have ids := sound.distinct
    rw [List.nodup_iff_pairwise_ne, List.pairwise_map] at ids
    refine (ids.filter _).imp_of_mem ?_
    intro e e' he he' hne l hl l' hl' hkey
    obtain ⟨x, hx, rfl⟩ := List.mem_map.mp hl
    obtain ⟨x', hx', rfl⟩ := List.mem_map.mp hl'
    have company {e : StoredEntry} {x : Line Cell} (he : e ∈ s.entries) (hx : x ∈ e.linesOn a.id) :
        e.entry.company = a.company := by
      by_contra hother
      rw [chartered.linesOn_nil ha he hother] at hx
      cases hx
    have he := List.mem_of_mem_filter he
    have he' := List.mem_of_mem_filter he'
    have hnumber : e.entry.number = e'.entry.number := by
      simp only [PostedLine.key, postedLine, EmbeddingLike.apply_eq_iff_eq, Prod.mk.injEq] at hkey
      exact hkey.2.2.1
    exact hne (congrArg (fun e => e.entry.id)
      (h e he e' he' ((company he hx).trans (company he' hx').symm) hnumber))

/-! ## Searching -/

end Store

/-- Does a line match the search of the filters, if they have one? -/
def LedgerFilters.finds (f : LedgerFilters) (l : PostedLine) : Bool :=
  (Reports.searchTerm f.search).all fun term => Store.matchesSearch (Text.containsPattern term) l

/-- The pattern of the search is not too long. -/
def LedgerFilters.Searchable (f : LedgerFilters) : Prop :=
  ∀ term, Reports.searchTerm f.search = some term → Text.isPatternTooLong (Text.containsPattern term) = false

namespace Store

/-- The lines that a ledger with these filters is to list, as they are stored. -/
def listed (s : Store) (account : Uuid) (f : LedgerFilters) : List PostedLine :=
  (s.linesFor account f.range).filter f.finds

/-- The posted lines on an account in a range of days that match a search, if there is one. -/
def foundLines (s : Store) (account : Uuid) (range : DateRange) :
    Option String → Except Failure (List PostedLine)
  | none => .ok (s.linesFor account range)
  | some term => keepMatches (Text.containsPattern term) (matchesSearch (Text.containsPattern term))
      (s.linesFor account range)

theorem postedLines_eq (s : Store) (id : Uuid) (range : DateRange) (search : Option String) :
    s.postedLines id range search = (s.foundLines id range search).map fun ls =>
      ls.mergeSort chronological := by
  cases search with
  | none => rfl
  | some term =>
      unfold postedLines foundLines linesFor
      dsimp only
      cases keepMatches (Text.containsPattern term) (matchesSearch (Text.containsPattern term)) _ <;> rfl

/-- Lines that are read are the listed ones in their order. -/
theorem postedLines_ok {id : Uuid} {f : LedgerFilters} {rows : List PostedLine}
    (h : s.postedLines id f.range (Reports.searchTerm f.search) = .ok rows) :
    rows = (s.listed id f).mergeSort chronological := by
  rw [postedLines_eq] at h
  unfold listed LedgerFilters.finds
  cases hterm : Reports.searchTerm f.search with
  | none =>
      rw [hterm] at h
      simp only [Option.all_none, List.filter_true]
      exact (Except.ok.inj h).symm
  | some term =>
      rw [hterm] at h
      dsimp only [foundLines, keepMatches] at h
      split at h
      · cases h
      · simp only [Option.all_some]
        exact (Except.ok.inj h).symm

/-- They can be read if the pattern of the search is not too long. -/
theorem postedLines_of_searchable {f : LedgerFilters} (searchable : f.Searchable) (id : Uuid) :
    s.postedLines id f.range (Reports.searchTerm f.search) =
      .ok ((s.listed id f).mergeSort chronological) := by
  cases hrows : s.postedLines id f.range (Reports.searchTerm f.search) with
  | ok rows => rw [postedLines_ok hrows]
  | error e =>
      rw [postedLines_eq] at hrows
      cases hterm : Reports.searchTerm f.search with
      | none =>
          rw [hterm] at hrows
          cases hrows
      | some term =>
          rw [hterm] at hrows
          dsimp only [foundLines, keepMatches] at hrows
          rw [searchable term hterm] at hrows
          cases hrows

end Store

/-! ## Pages -/

/-- Pages of one size, one after the other. -/
theorem flatMap_range_page {α : Type} (n m : Nat) (xs : List α) :
    ((List.range m).flatMap fun k => (xs.drop (k * n)).take n) = xs.take (m * n) := by
  induction m with
  | zero => simp
  | succ m ih =>
      rw [List.range_succ, List.flatMap_append, ih, List.flatMap_singleton, Nat.succ_mul, List.take_add]

namespace Reports

/-- The filters without a page. -/
def unpaged (f : LedgerFilters) : LedgerFilters := { f with limit := none, offset := 0 }

theorem ledgerFor_run (idle : w.pending = none) (found : w.store.account? a.id = some a)
    (f : LedgerFilters) :
    (ledgerFor a.id f).run clock w = ((wholeLedger w.store a f).map fun l => l.paged f, w) :=
  Procedure.run_of_exec (ledgerFor_exec idle found f) idle

/-- A whole ledger was replayed over the listed lines. -/
theorem wholeLedger_ok {f : LedgerFilters} {ledger : AccountLedger}
    (h : wholeLedger s a f = .ok ledger) :
    ledger.entries.map LedgerLine.line = (s.listed a.id f).mergeSort Store.chronological ∧
      ledger.totalCount = ledger.entries.length := by
  obtain ⟨opening, -, h⟩ := bind_eq_ok h
  obtain ⟨rows, hrows, h⟩ := bind_eq_ok h
  obtain ⟨lines, hlines, h⟩ := bind_eq_ok (Posting.liftAmount_ok h)
  obtain ⟨x, -, h⟩ := bind_eq_ok h
  obtain ⟨y, -, h⟩ := bind_eq_ok h
  obtain ⟨m, -, h⟩ := bind_eq_ok h
  obtain ⟨closing, -, h⟩ := bind_eq_ok h
  cases h
  exact ⟨(map_line_runningBalances hlines).trans (Store.postedLines_ok hrows), rfl⟩

/-- The ledger of a bounded account answers for every window and every search that is not too long. -/
theorem ledgerFor_answers_searching (h : ∀ days, Line.Bounded (s.linesOn a.id days)) (clock : Clock)
    (hw : w.store = s) (idle : w.pending = none) (found : s.account? a.id = some a) {f : LedgerFilters}
    (searchable : f.Searchable) : ∃ ledger, (ledgerFor a.id f).run clock w = (.ok ledger, w) := by
  subst hw
  obtain ⟨opening, d, c, opens, hbalance, hd, hc⟩ := opensWith_bounded h f.start
  obtain ⟨all, hall⟩ : ∃ all, w.store.postedLines a.id f.range none = .ok all := ⟨_, rfl⟩
  have sub : ((w.store.listed a.id f).mergeSort Store.chronological).Subperm all := by
    cases hall
    exact (List.mergeSort_perm _ _).subperm.trans
      (List.filter_sublist.subperm.trans (List.mergeSort_perm _ _).symm.subperm)
  -- what is found is part of what is there without a search
  have small {field : PostedLine → Decimal} (amounts : (∀ l ∈ all, (field l).HoldsTotal (field l).value) ∧
      (all.map fun l => (field l).value).sum ≤ 2 ^ 65) :
      (∀ l ∈ (w.store.listed a.id f).mergeSort Store.chronological,
        (field l).HoldsTotal (field l).value) ∧
      (((w.store.listed a.id f).mergeSort Store.chronological).map fun l => (field l).value).sum ≤
        2 ^ 65 := by
    refine ⟨fun l hl => amounts.1 l (sub.subset hl), le_trans ?_ amounts.2⟩
    exact sum_map_le_of_subperm (fun l hl => (amounts.1 l hl).total.nonneg) sub
  obtain ⟨debit, debits⟩ :=
    small (Store.postedAmounts_bounded PostedLine.debit (h _) (.inl rfl) (fun _ _ => rfl) hall)
  obtain ⟨credit, credits⟩ :=
    small (Store.postedAmounts_bounded PostedLine.credit (h _) (.inr rfl) (fun _ _ => rfl) hall)
  exact ledgerFor_replays idle found opens hbalance hd hc
    (Store.postedLines_of_searchable searchable a.id) debit debits credit credits clock

/-! ## The listing -/

/-- After a run, for an account and filters: every page is cut out of one whole ledger, whose other parts
    it shares, and fails where that fails. The whole ledger lists the posted lines on the account in the
    window that match the search, each once, strictly by day, sequence, number of the entry and number of
    the line, and pages of one size put together are all of it. It answers if the amounts of the company
    are bounded and the pattern of the search is not too long. -/
theorem ledger_listing (sessions : List Session) (ha : a ∈ (Store.after sessions).accounts)
    (f : LedgerFilters) (clock : Clock) (hw : w.store = Store.after sessions) (idle : w.pending = none) :
    ∃ outcome, (ledgerFor a.id (unpaged f)).run clock w = (outcome, w) ∧
      (∀ offset limit : Nat,
        (ledgerFor a.id { f with offset := offset, limit := some (limit : Int) }).run clock w =
          (outcome.map fun l => { l with entries := (l.entries.drop offset).take limit }, w)) ∧
      (∀ offset : Nat, (ledgerFor a.id { f with offset := offset, limit := none }).run clock w =
        (outcome.map fun l => { l with entries := l.entries.drop offset }, w)) ∧
      (∀ ledger, outcome = .ok ledger →
        (ledger.entries.map LedgerLine.line).Perm ((Store.after sessions).listed a.id f) ∧
        (ledger.entries.Pairwise fun x y => x.line.key < y.line.key) ∧
        ledger.totalCount = ledger.entries.length ∧
        ∀ size count, ledger.entries.length ≤ count * size → ∃ pages : Nat → AccountLedger,
          (∀ k, (ledgerFor a.id { f with offset := (k * size : Nat), limit := some (size : Int) }).run
            clock w = (.ok (pages k), w)) ∧
          ((List.range count).flatMap fun k => (pages k).entries) = ledger.entries) ∧
      ((Store.after sessions).Bounded a.company → f.Searchable → ∃ ledger, outcome = .ok ledger) := by
  have sound := Store.after_sound sessions
  have chartered := Store.after_chartered sessions
  have found : w.store.account? a.id = some a := by
    rw [hw]
    exact chartered.account?_eq ha
  have page (offset limit : Nat) :
      (ledgerFor a.id { f with offset := offset, limit := some (limit : Int) }).run clock w =
        ((wholeLedger w.store a f).map fun l =>
          { l with entries := (l.entries.drop offset).take limit }, w) := by
    rw [ledgerFor_run idle found]
    rfl
  have tail (offset : Nat) : (ledgerFor a.id { f with offset := offset, limit := none }).run clock w =
      ((wholeLedger w.store a f).map fun l => { l with entries := l.entries.drop offset }, w) := by
    rw [ledgerFor_run idle found]
    rfl
  have whole : (ledgerFor a.id (unpaged f)).run clock w = (wholeLedger w.store a f, w) := by
    rw [unpaged, show (0 : Int) = (0 : Nat) from rfl, tail]
    cases wholeLedger w.store a f <;> rfl
  refine ⟨wholeLedger w.store a f, whole, page, tail, ?_, ?_⟩
  · intro ledger hledger
    obtain ⟨lines, count⟩ := wholeLedger_ok hledger
    rw [hw] at lines
    refine ⟨?_, ?_, count, ?_⟩
    · rw [lines]
      exact List.mergeSort_perm _ _
    · have distinct := (Store.after_numbersApart sessions).linesFor_distinct sound chartered ha f.range
      have strict := Store.pairwise_lt_of_distinct (distinct.filter f.finds)
      rw [← Store.listed, ← lines, List.pairwise_map] at strict
      exact strict
    · intro size count enough
      refine ⟨fun k => { ledger with entries := (ledger.entries.drop (k * size)).take size }, ?_, ?_⟩
      · intro k
        rw [page, hledger]
        rfl
      · rw [flatMap_range_page, List.take_of_length_le enough]
  · intro bounded searchable
    have answers := ledgerFor_answers_searching (f := unpaged f)
      (chartered.linesOn_bounded ha (bounded.on a.id)) clock hw idle (hw ▸ found) searchable
    obtain ⟨ledger, hledger⟩ := answers
    rw [whole] at hledger
    exact ⟨ledger, congrArg Prod.fst hledger⟩

/-- The first account of a company that moved amounts on two days. -/
theorem exists_account_movesOnTwoDays :
    ∃ a ∈ (Store.after movesOnTwoDays).accounts, a.id = Uuid.issue 0 ∧ a.company = ⟨1⟩ := by
  decide +kernel

/-- Its ledger lists a line for each of the days, the earlier one first, and one line on each page. -/
theorem ledger_listing_movesOnTwoDays :
    ∃ a ∈ (Store.after movesOnTwoDays).accounts, a.id = Uuid.issue 0 ∧
      ∃ (ledger : AccountLedger) (pages : Nat → AccountLedger),
      (ledgerFor a.id {}).run (.ok default) { store := Store.after movesOnTwoDays } =
        (.ok ledger, { store := Store.after movesOnTwoDays }) ∧
      ledger.entries.length = 2 ∧ (ledger.entries.Pairwise fun x y => x.line.key < y.line.key) ∧
      (∀ k, (ledgerFor a.id { offset := (k * 1 : Nat), limit := some 1 }).run (.ok default)
          { store := Store.after movesOnTwoDays } =
        (.ok (pages k), { store := Store.after movesOnTwoDays })) ∧
      ((List.range 2).flatMap fun k => (pages k).entries) = ledger.entries := by
  obtain ⟨a, ha, hid, hcompany⟩ := exists_account_movesOnTwoDays
  obtain ⟨outcome, hrun, -, -, lists, answers⟩ := ledger_listing
    (w := { store := Store.after movesOnTwoDays }) movesOnTwoDays ha {} (.ok default) rfl rfl
  obtain ⟨ledger, rfl⟩ := answers (hcompany ▸ bounded_movesOnTwoDays) fun term h => by cases h
  obtain ⟨lines, strict, -, cut⟩ := lists ledger rfl
  have length : ledger.entries.length = 2 := by
    rw [← List.length_map LedgerLine.line, lines.length_eq, hid]
    decide +kernel
  obtain ⟨pages, hpages, all⟩ := cut 1 2 length.le
  exact ⟨a, ha, hid, ledger, pages, hrun, length, strict, hpages, all⟩

/-! ### Searches that are too long -/

theorem dropWhile_of_forall {α : Type} {p : α → Bool} {xs : List α} (h : ∀ x ∈ xs, p x = false) :
    xs.dropWhile p = xs := by
  cases xs with
  | nil => rfl
  | cons x rest => rw [List.dropWhile_cons_of_neg (by simp [h x])]

theorem trimClass_of_forall {p : Char → Bool} {cs : List Char} (h : ∀ c ∈ cs, p c = false) :
    Text.trimClass p cs = cs := by
  rw [Text.trimClass, dropWhile_of_forall h, dropWhile_of_forall, List.reverse_reverse]
  intro c hc
  exact h c (List.mem_reverse.mp hc)

theorem escapeChar_of_notMem {c : Char} {cs : List Char} (h : c ∉ cs) : Text.escapeChar c cs = cs := by
  induction cs with
  | nil => rfl
  | cons d rest ih =>
      rw [List.mem_cons, not_or] at h
      have hrest : rest.flatMap (fun e => if e = c then ['\\', e] else [e]) = rest := ih h.2
      rw [Text.escapeChar, List.flatMap_cons, if_neg (Ne.symm h.1), hrest]
      rfl

theorem searchTerm_replicate {n : Nat} (hn : 0 < n) :
    searchTerm (some (String.ofList (List.replicate n 'J'))) =
      some (String.ofList (List.replicate n 'J')) := by
  have trimmed : Text.trim (String.ofList (List.replicate n 'J')) =
      String.ofList (List.replicate n 'J') := by
    rw [Text.trim, Text.trimChars, String.toList_ofList, trimClass_of_forall]
    intro c hc
    rw [List.eq_of_mem_replicate hc]
    decide
  have nonempty : (String.ofList (List.replicate n 'J')).isEmpty = false := by
    rw [String.isEmpty, utf8ByteSize_replicate, beq_eq_false_iff_ne]
    omega
  rw [searchTerm, trimmed, nonempty]
  rfl

theorem utf8ByteSize_containsPattern_replicate (n : Nat) :
    (Text.containsPattern (String.ofList (List.replicate n 'J'))).utf8ByteSize = n + 2 := by
  have plain (c : Char) (hc : c ≠ 'J') : c ∉ List.replicate n 'J' := by
    intro h
    exact hc (List.eq_of_mem_replicate h)
  rw [Text.containsPattern, String.toList_ofList, Text.escapeTerm,
    escapeChar_of_notMem (plain '\\' (by decide)), escapeChar_of_notMem (plain '%' (by decide)),
    escapeChar_of_notMem (plain '_' (by decide)), ← List.singleton_append, String.ofList_append,
    String.ofList_append, String.utf8ByteSize_append, String.utf8ByteSize_append,
    utf8ByteSize_replicate]
  show 1 + (n + 1) = n + 2
  omega

theorem searchTerm_longWord : searchTerm (some longWord) = some longWord :=
  searchTerm_replicate (Nat.zero_lt_succ 65535)

theorem isPatternTooLong_containsPattern_longWord :
    Text.isPatternTooLong (Text.containsPattern longWord) = true := by
  have hsize : (Text.containsPattern longWord).utf8ByteSize = 65536 + 2 :=
    utf8ByteSize_containsPattern_replicate 65536
  rw [Text.isPatternTooLong, hsize]
  rfl

/-- Lines that cannot be read fail a ledger that opens with zero. -/
theorem ledgerFor_fails (idle : w.pending = none) (found : w.store.account? a.id = some a)
    {f : LedgerFilters} (hstart : f.start = none) {e : Failure}
    (h : w.store.postedLines a.id f.range (searchTerm f.search) = .error e) :
    (ledgerFor a.id f).run clock w = (.error e, w) := by
  rw [ledgerFor_run idle found, wholeLedger, hstart, h]
  rfl

/-- A search for a long word in that account has no answer. -/
theorem ledger_listing_false_of_longSearch :
    ∃ a ∈ (Store.after movesOnTwoDays).accounts, a.id = Uuid.issue 0 ∧
      (ledgerFor a.id { search := some longWord }).run (.ok default)
          { store := Store.after movesOnTwoDays } =
        (.error Store.longPattern, { store := Store.after movesOnTwoDays }) := by
  obtain ⟨a, ha, hid, -⟩ := exists_account_movesOnTwoDays
  refine ⟨a, ha, hid, ?_⟩
  have some_lines : ((Store.after movesOnTwoDays).linesFor a.id ⟨none, none⟩).isEmpty = false := by
    rw [hid]
    decide +kernel
  have fails : (Store.after movesOnTwoDays).postedLines a.id ⟨none, none⟩ (searchTerm (some longWord)) =
      .error Store.longPattern := by
    rw [Store.postedLines_eq, searchTerm_longWord, Store.foundLines, Store.keepMatches,
      isPatternTooLong_containsPattern_longWord, some_lines]
    rfl
  exact ledgerFor_fails (w := { store := Store.after movesOnTwoDays })
    (f := { search := some longWord }) rfl ((Store.after_chartered movesOnTwoDays).account?_eq ha) rfl fails

end Reports

end Bookkeeping
