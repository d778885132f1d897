import Bookkeeping.Proofs.LedgerListing
import Mathlib.Data.List.Infix

set_option autoImplicit false

/-! # Searching

What a pattern denotes is told by the texts that it matches (`Text.Denotes`). The pattern of a search
denotes the texts in which the term occurs, whatever wildcards and backslashes the term has
(`Text.denotes_containsPattern`). A database that reads patterns so finds, in the window of a ledger,
the lines that have the term without its surrounding blanks in their number, memo or description
(`Reports.search_literal`). The database of the store does, for terms and texts without the three
characters that it treats apart (`Store.ReadsPatterns.of_plain`). -/

namespace Bookkeeping

namespace Text

variable {c d : Char} {cs ds text front back : List Char} {items : List PatternItem} {s t term : String}

/-! ## What a pattern denotes -/

/-- The texts that a pattern denotes. -/
inductive Denotes : List PatternItem → List Char → Prop where
  | nil : Denotes [] []
  | literal {c t : Char} {items : List PatternItem} {text : List Char} (same : sameAsciiLetter c t)
      (rest : Denotes items text) : Denotes (.literal c :: items) (t :: text)
  | anyOne (t : Char) {items : List PatternItem} {text : List Char} (rest : Denotes items text) :
      Denotes (.anyOne :: items) (t :: text)
  | anyRun (run : List Char) {items : List PatternItem} {text : List Char}
      (rest : Denotes items text) : Denotes (.anyRun :: items) (run ++ text)

/-- Matching decides what a pattern denotes. -/
theorem matchesItems_iff : matchesItems items text = true ↔ Denotes items text := by
  constructor
  · intro h
    induction items generalizing text with
    | nil =>
        cases text with
        | nil => exact .nil
        | cons t text => simp [matchesItems] at h
    | cons item items ih =>
        cases item with
        | literal c =>
            cases text with
            | nil => simp [matchesItems] at h
            | cons t text =>
                rw [matchesItems, Bool.and_eq_true] at h
                exact .literal h.1 (ih h.2)
        | anyOne =>
            cases text with
            | nil => simp [matchesItems] at h
            | cons t text => exact .anyOne t (ih h)
        | anyRun =>
            obtain ⟨run, rest, rfl, hrest⟩ := anySuffix_iff.mp h
            exact .anyRun run (ih hrest)
  · intro h
    induction h with
    | nil => rfl
    | literal same rest ih => rw [matchesItems, Bool.and_eq_true]; exact ⟨same, ih⟩
    | anyOne t rest ih => exact ih
    | anyRun run rest ih => exact anySuffix_iff.mpr ⟨run, _, rfl, ih⟩

/-- A text is what a pattern denotes that is read with the backslash as escape character. -/
def Like (pattern text : String) : Prop :=
  Denotes (patternItems (some '\\') pattern.toList) text.toList

/-! ## The pattern of a search -/

/-- The term occurs in the text as one piece, up to the case of ASCII letters. -/
def Occurs (term text : String) : Prop :=
  term.toList.map asciiLower <:+: text.toList.map asciiLower

instance (term text : String) : Decidable (Occurs term text) :=
  inferInstanceAs (Decidable (_ <:+: _))

/-- One character of a term, escaped. -/
def escaped (c : Char) : List Char :=
  if c = '\\' ∨ c = '%' ∨ c = '_' then ['\\', c] else [c]

theorem escapeChar_append (c : Char) (cs ds : List Char) :
    escapeChar c (cs ++ ds) = escapeChar c cs ++ escapeChar c ds := List.flatMap_append

theorem escapeTerm_singleton (c : Char) : escapeTerm [c] = escaped c := by
  by_cases hbackslash : c = '\\'
  · subst hbackslash
    rfl
  · by_cases hpercent : c = '%'
    · subst hpercent
      rfl
    · by_cases hunderscore : c = '_'
      · subst hunderscore
        rfl
      · have plain : escaped c = [c] := if_neg (by simp [hbackslash, hpercent, hunderscore])
        simp [escapeTerm, escapeChar, plain, hbackslash, hpercent, hunderscore]

/-- The three replacements, one after the other, escape each character once. -/
theorem escapeTerm_eq (cs : List Char) : escapeTerm cs = cs.flatMap escaped := by
  induction cs with
  | nil => rfl
  | cons c cs ih =>
      rw [List.flatMap_cons, ← ih, ← escapeTerm_singleton, ← List.singleton_append]
      simp only [escapeTerm, escapeChar_append]

/-- An escaped character stands for itself, whatever comes after it. -/
theorem patternItems_escaped (c : Char) (ds : List Char) :
    patternItems (some '\\') (escaped c ++ ds) = .literal c :: patternItems (some '\\') ds := by
  unfold escaped
  split
  · rfl
  · next h =>
      rw [not_or, not_or] at h
      obtain ⟨hbackslash, hpercent, hunderscore⟩ := h
      have escape : ¬ some '\\' = some c := fun h => hbackslash (Option.some.inj h).symm
      have plain : PatternItem.ofChar c = .literal c := by
        rw [PatternItem.ofChar, if_neg hpercent, if_neg hunderscore]
      cases ds with
      | nil =>
          rw [List.append_nil, patternItems.eq_2, if_neg escape, plain]
          rfl
      | cons d ds => rw [List.singleton_append, patternItems, if_neg escape, plain]

theorem patternItems_escapeTerm (cs ds : List Char) :
    patternItems (some '\\') (escapeTerm cs ++ ds) =
      cs.map .literal ++ patternItems (some '\\') ds := by
  rw [escapeTerm_eq]
  induction cs with
  | nil => rfl
  | cons c cs ih =>
      rw [List.flatMap_cons, List.append_assoc, patternItems_escaped, ih]
      rfl

/-- The pattern of a search is the term between two runs of any characters. -/
theorem patternItems_containsPattern (term : String) :
    patternItems (some '\\') (containsPattern term).toList =
      .anyRun :: (term.toList.map .literal ++ [.anyRun]) := by
  have hrest : patternItems (some '\\') (escapeTerm term.toList ++ ['%']) =
      term.toList.map .literal ++ [.anyRun] := patternItems_escapeTerm term.toList ['%']
  rw [containsPattern, String.toList_ofList, ← hrest]
  -- the first character is read without looking at what comes after it
  obtain ⟨d, ds, hcons⟩ : ∃ d ds, escapeTerm term.toList ++ ['%'] = d :: ds :=
    List.exists_cons_of_ne_nil (by simp)
  rw [hcons, patternItems, if_neg (by decide)]
  rfl

theorem denotes_literals : Denotes (cs.map .literal ++ items) text ↔
    ∃ found rest, text = found ++ rest ∧ found.map asciiLower = cs.map asciiLower ∧
      Denotes items rest := by
  induction cs generalizing text with
  | nil =>
      constructor
      · exact fun h => ⟨[], text, rfl, rfl, h⟩
      · rintro ⟨found, rest, rfl, hfound, h⟩
        rw [List.map_nil, List.map_eq_nil_iff] at hfound
        subst hfound
        exact h
  | cons c cs ih =>
      constructor
      · intro h
        cases h with
        | literal same hrest =>
            obtain ⟨found, back, rfl, hfound, h⟩ := ih.mp hrest
            refine ⟨_ :: found, back, rfl, ?_, h⟩
            rw [List.map_cons, List.map_cons, hfound, ← beq_iff_eq.mp same]
      · rintro ⟨found, rest, rfl, hfound, h⟩
        obtain ⟨t, found, rfl, hsame, hfound⟩ := List.map_eq_cons_iff.mp hfound
        exact .literal (beq_iff_eq.mpr hsame.symm) (ih.mpr ⟨found, rest, rfl, hfound, h⟩)

/-- The pattern of a search denotes the texts in which the term occurs. -/
theorem like_containsPattern (term text : String) :
    Like (containsPattern term) text ↔ Occurs term text := by
  rw [Like, patternItems_containsPattern, Occurs]
  generalize text.toList = text
  constructor
  · intro h
    cases h with
    | anyRun run rest =>
        obtain ⟨found, back, rfl, hfound, -⟩ := denotes_literals.mp rest
        refine ⟨run.map asciiLower, back.map asciiLower, ?_⟩
        rw [← hfound, List.map_append, List.map_append, List.append_assoc]
  · rintro ⟨front, back, h⟩
    obtain ⟨text', back', rfl, hfront, -⟩ := List.map_eq_append_iff.mp h.symm
    obtain ⟨run, found, rfl, -, hfound⟩ := List.map_eq_append_iff.mp hfront
    rw [List.append_assoc]
    refine .anyRun run (denotes_literals.mpr ⟨found, back', rfl, hfound, ?_⟩)
    rw [← List.append_nil back']
    exact .anyRun back' .nil

/-! ## Blanks around a term -/

/-- The term is what is left of a text without the blanks at both ends. -/
structure Stripped (text term : String) : Prop where
  split : ∃ front back : List Char, text.toList = front ++ term.toList ++ back ∧
    (∀ c ∈ front, isBlank c) ∧ ∀ c ∈ back, isBlank c
  first : ∀ c ∈ term.toList.head?, isBlank c = false
  last : ∀ c ∈ term.toList.getLast?, isBlank c = false

theorem dropWhile_append_of_head {p : Char → Bool} (h : ∀ c ∈ cs, p c)
    (hfirst : ∀ c ∈ ds.head?, p c = false) : (cs ++ ds).dropWhile p = ds := by
  rw [List.dropWhile_append_of_pos h]
  cases ds with
  | nil => rfl
  | cons d ds => rw [List.dropWhile_cons_of_neg (by simp [hfirst d rfl])]

theorem head?_dropWhile {p : Char → Bool} : ∀ c ∈ (cs.dropWhile p).head?, p c = false := by
  have h := List.head?_dropWhile_not p cs
  intro c hc
  rw [Option.mem_def.mp hc] at h
  simpa using h

theorem trimClass_append {p : Char → Bool} (hfront : ∀ c ∈ front, p c) (hback : ∀ c ∈ back, p c)
    (first : ∀ c ∈ cs.head?, p c = false) (last : ∀ c ∈ cs.getLast?, p c = false) :
    trimClass p (front ++ cs ++ back) = cs := by
  rw [trimClass]
  cases cs with
  | nil =>
      have hall : ∀ c ∈ front ++ back, p c := fun c hc =>
        (List.mem_append.mp hc).elim (hfront c) (hback c)
      have hdrop : ((front ++ back) ++ []).dropWhile p = [] := dropWhile_append_of_head hall (by simp)
      rw [List.append_nil] at hdrop ⊢
      rw [hdrop]
      rfl
  | cons c cs =>
      have hdrop : (front ++ (c :: cs ++ back)).dropWhile p = c :: cs ++ back :=
        dropWhile_append_of_head hfront first
      rw [← List.head?_reverse] at last
      rw [List.append_assoc, hdrop, List.reverse_append,
        dropWhile_append_of_head (fun c hc => hback c (List.mem_reverse.mp hc)) last,
        List.reverse_reverse]

theorem trimClass_spec (p : Char → Bool) (cs : List Char) :
    (∃ front back : List Char, cs = front ++ trimClass p cs ++ back ∧ (∀ c ∈ front, p c) ∧
      ∀ c ∈ back, p c) ∧
    (∀ c ∈ (trimClass p cs).head?, p c = false) ∧ ∀ c ∈ (trimClass p cs).getLast?, p c = false := by
  have hsplit : cs.dropWhile p =
      trimClass p cs ++ ((cs.dropWhile p).reverse.takeWhile p).reverse := by
    rw [trimClass, ← List.reverse_append, List.takeWhile_append_dropWhile, List.reverse_reverse]
  refine ⟨⟨cs.takeWhile p, ((cs.dropWhile p).reverse.takeWhile p).reverse, ?_, ?_, ?_⟩, ?_, ?_⟩
  · rw [List.append_assoc, ← hsplit, List.takeWhile_append_dropWhile]
  · exact fun c hc => List.mem_takeWhile_imp hc
  · exact fun c hc => List.mem_takeWhile_imp (List.mem_reverse.mp hc)
  · intro c hc
    have hhead : c ∈ (cs.dropWhile p).head? := by
      rw [hsplit, List.head?_append, Option.mem_def.mp hc]
      rfl
    exact head?_dropWhile c hhead
  · rw [trimClass, List.getLast?_reverse]
    exact head?_dropWhile

/-- Trimming strips a text. -/
theorem stripped_iff : Stripped s t ↔ trim s = t := by
  constructor
  · rintro ⟨⟨front, back, hsplit, hfront, hback⟩, first, last⟩
    rw [trim, trimChars, hsplit, trimClass_append hfront hback first last, String.ofList_toList]
  · rintro rfl
    obtain ⟨split, first, last⟩ := trimClass_spec isBlank s.toList
    rw [← trimChars, ← String.toList_ofList (l := trimChars s.toList), ← trim] at split first last
    exact ⟨split, first, last⟩

/-! ## Characters that the database treats apart -/

/-- No character ends a text early or matches as another one. -/
def Plain (t : String) : Prop := ∀ c ∈ t.toList, c.toNat ≠ 0 ∧ c.toNat ≠ 0xFFFE ∧ c.toNat ≠ 0xFFFF

instance (t : String) : Decidable (Plain t) := List.decidableBAll _ t.toList

theorem Plain.matchable (h : Plain t) : matchable t = t.toList := by
  have htake : t.toList.takeWhile (fun c => c.toNat ≠ 0) = t.toList :=
    List.takeWhile_eq_self_iff.mpr fun c hc => by simpa using (h c hc).1
  rw [Text.matchable, htake]
  conv_rhs => rw [← List.map_id t.toList]
  refine List.map_congr_left fun c hc => ?_
  obtain ⟨-, hlow, hhigh⟩ := h c hc
  rw [matchChar, if_neg (by omega), id]

theorem Plain.containsPattern (h : Plain term) : Plain (containsPattern term) := by
  intro c hc
  rw [Text.containsPattern, String.toList_ofList, escapeTerm_eq, List.mem_cons, List.mem_append,
    List.mem_flatMap, List.mem_singleton] at hc
  rcases hc with rfl | ⟨d, hd, hc⟩ | rfl
  · decide
  · unfold escaped at hc
    split at hc
    · rcases List.mem_cons.mp hc with rfl | hc
      · decide
      · exact List.mem_singleton.mp hc ▸ h d hd
    · exact List.mem_singleton.mp hc ▸ h d hd
  · decide

/-- Other texts are matched as the pattern denotes. -/
theorem likeMatches_iff (hs : Plain s) (ht : Plain t) : likeMatches (some '\\') s t = true ↔ Like s t := by
  rw [likeMatches, hs.matchable, ht.matchable, matchesItems_iff, Like]

end Text

variable {s : Store} {a : Account} {l : PostedLine} {f : LedgerFilters} {id : Uuid} {range : DateRange}
  {term search : String}

/-! ## The lines that are found -/

namespace PostedLine

/-- The texts of a line that a search looks at. -/
def searched (l : PostedLine) : List String := l.entryNumber :: (l.memo.toList ++ l.description.toList)

/-- The term occurs in the number of the entry, in its memo or in the description of the line. A memo or
    a description that is missing has no term in it. -/
def Contains (term : String) (l : PostedLine) : Prop :=
  Text.Occurs term l.entryNumber ∨ (∃ memo, l.memo = some memo ∧ Text.Occurs term memo) ∨
    ∃ description, l.description = some description ∧ Text.Occurs term description

theorem contains_iff : l.Contains term ↔ ∃ text ∈ l.searched, Text.Occurs term text := by
  simp only [Contains, searched, List.mem_cons, List.mem_append, Option.mem_toList, or_and_right,
    exists_or, exists_eq_left]

instance (term : String) (l : PostedLine) : Decidable (l.Contains term) :=
  decidable_of_iff _ contains_iff.symm

end PostedLine

namespace Store

/-- The database reads the pattern of a search as it is meant, for the texts on an account in a range. -/
structure ReadsPatterns (s : Store) (account : Uuid) (range : DateRange) (term : String) : Prop where
  short : Text.isPatternTooLong (Text.containsPattern term) = false
  reads : ∀ l ∈ s.linesFor account range, ∀ text ∈ l.searched,
    Text.likeMatches (some '\\') (Text.containsPattern term) text = true ↔
      Text.Like (Text.containsPattern term) text

/-- It does for terms that are not too long, if no text has characters that it treats apart. -/
theorem ReadsPatterns.of_plain (short : Text.isPatternTooLong (Text.containsPattern term) = false)
    (plain : Text.Plain term) (texts : ∀ l ∈ s.linesFor id range, ∀ text ∈ l.searched, Text.Plain text) :
    s.ReadsPatterns id range term :=
  ⟨short, fun l hl text htext => Text.likeMatches_iff plain.containsPattern (texts l hl text htext)⟩

theorem matchesSearch_iff {pattern : String} :
    matchesSearch pattern l = true ↔ ∃ text ∈ l.searched, Text.likeMatches (some '\\') pattern text = true := by
  unfold matchesSearch PostedLine.searched
  cases l.memo <;> cases l.description <;> simp [or_assoc]

/-- The lines that the database finds are those that contain the term. -/
theorem ReadsPatterns.matchesSearch (h : s.ReadsPatterns id range term) (hl : l ∈ s.linesFor id range) :
    matchesSearch (Text.containsPattern term) l = true ↔ l.Contains term := by
  rw [matchesSearch_iff, PostedLine.contains_iff]
  refine exists_congr fun text => and_congr_right fun htext => ?_
  rw [h.reads l hl text htext, Text.like_containsPattern]

/-- The lines on an account in a range that contain a term, in the order of a ledger. -/
def linesContaining (s : Store) (account : Uuid) (range : DateRange) (term : String) : List PostedLine :=
  ((s.linesFor account range).filter fun l => l.Contains term).mergeSort chronological

theorem ReadsPatterns.postedLines (h : s.ReadsPatterns id range term) :
    s.postedLines id range (some term) = .ok (s.linesContaining id range term) := by
  rw [postedLines_eq, foundLines, keepMatches, h.short, Bool.false_and, if_neg Bool.false_ne_true,
    linesContaining]
  refine congrArg (fun ls => Except.ok (ls.mergeSort chronological)) (List.filter_congr fun l hl => ?_)
  rw [Bool.eq_iff_iff, decide_eq_true_iff]
  exact h.matchesSearch hl

end Store

namespace Reports

theorem searchTerm_of_stripped (h : Text.Stripped search term) (something : term ≠ "") :
    searchTerm (some search) = some term := by
  rw [searchTerm, Text.stripped_iff.mp h, if_neg]
  rwa [String.isEmpty_iff]

theorem searchTerm_of_blank (h : Text.Stripped search "") : searchTerm (some search) = none := by
  rw [searchTerm, Text.stripped_iff.mp h]
  rfl

/-- The ledger of an account over given lines. -/
def ledgerOver (s : Store) (a : Account) (start : Option Date) (rows : List PostedLine) :
    Except Failure AccountLedger := do
  let opening ← openingOf s a start
  liftAmount (replay a opening rows)

theorem wholeLedger_of_rows {rows : List PostedLine}
    (h : s.postedLines a.id f.range (searchTerm f.search) = .ok rows) :
    wholeLedger s a f = ledgerOver s a f.start rows := by
  rw [wholeLedger, h]
  rfl

/-- A ledger over lines lists them all. -/
theorem ledgerOver_ok {start : Option Date} {rows : List PostedLine} {ledger : AccountLedger}
    (h : ledgerOver s a start rows = .ok ledger) : ledger.entries.map LedgerLine.line = rows := by
  obtain ⟨opening, -, h⟩ := bind_eq_ok h
  obtain ⟨lines, hlines, h⟩ := bind_eq_ok (Posting.liftAmount_ok h)
  obtain ⟨x, -, h⟩ := bind_eq_ok h
  obtain ⟨y, -, h⟩ := bind_eq_ok h
  obtain ⟨m, -, h⟩ := bind_eq_ok h
  obtain ⟨closing, -, h⟩ := bind_eq_ok h
  cases h
  exact map_line_runningBalances hlines

/-- A search is a plain test for a term. The pattern of a search denotes the texts in which its term
    occurs. A search of blanks is none. And if the database reads the pattern as it is meant, a ledger
    with a search is the ledger over the lines of its window that contain what is left of the search
    without its surrounding blanks; it answers if the amounts on the account are bounded. -/
theorem search_literal :
    (∀ term text : String, Text.Like (Text.containsPattern term) text ↔ Text.Occurs term text) ∧
      (∀ search, Text.Stripped search "" → ∀ id (f : LedgerFilters), f.search = some search →
        ledgerFor id f = ledgerFor id { f with search := none }) ∧
      ∀ search term, Text.Stripped search term → term ≠ "" →
        ∀ clock (w : World) (a : Account) (f : LedgerFilters), f.search = some search →
          w.pending = none → w.store.account? a.id = some a →
          w.store.ReadsPatterns a.id f.range term →
          let outcome := ledgerOver w.store a f.start (w.store.linesContaining a.id f.range term)
          (ledgerFor a.id f).run clock w = (outcome.map fun ledger => ledger.paged f, w) ∧
            (∀ ledger, outcome = .ok ledger →
              ledger.entries.map LedgerLine.line = w.store.linesContaining a.id f.range term) ∧
            ((∀ days, Line.Bounded (w.store.linesOn a.id days)) → ∃ ledger, outcome = .ok ledger) := by
  refine ⟨Text.like_containsPattern, ?_, ?_⟩
  · intro search blank id f hsearch
    have hterm : searchTerm f.search = searchTerm none := hsearch ▸ searchTerm_of_blank blank
    unfold ledgerFor
    rw [hterm]
    rfl
  · intro search term stripped something clock w a f hsearch idle found reads
    have hterm : searchTerm f.search = some term := hsearch ▸ searchTerm_of_stripped stripped something
    have whole : wholeLedger w.store a f = ledgerOver w.store a f.start (w.store.linesContaining a.id f.range term) :=
      wholeLedger_of_rows (hterm ▸ reads.postedLines)
    have hrun : (ledgerFor a.id f).run clock w = _ := ledgerFor_run idle found f
    rw [whole] at hrun
    refine ⟨hrun, fun ledger h => ledgerOver_ok h, fun bounded => ?_⟩
    have searchable : f.Searchable := fun term' h => by
      rw [hterm] at h
      exact Option.some.inj h ▸ reads.short
    obtain ⟨ledger, hledger⟩ := ledgerFor_answers_searching bounded clock rfl idle found searchable
    rw [hrun] at hledger
    cases h : ledgerOver w.store a f.start (w.store.linesContaining a.id f.range term) with
    | ok ledger => exact ⟨ledger, rfl⟩
    | error e =>
        rw [h] at hledger
        cases congrArg Prod.fst hledger

/-- A search for the number of the second day, in small letters and between blanks, finds its line. -/
theorem search_literal_movesOnTwoDays :
    ∃ a ∈ (Store.after movesOnTwoDays).accounts, a.id = Uuid.issue 0 ∧ ∃ ledger,
      (ledgerFor a.id { search := some " je-20240206\t" }).run (.ok default)
          { store := Store.after movesOnTwoDays } =
        (.ok ledger, { store := Store.after movesOnTwoDays }) ∧
      ledger.entries.map (fun l => l.line.entryNumber) = ["JE-20240206-001"] := by
  obtain ⟨a, ha, hid, hcompany⟩ := exists_account_movesOnTwoDays
  have chartered := Store.after_chartered movesOnTwoDays
  have stripped : Text.Stripped " je-20240206\t" "je-20240206" := Text.stripped_iff.mpr (by decide +kernel)
  have reads : (Store.after movesOnTwoDays).ReadsPatterns a.id ⟨none, none⟩ "je-20240206" :=
    .of_plain (by decide +kernel) (by decide +kernel) (by rw [hid]; decide +kernel)
  obtain ⟨hrun, hlines, answers⟩ := search_literal.2.2 _ _ stripped (by decide) (.ok default)
    { store := Store.after movesOnTwoDays } a { search := some " je-20240206\t" } rfl rfl
    (chartered.account?_eq ha) reads
  have bounded : (Store.after movesOnTwoDays).Bounded a.company := hcompany ▸ bounded_movesOnTwoDays
  obtain ⟨ledger, hledger⟩ := answers (chartered.linesOn_bounded ha (bounded.on a.id))
  refine ⟨a, ha, hid, ledger, ?_, ?_⟩
  · rw [hrun, hledger]
    rfl
  · have numbers := congrArg (List.map PostedLine.entryNumber) (hlines ledger hledger)
    rw [List.map_map] at numbers
    refine numbers.trans ?_
    rw [hid]
    decide +kernel

end Reports

end Bookkeeping
