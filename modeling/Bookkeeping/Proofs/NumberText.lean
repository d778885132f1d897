import Bookkeeping.Proofs.CalendarText
import Bookkeeping.Entry.Number
import Bookkeeping.Text.Wildcard
import Mathlib.Data.List.Basic
import Mathlib.Data.List.Count
import Mathlib.Data.List.TakeWhile

set_option autoImplicit false

/-! # Entry numbers as text

A number tells its day and its sequence (`format_injective`), and the pattern for the numbers of a day
finds no number of another day, as long as nothing ends the word in front early
(`date_eq_of_likeMatches`). Wildcards in the word may match anything, but hyphens match themselves only,
and a number has no more of them than its pattern. -/

namespace Bookkeeping

/-! ## Literal characters in patterns -/

namespace Text

variable {c d : Char} {cs ds es text : List Char} {items : List PatternItem}

theorem toNat_of_isDigit (h : c.isDigit) : 48 ≤ c.toNat ∧ c.toNat ≤ 57 := by
  simp only [Char.isDigit, Bool.and_eq_true, decide_eq_true_eq, UInt32.le_iff_toNat_le] at h
  exact h

theorem ne_hyphen_of_isDigit (h : c.isDigit) : c ≠ '-' := by
  rintro rfl
  simp at h

/-- Characters before the letters have one case. -/
theorem asciiLower_of_lt (h : c.toNat < 65) : asciiLower c = c := by
  unfold asciiLower
  rw [if_neg]
  simp only [Bool.and_eq_true, decide_eq_true_eq, not_and_or, Char.le_def, UInt32.le_iff_toNat_le]
  exact .inl (Nat.not_le.mpr h)

theorem matchChar_of_lt (h : c.toNat < 65) : matchChar c = c := by
  unfold matchChar
  rw [if_neg]
  omega

theorem ne_zero_of_isDigit (h : c.isDigit) : c ≠ '\x00' := by
  rintro rfl
  simp at h

theorem ofChar_of_isDigit (h : c.isDigit) : PatternItem.ofChar c = .literal c := by
  have hc := toNat_of_isDigit h
  unfold PatternItem.ofChar
  rw [if_neg, if_neg]
  · rintro rfl
    simp at hc
  · rintro rfl
    simp at hc

theorem patternItems_none (cs : List Char) : patternItems none cs = cs.map .ofChar := by
  induction cs with
  | nil => rfl
  | cons c cs ih =>
      cases cs with
      | nil => rfl
      | cons d cs =>
          rw [patternItems, if_neg (by simp), ih]
          rfl

theorem matchable_eq {t : String} (h : ∀ c ∈ t.toList, c ≠ '\x00') :
    matchable t = t.toList.map matchChar := by
  rw [matchable, List.takeWhile_eq_self_iff.mpr]
  intro c hc
  rw [decide_eq_true_eq]
  exact fun h0 => h c hc (Char.ext (UInt32.toNat_inj.mp h0))

/-- What is matched of a text in two parts. -/
theorem matchable_append (s t : String) :
    matchable (s ++ t) =
      if s.toList.all fun c => c.toNat ≠ 0 then s.toList.map matchChar ++ matchable t else matchable s := by
  rw [matchable, String.toList_append]
  split
  · next h =>
      rw [List.takeWhile_append_of_pos (List.all_eq_true.mp h), List.map_append]
      rfl
  · next h =>
      have some_zero : ¬ (s.toList.takeWhile fun c => c.toNat ≠ 0).length = s.toList.length := by
        intro hlength
        have whole := (List.takeWhile_prefix _).eq_of_length hlength
        exact h (List.all_eq_true.mpr (List.takeWhile_eq_self_iff.mp whole))
      rw [List.takeWhile_append, if_neg some_zero]
      rfl

theorem map_matchChar_of_isDigit (h : ∀ c ∈ cs, c.isDigit) : cs.map matchChar = cs := by
  conv_rhs => rw [← List.map_id cs]
  refine List.map_congr_left fun c hc => matchChar_of_lt ?_
  have := toNat_of_isDigit (h c hc)
  omega

/-- A character before the letters matches itself only. -/
theorem eq_of_sameAsciiLetter (hc : c.toNat < 65) (h : sameAsciiLetter c d = true) : d = c := by
  rw [sameAsciiLetter, beq_iff_eq, asciiLower_of_lt hc] at h
  have hlower : asciiLower d = c := h.symm
  unfold asciiLower at hlower
  split at hlower
  · next letter =>
      simp only [Bool.and_eq_true, decide_eq_true_eq, Char.le_def, UInt32.le_iff_toNat_le] at letter
      have hupper : 65 ≤ d.toNat ∧ d.toNat ≤ 90 := letter
      have hvalid : (d.toNat + 32).isValidChar := .inl (by omega)
      rw [Char.ofNat, dif_pos hvalid] at hlower
      have hcode : d.toNat + 32 = c.toNat := congrArg Char.toNat hlower
      omega
  · exact hlower

theorem ofChar_injective : Function.Injective PatternItem.ofChar := by
  intro c d h
  unfold PatternItem.ofChar at h
  grind

/-- A run of characters leaves some end of the text. -/
theorem anySuffix_iff {test : List Char → Bool} :
    anySuffix test text = true ↔ ∃ front rest, text = front ++ rest ∧ test rest = true := by
  induction text with
  | nil => simp [anySuffix]
  | cons c cs ih =>
      rw [anySuffix, Bool.or_eq_true, ih]
      constructor
      · rintro (h | ⟨front, rest, rfl, h⟩)
        · exact ⟨[], c :: cs, rfl, h⟩
        · exact ⟨c :: front, rest, rfl, h⟩
      · rintro ⟨front, rest, heq, h⟩
        cases front with
        | nil => exact .inl (heq ▸ h)
        | cons d front => exact .inr ⟨front, rest, (List.cons.inj heq).2, h⟩

/-- A pattern in two parts matches a text in two parts. -/
theorem matchesItems_append {later : List PatternItem}
    (h : matchesItems (items ++ later) text = true) :
    ∃ front rest, text = front ++ rest ∧ matchesItems items front = true ∧
      matchesItems later rest = true := by
  induction items generalizing text with
  | nil => exact ⟨[], text, rfl, rfl, h⟩
  | cons item items ih =>
      rw [List.cons_append] at h
      cases item with
      | literal c =>
          cases text with
          | nil => simp [matchesItems] at h
          | cons t text =>
              simp only [matchesItems, Bool.and_eq_true] at h
              obtain ⟨front, rest, rfl, hfront, hrest⟩ := ih h.2
              exact ⟨t :: front, rest, rfl, by simp [matchesItems, h.1, hfront], hrest⟩
      | anyOne =>
          cases text with
          | nil => simp [matchesItems] at h
          | cons t text =>
              obtain ⟨front, rest, rfl, hfront, hrest⟩ := ih (by simpa [matchesItems] using h)
              exact ⟨t :: front, rest, rfl, by simp [matchesItems, hfront], hrest⟩
      | anyRun =>
          rw [matchesItems] at h
          obtain ⟨run, text', rfl, hlater⟩ := anySuffix_iff.mp h
          obtain ⟨front, rest, rfl, hfront, hrest⟩ := ih hlater
          refine ⟨run ++ front, rest, (List.append_assoc _ _ _).symm, ?_, hrest⟩
          rw [matchesItems]
          exact anySuffix_iff.mpr ⟨run, front, rfl, hfront⟩

/-- Characters match themselves, also those that match others as well. -/
theorem matchesItems_self (h : matchesItems items text = true) :
    matchesItems (cs.map .ofChar ++ items) (cs ++ text) = true := by
  induction cs with
  | nil => exact h
  | cons c cs ih =>
      rw [List.map_cons, List.cons_append, List.cons_append, PatternItem.ofChar]
      split
      · exact anySuffix_iff.mpr ⟨[c], cs ++ text, rfl, ih⟩
      · split
        · exact ih
        · simpa [matchesItems, sameAsciiLetter] using ih

/-- Characters before the letters match themselves only. -/
theorem matchesItems_literals (hcs : ∀ c ∈ cs, c.toNat < 65)
    (h : matchesItems (cs.map .literal ++ items) text = true) :
    ∃ rest, text = cs ++ rest ∧ matchesItems items rest = true := by
  induction cs generalizing text with
  | nil => exact ⟨text, rfl, h⟩
  | cons c cs ih =>
      cases text with
      | nil => simp [matchesItems] at h
      | cons t text =>
          simp only [List.map_cons, List.cons_append, matchesItems, Bool.and_eq_true] at h
          obtain ⟨rest, rfl, hrest⟩ := ih (fun d hd => hcs d (by simp [hd])) h.2
          rw [eq_of_sameAsciiLetter (hcs c (by simp)) h.1]
          exact ⟨rest, rfl, hrest⟩

/-- A text has all the hyphens of a pattern that it matches. -/
theorem count_hyphen_le (h : matchesItems items text = true) :
    items.count (.literal '-') ≤ text.count '-' := by
  induction items generalizing text with
  | nil => simp
  | cons item items ih =>
      cases item with
      | literal c =>
          cases text with
          | nil => simp [matchesItems] at h
          | cons t text =>
              simp only [matchesItems, Bool.and_eq_true] at h
              have hrest := ih h.2
              by_cases hc : c = '-'
              · subst hc
                rw [eq_of_sameAsciiLetter (by decide) h.1, List.count_cons_self, List.count_cons_self]
                omega
              · rw [List.count_cons_of_ne (by simpa using hc)]
                exact hrest.trans List.count_le_count_cons
      | anyOne =>
          cases text with
          | nil => simp [matchesItems] at h
          | cons t text =>
              rw [List.count_cons_of_ne (by simp)]
              exact (ih (by simpa [matchesItems] using h)).trans List.count_le_count_cons
      | anyRun =>
          rw [matchesItems] at h
          obtain ⟨run, rest, rfl, hrest⟩ := anySuffix_iff.mp h
          rw [List.count_cons_of_ne (by simp), List.count_append]
          exact (ih hrest).trans (Nat.le_add_left _ _)

end Text

/-! ## Words that stand for themselves -/

namespace EntryNumber

/-- A word that stands for itself in a pattern: it has no wildcard, and nothing ends it early. -/
def Plain (word : String) : Prop := ∀ c ∈ word.toList, c ≠ '%' ∧ c ≠ '_' ∧ c ≠ '\x00'

instance (word : String) : Decidable (Plain word) :=
  List.decidableBAll _ word.toList

variable {word : String} {a b : Date} {n m : Int}

theorem toList_format (word : String) (d : Date) (n : Int) :
    (format (dayPrefix word d) n).toList =
      word.toList ++ '-' :: (d.compactText.toList ++ '-' :: (sequenceText n).toList) := by
  simp [format, dayPrefix]

theorem isDigit_of_mem_sequenceText {c : Char} (hn : 0 ≤ n) (h : c ∈ (sequenceText n).toList) :
    c.isDigit := by
  rw [sequenceText, if_neg (Int.not_lt.mpr hn)] at h
  exact Text.isDigit_of_mem_padZeros h

theorem sequenceText_injective (hn : 0 ≤ n) (hm : 0 ≤ m) (h : sequenceText n = sequenceText m) :
    n = m := by
  rw [sequenceText, sequenceText, if_neg (Int.not_lt.mpr hn), if_neg (Int.not_lt.mpr hm)] at h
  have hnum := congrArg (fun s => Text.digitsNumber s.toList) h
  simp only [Text.digitsNumber_padZeros] at hnum
  omega

theorem tail_append {cs ds : List Char} (h : '-' ∉ ds) : tail (cs ++ '-' :: ds) = ds := by
  have others : ∀ c ∈ ds.reverse, decide (c ≠ '-') = true := by
    intro c hc
    refine decide_eq_true fun heq => h ?_
    rw [← heq]
    exact List.mem_reverse.mp hc
  rw [tail, List.reverse_append, List.reverse_cons, List.append_assoc,
    List.takeWhile_append_of_pos others, List.singleton_append, List.takeWhile_cons_of_neg (by simp),
    List.append_nil, List.reverse_reverse]

/-- The last hyphen cuts a text in one way. -/
theorem append_hyphen_inj {cs ds cs' ds' : List Char} (h : '-' ∉ ds) (h' : '-' ∉ ds')
    (heq : cs ++ '-' :: ds = cs' ++ '-' :: ds') : cs = cs' ∧ ds = ds' := by
  have htail := congrArg tail heq
  rw [tail_append h, tail_append h'] at htail
  subst htail
  exact ⟨List.append_cancel_right heq, rfl⟩

theorem hyphen_notMem {cs : List Char} (h : ∀ c ∈ cs, c.isDigit) : '-' ∉ cs :=
  fun hc => Text.ne_hyphen_of_isDigit (h '-' hc) rfl

/-- What the numbers of a day start with tells the word and the day. -/
theorem dayPrefix_cancel {word' : String} (h : dayPrefix word a = dayPrefix word' b) :
    word = word' ∧ a = b := by
  have hl := congrArg String.toList h
  simp only [dayPrefix, String.toList_append, List.append_assoc] at hl
  obtain ⟨hword, hday⟩ := append_hyphen_inj (hyphen_notMem fun c => Date.isDigit_of_mem_compactText)
    (hyphen_notMem fun c => Date.isDigit_of_mem_compactText) hl
  exact ⟨String.toList_inj.mp hword, Date.compactText_injective (String.toList_inj.mp hday)⟩

theorem dayPrefix_injective (h : dayPrefix word a = dayPrefix word b) : a = b := (dayPrefix_cancel h).2

/-- Behind the last hyphen of a number stands its sequence. -/
theorem tail_format (p : String) (hn : 0 ≤ n) :
    tail (format p n).toList = (sequenceText n).toList := by
  have hformat : (format p n).toList = p.toList ++ '-' :: (sequenceText n).toList := by simp [format]
  rw [hformat, tail_append (hyphen_notMem fun c => isDigit_of_mem_sequenceText hn)]

/-- A number tells what stands before its sequence, and its sequence. -/
theorem format_cancel {p q : String} (hn : 0 ≤ n) (hm : 0 ≤ m) (h : format p n = format q m) :
    p = q ∧ n = m := by
  have htail := congrArg (fun s => tail s.toList) h
  simp only [tail_format _ hn, tail_format _ hm, String.toList_inj] at htail
  obtain rfl := sequenceText_injective hn hm htail
  have hl := congrArg String.toList h
  simp only [format, String.toList_append, List.append_cancel_right_eq] at hl
  exact ⟨String.toList_inj.mp hl, rfl⟩

/-- Under one word a number tells its day and its sequence. -/
theorem format_injective (hn : 0 ≤ n) (hm : 0 ≤ m)
    (h : format (dayPrefix word a) n = format (dayPrefix word b) m) : a = b ∧ n = m := by
  obtain ⟨hday, hsequence⟩ := format_cancel hn hm h
  exact ⟨dayPrefix_injective hday, hsequence⟩

/-- The pattern for the numbers of a day finds them, whatever they start with. -/
theorem likeMatches_format (p : String) (n : Int) :
    Text.likeMatches none (p ++ "-%") (format p n) = true := by
  have rest (text : List Char) :
      Text.matchesItems [.literal '-', .anyRun] ('-' :: text) = true := by
    simp only [Text.matchesItems, Text.sameAsciiLetter, beq_self_eq_true, Bool.true_and]
    exact Text.anySuffix_iff.mpr ⟨text, [], (List.append_nil _).symm, rfl⟩
  rw [Text.likeMatches, format, String.append_assoc, Text.matchable_append, Text.matchable_append,
    Text.patternItems_none]
  split
  · have hsequence : Text.matchable ("-" ++ sequenceText n) = '-' :: Text.matchable (sequenceText n) :=
      Text.matchable_append "-" _
    rw [hsequence, List.map_append]
    exact Text.matchesItems_self (rest _)
  · -- a zero character ends pattern and number alike
    have same : Text.matchesItems ((Text.matchable p).map .ofChar ++ []) (Text.matchable p ++ []) = true :=
      Text.matchesItems_self rfl
    rwa [List.append_nil, List.append_nil] at same

variable (ended : ∀ c ∈ word.toList, c ≠ '\x00')
include ended

/-- The numbers of a day as they are matched. -/
theorem matchable_format (hn : 0 ≤ n) :
    Text.matchable (format (dayPrefix word b) n) = word.toList.map Text.matchChar ++
      '-' :: (b.compactText.toList ++ '-' :: (sequenceText n).toList) := by
  rw [Text.matchable_eq, toList_format]
  · simp only [List.map_append, List.map_cons,
      Text.map_matchChar_of_isDigit fun c => Date.isDigit_of_mem_compactText,
      Text.map_matchChar_of_isDigit fun c => isDigit_of_mem_sequenceText hn]
    rfl
  · intro c hc
    rw [toList_format] at hc
    simp only [List.mem_append, List.mem_cons] at hc
    rcases hc with hc | rfl | hc | rfl | hc
    · exact ended c hc
    · decide
    · exact Text.ne_zero_of_isDigit (Date.isDigit_of_mem_compactText hc)
    · decide
    · exact Text.ne_zero_of_isDigit (isDigit_of_mem_sequenceText hn hc)

/-- The items of the pattern for the numbers of a day. -/
theorem patternItems_dayPrefix :
    Text.patternItems none (Text.matchable (dayPrefix word a ++ "-%")) =
      (word.toList.map Text.matchChar).map .ofChar ++
        (('-' :: (a.compactText.toList ++ ['-'])).map .literal ++ [.anyRun]) := by
  have hl : (dayPrefix word a ++ "-%").toList =
      word.toList ++ '-' :: (a.compactText.toList ++ ['-', '%']) := by
    simp [dayPrefix]
  rw [Text.matchable_eq, hl, Text.patternItems_none]
  · have hdate : a.compactText.toList.map Text.PatternItem.ofChar =
        a.compactText.toList.map .literal :=
      List.map_congr_left fun c hc => Text.ofChar_of_isDigit (Date.isDigit_of_mem_compactText hc)
    simp only [List.map_append, List.map_cons, hdate, List.append_assoc, List.cons_append,
      Text.map_matchChar_of_isDigit fun c => Date.isDigit_of_mem_compactText]
    rfl
  · intro c hc
    rw [hl] at hc
    simp only [List.mem_append, List.mem_cons, List.not_mem_nil, or_false] at hc
    rcases hc with hc | rfl | hc | rfl | rfl
    · exact ended c hc
    · decide
    · exact Text.ne_zero_of_isDigit (Date.isDigit_of_mem_compactText hc)
    · decide
    · decide

/-- The pattern for the numbers of a day finds no number of another day, also if there are wildcards in
    the word. -/
theorem date_eq_of_likeMatches (hn : 0 ≤ n)
    (h : Text.likeMatches none (dayPrefix word a ++ "-%") (format (dayPrefix word b) n) = true) :
    a = b := by
  rw [Text.likeMatches, patternItems_dayPrefix ended, matchable_format ended hn] at h
  obtain ⟨front, text, htext, hfront, h⟩ := Text.matchesItems_append h
  have low : ∀ c ∈ '-' :: (a.compactText.toList ++ ['-']), c.toNat < 65 := by
    intro c hc
    simp only [List.mem_cons, List.mem_append, List.not_mem_nil, or_false] at hc
    rcases hc with rfl | hc | rfl
    · decide
    · have := Text.toNat_of_isDigit (Date.isDigit_of_mem_compactText hc)
      omega
    · decide
  obtain ⟨rest, rfl, -⟩ := Text.matchesItems_literals low h
  -- the hyphens of the word are in front already, so the hyphen behind the day is the last one
  have hword := Text.count_hyphen_le hfront
  rw [show Text.PatternItem.literal '-' = .ofChar '-' from rfl,
    List.count_map_of_injective _ _ Text.ofChar_injective] at hword
  have hb := hyphen_notMem fun c => Date.isDigit_of_mem_compactText (d := b)
  have hsequence := hyphen_notMem fun c => isDigit_of_mem_sequenceText hn
  have hcount := congrArg (List.count '-') htext
  simp only [List.count_append, List.count_cons_self, List.count_nil, List.cons_append,
    List.count_eq_zero.mpr hb, List.count_eq_zero.mpr hsequence] at hcount
  have hrest : '-' ∉ rest := List.count_eq_zero.mp (by omega)
  have hcut : (word.toList.map Text.matchChar ++ '-' :: b.compactText.toList) ++
      '-' :: (sequenceText n).toList = (front ++ '-' :: a.compactText.toList) ++ '-' :: rest := by
    simpa using htext
  have hday := (append_hyphen_inj hsequence hrest hcut).1
  have hdates := (append_hyphen_inj hb (hyphen_notMem fun c => Date.isDigit_of_mem_compactText) hday).2
  exact (Date.compactText_injective (String.toList_inj.mp hdates)).symm

end EntryNumber

end Bookkeeping
