import Bookkeeping.Proofs.NumberText

set_option autoImplicit false

/-! # Reading entry numbers

A sequence is read back from the number that it was written into, as long as it has no more digits than
are read at all, and a number tells its word, its day and its sequence (`EntryNumber.number_decodes`).

Other texts are looked at twice by the reader: what stands behind the last hyphen counts as a sequence
when all of its characters have a digit value, and is then read by its decimal digits. The two classes of
characters differ, so the reader answers for the texts that are `EntryNumber.Readable` and for no others
(`EntryNumber.sequenceOf_answers_iff`). -/

namespace Bookkeeping

/-! ## Texts of digits -/

namespace Text

variable {c : Char} {cs : List Char}

/-- Is `c` a decimal digit of some script? -/
def isDecimal (c : Char) : Bool := (decimalDigit? c).isSome

theorem decimalDigit?_of_isDigit (h : c.isDigit) : decimalDigit? c = some (c.toNat - 48) := by
  simp only [Char.isDigit, Bool.and_eq_true, decide_eq_true_eq] at h
  unfold decimalDigit?
  rw [if_pos]
  simpa [Char.le_def] using h

theorem isDecimal_of_isDigit (h : c.isDigit) : isDecimal c = true := by
  rw [isDecimal, decimalDigit?_of_isDigit h]
  rfl

theorem isDigitLike_of_isDecimal (h : isDecimal c = true) : isDigitLike c = true := by
  rw [isDigitLike, Bool.or_eq_true]
  exact .inl h

/-- The codes of the blanks. -/
def blankCodes : List Nat :=
  [9, 10, 11, 12, 13, 28, 29, 30, 31, 32, 0x85, 0xA0, 0x1680, 0x2000, 0x2001, 0x2002, 0x2003, 0x2004,
    0x2005, 0x2006, 0x2007, 0x2008, 0x2009, 0x200A, 0x2028, 0x2029, 0x202F, 0x205F, 0x3000]

theorem toNat_mem_blankCodes (h : isBlank c = true) : c.toNat ∈ blankCodes := by
  simp only [isBlank, Bool.or_eq_true, Bool.and_eq_true, decide_eq_true_eq, beq_iff_eq] at h
  simp only [blankCodes, List.mem_cons, List.not_mem_nil, or_false]
  omega

/-- White space has no digit value. -/
theorem isSpace_of_isDigitLike (h : isDigitLike c = true) : isSpace c = false := by
  have blanks : ∀ n ∈ blankCodes, isDigitLike (Char.ofNat n) = false := by decide +kernel
  rw [isSpace, Bool.and_eq_false_iff]
  refine .inl (Bool.eq_false_iff.mpr fun blank => ?_)
  have hc := blanks c.toNat (toNat_mem_blankCodes blank)
  rw [Char.ofNat_toNat, h] at hc
  cases hc

theorem not_mark_of_isDigitLike (h : isDigitLike c = true) : c ≠ '-' ∧ c ≠ '+' ∧ c ≠ '_' := by
  refine ⟨?_, ?_, ?_⟩ <;> (rintro rfl; revert h; decide)

theorem underscore_notMem (like : ∀ c ∈ cs, isDigitLike c = true) : '_' ∉ cs :=
  fun hmem => (not_mark_of_isDigitLike (like '_' hmem)).2.2 rfl

/-- Characters with a digit value are no white space, unless there are none. -/
theorem all_isSpace_iff (like : ∀ c ∈ cs, isDigitLike c = true) : cs.all isSpace = true ↔ cs = [] := by
  cases cs with
  | nil => simp
  | cons c cs => simp [isSpace_of_isDigitLike (like c (by simp))]

/-- Characters without underscores have no gaps to close. -/
theorem joinGroups_of_notMem (h : '_' ∉ cs) : joinGroups cs = some cs := by
  induction cs with
  | nil => rfl
  | cons c cs ih =>
      have hc : c ≠ '_' := fun heq => h (by simp [heq])
      have hrest := ih fun hd => h (by simp [hd])
      rw [joinGroups.eq_def]
      cases cs with
      | nil => exact if_neg hc
      | cons d cs =>
          have hd : d ≠ '_' := fun heq => h (by simp [heq])
          dsimp only
          rw [if_neg hc, if_neg hd, hrest]
          rfl

/-- Decimal digits have a value. -/
theorem digitsValue?_of_isDecimal (decimal : ∀ c ∈ cs, isDecimal c = true) :
    ∃ n, digitsValue? cs = some n := by
  have from_number (n : Nat) :
      ∃ m, cs.foldl (fun acc c => acc.bind fun n => (decimalDigit? c).map (n * 10 + ·)) (some n) =
        some m := by
    induction cs generalizing n with
    | nil => exact ⟨n, rfl⟩
    | cons c cs ih =>
        obtain ⟨d, hd⟩ := Option.isSome_iff_exists.mp (decimal c (by simp))
        obtain ⟨m, hm⟩ := ih (fun x hx => decimal x (by simp [hx])) (n * 10 + d)
        refine ⟨m, ?_⟩
        rwa [List.foldl_cons, Option.bind_some, hd, Option.map_some]
  exact from_number 0

/-- The value of ASCII digits is the number that they denote. -/
theorem digitsValue?_of_isDigit (digits : ∀ c ∈ cs, c.isDigit) :
    digitsValue? cs = some (digitsNumber cs) := by
  -- the number so far is the first part of what both sides fold over
  have from_number (n : Nat) :
      cs.foldl (fun acc c => acc.bind fun n => (decimalDigit? c).map (n * 10 + ·)) (some n) =
        some (Nat.ofDigitChars 10 cs n) := by
    induction cs generalizing n with
    | nil => rfl
    | cons c cs ih =>
        rw [List.foldl_cons, Option.bind_some, decimalDigit?_of_isDigit (digits c (by simp)),
          Option.map_some, ih (fun d hd => digits d (by simp [hd])), Nat.ofDigitChars_cons,
          Nat.mul_comm n]
        rfl
  exact from_number 0

/-- Among characters with a digit value, groups of digits are runs of decimal digits. -/
theorem takeWhile_isGroupChar (like : ∀ c ∈ cs, isDigitLike c = true) :
    cs.takeWhile isGroupChar = cs.takeWhile isDecimal := by
  induction cs with
  | nil => rfl
  | cons c cs ih =>
      have hc : isGroupChar c = isDecimal c := by
        rw [isGroupChar, decide_eq_false (not_mark_of_isDigitLike (like c (by simp))).2.2, Bool.false_or,
          isDecimal]
      rw [List.takeWhile_cons, List.takeWhile_cons, hc, ih fun d hd => like d (by simp [hd])]

theorem drop_takeWhile (p : Char → Bool) (cs : List Char) :
    cs.drop (cs.takeWhile p).length = cs.dropWhile p := by
  have parts : cs.drop (cs.takeWhile p).length =
      (cs.takeWhile p ++ cs.dropWhile p).drop (cs.takeWhile p).length := by
    rw [List.takeWhile_append_dropWhile]
  rw [parts, List.drop_left]

/-- How a text of characters with a digit value is read: by the decimal digits that it starts with, and
    it must end with them. -/
theorem readInt_of_isDigitLike (like : ∀ c ∈ cs, isDigitLike c = true) :
    readInt cs =
      if cs.takeWhile isDecimal = [] then .error .malformed
      else if maxNumberDigits < (cs.takeWhile isDecimal).length then
        .error (.tooLong (cs.takeWhile isDecimal).length)
      else if (cs.dropWhile isDecimal) ≠ [] then .error .malformed
      else
        match digitsValue? (cs.takeWhile isDecimal) with
        | none => .error .malformed
        | some n => .ok n := by
  cases cs with
  | nil => rfl
  | cons c rest =>
      have hc := like c (by simp)
      obtain ⟨minus, plus, -⟩ := not_mark_of_isDigitLike hc
      unfold readInt
      rw [List.dropWhile_cons_of_neg (by simp [isSpace_of_isDigitLike hc])]
      -- neither a space nor a sign stands in front, so the whole text is read for digits
      split
      next negative body hbody =>
        split at hbody
        · next h => exact absurd (List.cons.inj h).1 minus
        · next h => exact absurd (List.cons.inj h).1 plus
        · cases hbody
          have ungrouped : '_' ∉ (c :: rest).takeWhile isDecimal :=
            underscore_notMem fun d hd => like d ((List.takeWhile_prefix _).subset hd)
          have trailing : ((c :: rest).dropWhile isDecimal).all isSpace = true ↔
              (c :: rest).dropWhile isDecimal = [] :=
            all_isSpace_iff fun d hd => like d ((List.dropWhile_suffix _).subset hd)
          dsimp only
          rw [takeWhile_isGroupChar like, joinGroups_of_notMem ungrouped, drop_takeWhile]
          generalize (c :: rest).dropWhile isDecimal = after at trailing ⊢
          cases (c :: rest).takeWhile isDecimal with
          | nil => rfl
          | cons d ds =>
              dsimp only
              rw [if_neg (List.cons_ne_nil d ds)]
              by_cases ended : after = []
              · rw [trailing.mpr ended, if_neg (not_not.mpr ended)]
                rfl
              · rw [Bool.eq_false_iff.mpr (mt trailing.mp ended), if_pos ended]
                rfl

/-- A text that can be read as a number: decimal digits, and not too many of them. -/
def IsNumeral (cs : List Char) : Prop :=
  (∀ c ∈ cs, isDecimal c = true) ∧ cs.length ≤ maxNumberDigits

instance (cs : List Char) : Decidable (IsNumeral cs) :=
  decidable_of_iff (cs.all isDecimal = true ∧ cs.length ≤ maxNumberDigits)
    (and_congr_left' List.all_eq_true)

/-- A numeral is read as its value. -/
theorem IsNumeral.readInt (h : IsNumeral cs) (something : cs ≠ []) {n : Nat}
    (value : digitsValue? cs = some n) : readInt cs = .ok n := by
  obtain ⟨decimal, short⟩ := h
  have whole : cs.takeWhile isDecimal = cs := List.takeWhile_eq_self_iff.mpr decimal
  have ended : cs.dropWhile isDecimal = [] := List.dropWhile_eq_nil_iff.mpr decimal
  rw [readInt_of_isDigitLike fun c hc => isDigitLike_of_isDecimal (decimal c hc), whole, ended,
    if_neg something, if_neg (Nat.not_lt.mpr short), if_neg (not_not.mpr rfl), value]

/-- Characters with a digit value that are no numeral are not read. -/
theorem readInt_of_not_isNumeral (like : ∀ c ∈ cs, isDigitLike c = true) (h : ¬ IsNumeral cs) :
    ∃ f, readInt cs = .error f := by
  rw [readInt_of_isDigitLike like]
  split
  · exact ⟨_, rfl⟩
  · split
    · exact ⟨_, rfl⟩
    · next short =>
        rw [if_pos]
        · exact ⟨_, rfl⟩
        · intro ended
          have decimal := List.dropWhile_eq_nil_iff.mp ended
          rw [List.takeWhile_eq_self_iff.mpr decimal] at short
          exact h ⟨decimal, Nat.not_lt.mp short⟩

end Text

/-! ## What stands behind the last hyphen -/

namespace EntryNumber

variable {number : String} {n : Int}

/-- What stands behind the last hyphen is a numeral, unless it is no sequence at all. -/
def Readable (number : String) : Prop :=
  Text.allDigitLike (tail number.toList) = true → Text.IsNumeral (tail number.toList)

instance (number : String) : Decidable (Readable number) :=
  inferInstanceAs (Decidable (_ → _))

/-- From a readable text a sequence is read, or none if there is none. -/
theorem Readable.sequenceOf (h : Readable number) :
    ∃ r : Option Nat, sequenceOf number = .ok (r.map Nat.cast) := by
  unfold EntryNumber.sequenceOf
  dsimp only
  split
  · next like =>
      obtain ⟨something, -⟩ := Bool.and_eq_true_iff.mp like
      obtain ⟨n, value⟩ := Text.digitsValue?_of_isDecimal (h like).1
      rw [(h like).readInt (by simpa using something) value]
      exact ⟨some n, rfl⟩
  · exact ⟨none, rfl⟩

/-- From a text that is not readable nothing is read, and the fault names what stands behind its last
    hyphen. -/
theorem sequenceOf_of_not_readable (h : ¬ Readable number) :
    ∃ f, sequenceOf number = .error (.value (.number (String.ofList (tail number.toList)) f)) := by
  obtain ⟨like, strange⟩ := Classical.not_imp.mp h
  obtain ⟨-, each⟩ := Bool.and_eq_true_iff.mp like
  obtain ⟨f, hf⟩ := Text.readInt_of_not_isNumeral (List.all_eq_true.mp each) strange
  refine ⟨f, ?_⟩
  unfold sequenceOf
  dsimp only
  rw [if_pos like, hf]

/-- The reader answers for readable texts and for no others. -/
theorem sequenceOf_answers_iff (number : String) :
    (∃ r : Option Nat, sequenceOf number = .ok (r.map Nat.cast)) ↔ Readable number := by
  refine ⟨fun ⟨r, hr⟩ => ?_, Readable.sequenceOf⟩
  by_contra unreadable
  obtain ⟨f, hf⟩ := sequenceOf_of_not_readable unreadable
  rw [hf] at hr
  cases hr

example : Readable "JE-٣" ∧ Readable "JE-x²" ∧ ¬ Readable "JE-²" := by decide +kernel

/-! ## Numbers of entries -/

/-- Behind the last hyphen of a number stand the digits of its sequence. -/
theorem tail_format_natCast (p : String) (n : Nat) :
    tail (format p n).toList = (Text.padZeros 3 (Text.natText n)).toList := by
  rw [tail_format p (Int.natCast_nonneg n), sequenceText, if_neg (by omega), Int.natAbs_natCast]

theorem length_tail_format (p : String) (n : Nat) : (tail (format p n).toList).length =
    3 - (Text.natText n).length + (Text.natText n).length := by
  rw [tail_format_natCast, Text.toList_padZeros, List.length_append, List.length_replicate,
    String.length_toList]

theorem isDecimal_of_mem_tail_format (p : String) (n : Nat) {c : Char}
    (hc : c ∈ tail (format p n).toList) : Text.isDecimal c = true := by
  rw [tail_format_natCast] at hc
  exact Text.isDecimal_of_isDigit (Text.isDigit_of_mem_padZeros hc)

theorem tail_format_ne_nil (p : String) (n : Nat) : tail (format p n).toList ≠ [] := by
  refine List.length_pos_iff.mp ?_
  rw [length_tail_format]
  omega

theorem allDigitLike_tail_format (p : String) (n : Nat) :
    Text.allDigitLike (tail (format p n).toList) = true := by
  rw [Text.allDigitLike, Bool.and_eq_true, List.all_eq_true]
  refine ⟨by simpa using tail_format_ne_nil p n, fun c hc => ?_⟩
  exact Text.isDigitLike_of_isDecimal (isDecimal_of_mem_tail_format p n hc)

/-- A number can be read exactly if its sequence has not too many digits. -/
theorem readable_format_iff (p : String) (n : Nat) :
    Readable (format p n) ↔ (Text.natText n).length ≤ Text.maxNumberDigits := by
  have hlength := length_tail_format p n
  have three : 3 ≤ Text.maxNumberDigits := by decide
  constructor
  · intro h
    have short := (h (allDigitLike_tail_format p n)).2
    omega
  · intro short _
    exact ⟨fun c hc => isDecimal_of_mem_tail_format p n hc, by omega⟩

/-- A sequence of 64 bits has not too many digits. -/
theorem length_natText_le {n : Nat} (h : n < 2 ^ 63) :
    (Text.natText n).length ≤ Text.maxNumberDigits := by
  have digits : (Text.natText n).length ≤ 19 := (Nat.length_repr_le_iff (by decide)).mpr (by omega)
  exact digits.trans (by decide)

/-- The sequence of a number that can be read is read back from it. -/
theorem sequenceOf_format_natCast (p : String) {n : Nat}
    (short : (Text.natText n).length ≤ Text.maxNumberDigits) :
    sequenceOf (format p n) = .ok (some (n : Int)) := by
  have like := allDigitLike_tail_format p n
  have numeral := (readable_format_iff p n).mpr short like
  have value : Text.digitsValue? (tail (format p n).toList) = some n := by
    rw [tail_format_natCast, Text.digitsValue?_of_isDigit fun c hc => Text.isDigit_of_mem_padZeros hc,
      Text.digitsNumber_padZeros]
  unfold sequenceOf
  dsimp only
  rw [if_pos like, numeral.readInt (tail_format_ne_nil p n) value]

/-- A sequence is read back from its number exactly if it has not too many digits; and a number tells its
    word, its day and its sequence, whatever hyphens and digits there are in the word. -/
theorem number_decodes :
    (∀ (p : String) (n : Nat), sequenceOf (format p n) = .ok (some (n : Int)) ↔
      (Text.natText n).length ≤ Text.maxNumberDigits) ∧
    Function.Injective fun x : String × Date × Nat => format (dayPrefix x.1 x.2.1) x.2.2 := by
  constructor
  · intro p n
    refine ⟨fun h => ?_, sequenceOf_format_natCast p⟩
    exact (readable_format_iff p n).mp ((sequenceOf_answers_iff _).mp ⟨some n, h⟩)
  · rintro ⟨word, d, n⟩ ⟨word', d', m⟩ h
    obtain ⟨hday, hsequence⟩ := format_cancel (Int.natCast_nonneg n) (Int.natCast_nonneg m) h
    obtain ⟨rfl, rfl⟩ := dayPrefix_cancel hday
    obtain rfl := Int.natCast_inj.mp hsequence
    rfl

end EntryNumber

end Bookkeeping
