import Bookkeeping.Proofs.Acceptance
import Bookkeeping.Proofs.Invisible
import Bookkeeping.Proofs.NumberSupply
import Bookkeeping.Proofs.Retries

set_option autoImplicit false

/-! # Two ways to post

An entry is posted as it is created, or it is stored as a draft that a later call posts. The later call
reads the lines back and checks them again, and with amounts that the store sums exactly it finds the
values that were given (`Posting.SumExactly.sameValues`), so what was accepted is accepted again. After
every run both ways fail alike for want of a number, or leave the same store but for the note about the
last update of the new entry (`ways_to_post_agree`). -/

namespace Bookkeeping

variable {clock : Clock} {w : World} {s : Store} {id : Uuid} {now : Instant} {user : String}
  {old : StoredEntry}

/-! ## Posting a draft -/

namespace Journal

open Procedure

/-- A stored entry is read as it is shown. -/
theorem looks_getEntry (idle : w.pending = none) (found : w.store.stored? id = some old)
    (known : old.strange = none) : (getEntry id).Looks clock w old.shown := by
  have read : w.store.entry? id = .ok (some old.shown) := by
    rw [Store.entry?, found, Store.readFound, StoredEntry.read, known]
    rfl
  have looked : (perform (.entry id)).Looks clock w (some old.shown) :=
    looks_perform idle (congrArg (·, w) read)
  exact looked.bind rfl

/-- A draft is moved to another status when nothing disturbs it. -/
theorem exec_transition {schedule : List (Option Disturbance)} (ready : w.Ready s schedule)
    (race : w.faults.race = none) (writes : w.faults.writes = none)
    (found : s.stored? id = some old) (draft : old.isIn .draft = true) (target : EntryStatus)
    (user : String) (now : Instant) :
    ∃ v, (perform (.transition id .draft target user)).exec (.ok now) w =
        (.ok (some (old.moved target user now).shown), v) ∧
      v.store = s.updateStored id fun e => if e.isIn .draft then e.moved target user now else e := by
  have answer : (s.transition now id .draft target user).answer =
      some (old.moved target user now).shown := by
    simp [Store.transition, found, draft]
  have something : (s.transition now id .draft target user).statements ≠ [] := by
    simp [Store.transition]
  have due : Strike.due (s.transition now id .draft target user).statements.length none = none := rfl
  obtain ⟨v, hwrite, hv⟩ := World.Ready.write_through something rfl ready
    (.always WriteFault.plain) due
  have performed : Op.exec (.ok now) (.transition id .draft target user) w =
      (.ok (some (old.moved target user now).shown), v) := by
    rw [Op.exec, ready.pending, ← answer, ← hwrite]
    simp only [Op.perform]
    rw [World.interfere, race]
    dsimp only
    rw [writes, ready.store]
    rfl
  exact ⟨v, (performs_perform performed).exec, hv.store⟩

/-- A draft is posted when its lines pass the check and nothing disturbs the call. -/
theorem exec_postEntry {schedule : List (Option Disturbance)} (ready : w.Ready s schedule)
    (race : w.faults.race = none) (writes : w.faults.writes = none)
    (found : s.stored? id = some old) (draft : old.isIn .draft = true)
    (accepted : s.Accepts old.entry.company (old.shown.lines.map Line.toPosting)) (user : String)
    (now : Instant) :
    ∃ v, (postEntry id user).exec (.ok now) w = (.ok (old.moved .posted user now).shown, v) ∧
      v.store = s.updateStored id fun e => if e.isIn .draft then e.moved .posted user now else e := by
  obtain ⟨known, status⟩ := StoredEntry.isIn_iff.mp draft
  obtain ⟨few, totals, accepted⟩ := accepted
  have isDraft : requireDraft old.shown "posted" = pure () := by
    have status : old.shown.status = .draft := status
    rw [requireDraft, status]
    rfl
  have unposted : (old.shown.status == .posted) = false := by
    show (old.entry.status == .posted) = false
    rw [status]
    rfl
  obtain ⟨rfl, idle, lines, -⟩ := ready
  have read : (getEntry id).Looks (.ok now) w old.shown := looks_getEntry idle found known
  -- the check leaves notes, and the store as it is
  let noted : World := { w with
    log := (w.store.checkLines old.entry.company (old.shown.lines.map Line.toPosting)).notes.reverse ++
      w.log }
  have checked : (validateLines (old.shown.lines.map Line.toPosting) old.shown.company).exec (.ok now) w =
      (.ok totals, noted) := (performs_validateLines idle few accepted).exec
  have ready : noted.Ready w.store w.faults.creations := ⟨rfl, idle, lines, rfl⟩
  obtain ⟨v, moved, hv⟩ := exec_transition ready race writes found draft .posted user now
  refine ⟨v.note ⟨.info, .services, "Posted journal entry " ++ old.entry.number⟩,
    (exec_bind_ok read).trans ?_, hv⟩
  dsimp only
  rw [unposted, if_neg Bool.false_ne_true, isDraft]
  exact (exec_bind_ok checked).trans (exec_bind_ok moved)

end Journal

/-- A draft is posted when its lines pass the check and nothing disturbs the call. -/
theorem Session.run_postEntry {x : Session} (call : x.call = .postEntry id user)
    (writes : x.writes = none) (lines : x.lines = none) (time : x.setting.clock = .ok now)
    (found : s.stored? id = some old) (draft : old.isIn .draft = true)
    (accepted : s.Accepts old.entry.company (old.shown.lines.map Line.toPosting)) :
    x.run s = (.ok (.entry (old.moved .posted user now).shown),
      s.updateStored id fun e => if e.isIn .draft then e.moved .posted user now else e) := by
  have ready : (x.world s).Ready s x.creations := ⟨rfl, rfl, lines, rfl⟩
  obtain ⟨v, hexec, hv⟩ := Journal.exec_postEntry ready rfl writes found draft accepted user now
  have answered : (x.call.procedure x.setting).exec x.setting.clock (x.world s) =
      (.ok (.entry (old.moved .posted user now).shown), v) := by
    rw [call, time]
    exact (Procedure.exec_bind_ok hexec).trans rfl
  rw [Session.run, Procedure.run, answered, ← hv]
  rfl

/-! ## Lines that are read back -/

namespace Decimal.SumExactly

variable {given : List Decimal} {a : Decimal} {c : Cell}

/-- An amount that is summed exactly is read back with its value. -/
theorem holds (h : SumExactly given) (plain : ∀ a ∈ given, a.isFinite ∧ 0 ≤ a.value) (ha : a ∈ given)
    (stored : Cell.ofDecimal? a = some c) : c.toDecimal.Holds a.value := by
  obtain ⟨kept, values⟩ := h.kept plain (List.singleton_subperm_iff.mpr ha) (.cons stored .nil)
  simp only [List.map_cons, List.map_nil, List.cons.injEq, and_true] at values
  exact ⟨(kept.each (List.mem_singleton_self c)).1, values⟩

/-- Amounts that are summed exactly are below `2 ^ 53` in total. -/
theorem sum_lt (h : SumExactly given) (plain : ∀ a ∈ given, a.isFinite ∧ 0 ≤ a.value) (cells : List Cell)
    (stored : List.Forall₂ (fun a c => Cell.ofDecimal? a = some c) given cells) :
    (given.map Decimal.value).sum < 2 ^ 53 := by
  obtain ⟨kept, values⟩ := h.kept plain (List.Subperm.refl given) stored
  rw [← values]
  exact kept.sum_lt

end Decimal.SumExactly

namespace Posting

open PostingLine (SameValues)

/-- The store sums the debits of the lines exactly, and their credits. -/
structure SumExactly (lines : List PostingLine) : Prop where
  debits : Decimal.SumExactly (lines.map PostingLine.debit)
  credits : Decimal.SumExactly (lines.map PostingLine.credit)

namespace SumExactly

variable {ls : List (Line Decimal)} {cells : List (Line Cell)}
  (h : SumExactly (ls.map Line.toPosting)) (oneSided : ∀ l ∈ ls, OneSided l.toPosting)
  (stored : List.Forall₂ Line.StoredAs ls cells)

include oneSided

theorem plain :
    (∀ a ∈ (ls.map Line.toPosting).map PostingLine.debit, a.isFinite ∧ 0 ≤ a.value) ∧
      ∀ a ∈ (ls.map Line.toPosting).map PostingLine.credit, a.isFinite ∧ 0 ≤ a.value := by
  simp only [List.map_map, List.mem_map, Function.comp_apply, forall_exists_index, and_imp,
    forall_apply_eq_imp_iff₂]
  exact ⟨fun l hl => ⟨(oneSided l hl).finite.1, (oneSided l hl).debit⟩,
    fun l hl => ⟨(oneSided l hl).finite.2, (oneSided l hl).credit⟩⟩

include h stored

/-- Stored lines have the values of those that were given. -/
theorem sameValues :
    List.Forall₂ SameValues (ls.map Line.toPosting)
      ((cells.map (Line.map Cell.toDecimal)).map Line.toPosting) := by
  obtain ⟨debits, credits⟩ := plain oneSided
  rw [List.map_map, List.forall₂_map_left_iff, List.forall₂_map_right_iff]
  have both := (List.forall₂_and_left _ _).mpr ⟨fun l hl => hl, stored⟩
  refine both.imp ?_
  rintro l c ⟨hl, hc⟩
  refine ⟨hc.account, h.debits.holds debits ?_ hc.debit, h.credits.holds credits ?_ hc.credit⟩
  · exact List.mem_map_of_mem (List.mem_map_of_mem hl)
  · exact List.mem_map_of_mem (List.mem_map_of_mem hl)

theorem inCents : InCents (ls.map Line.toPosting) := by
  obtain ⟨debits, credits⟩ := plain oneSided
  have hdebits := h.debits.sum_lt debits (cells.map Line.debit) (by
    rw [List.map_map, List.forall₂_map_left_iff, List.forall₂_map_right_iff]
    exact stored.imp fun _ _ hc => hc.debit)
  have hcredits := h.credits.sum_lt credits (cells.map Line.credit) (by
    rw [List.map_map, List.forall₂_map_left_iff, List.forall₂_map_right_iff]
    exact stored.imp fun _ _ hc => hc.credit)
  rw [List.map_map] at hdebits hcredits
  refine ⟨fun l hl => ⟨?_, ?_⟩, hdebits.trans (by norm_num), hcredits.trans (by norm_num)⟩
  · exact h.debits.wholeCents _ (List.mem_map_of_mem hl)
  · exact h.credits.wholeCents _ (List.mem_map_of_mem hl)

end SumExactly

end Posting

/-- What an entry is read back as is accepted when the entry was. -/
theorem Store.Accepts.reread {s' : Store} {company : Uuid} {lines : List PostingLine}
    {cells : List (Line Cell)} (h : s.Accepts company lines) (exact : Posting.SumExactly lines)
    (stored : storeLines (numberLines 1 lines) = some cells) (accounts : s'.accounts = s.accounts) :
    s'.Accepts company ((cells.map (Line.map Cell.toDecimal)).map Line.toPosting) := by
  have oneSided (l) (hl : l ∈ numberLines 1 lines) : Posting.OneSided l.toPosting :=
    h.passed.oneSided (List.mem_map_of_mem hl)
  have stored := storeLines_storedAs stored
  rw [← map_toPosting_numberLines 1 lines] at h exact
  exact h.congr accounts (exact.inCents oneSided stored) (exact.sameValues oneSided stored)

/-! ## Two ways -/

namespace Session

variable (setting : Setting)

/-- The session that creates an entry, posted at once or as a draft. -/
def creating (h : EntryHeader) (lines : List PostingLine) (post : Bool) : Session where
  call := .createEntry h lines post
  setting

/-- The session that posts an entry. -/
def posting (id : Uuid) (user : String) : Session where
  call := .postEntry id user
  setting

end Session

/-- What both ways to post an entry come to after `calls` calls, on the store `s` of that run. -/
inductive PostsAlike (setting : Setting) (h : EntryHeader) (lines : List PostingLine) (s : Store)
    (calls : Nat) : Prop where
  /-- No number can be allocated, and both ways fail at their first call. -/
  | refused {f : Failure}
      (cause : Text.isPatternTooLong (EntryNumber.dayPrefix setting.numberWord h.date ++ "-%") = true ∨
        2 ^ 63 ≤ calls + 2)
      (direct : (Session.creating setting h lines true).run s = (.error f, s))
      (drafting : (Session.creating setting h lines false).run s = (.error f, s))
  /-- Both ways succeed, and leave the same store but for the note that the draft was updated. -/
  | posted {now : Instant} {e draft posted : Entry Decimal} {s₁ s₂ s₃ : Store}
      (clock : setting.clock = .ok now)
      (direct : (Session.creating setting h lines true).run s = (.ok (.entry e), s₁))
      (drafting : (Session.creating setting h lines false).run s = (.ok (.entry draft), s₂))
      (posting : (Session.posting setting draft.id h.createdBy).run s₂ = (.ok (.entry posted), s₃))
      (same : s₃ = s₁.updateStored e.id (StoredEntry.noted (some h.createdBy) (some now)))
      (read : ∀ x : Session, x.call = .getEntry e.id →
        (x.run s₁).1 = .ok (.entry { posted with updatedBy := none, updatedAt := none }) ∧
          (x.run s₃).1 = .ok (.entry posted))
      (reports : ∀ clock clock', Reports.Alike clock clock' { store := s₁ } { store := s₃ })

namespace PostsAlike

variable {setting : Setting} {h : EntryHeader} {lines : List PostingLine} (sound : s.Sound)
  (counted : s.Counted) (time : setting.clock = .ok now) (accepted : s.Accepts h.company lines)

include sound counted time accepted

/-- Nothing but a missing number keeps accepted lines from being written. -/
theorem possible (post : Bool) : (⟨setting, h, lines, post⟩ : Creation).Possible s := by
  refine Creation.possible_of_counted counted sound accepted fun f hf => ?_
  cases time.symm.trans hf

/-- Without a number both ways fail. -/
theorem of_unallocated {f : Failure} {calls : Nat}
    (unallocated : s.allocate h.company (EntryNumber.dayPrefix setting.numberWord h.date) = .error f)
    (cause : Text.isPatternTooLong (EntryNumber.dayPrefix setting.numberWord h.date ++ "-%") = true ∨
      2 ^ 63 ≤ calls + 2) : PostsAlike setting h lines s calls :=
  .refused cause
    (Creation.run_unallocated (possible sound counted time accepted true) accepted time unallocated)
    (Creation.run_unallocated (possible sound counted time accepted false) accepted time unallocated)

/-- With a number both ways succeed, and leave the same store. -/
theorem of_allocated (exact : Posting.SumExactly lines) {q : Write Int} {calls : Nat}
    (allocated : s.allocate h.company (EntryNumber.dayPrefix setting.numberWord h.date) = .ok q) :
    PostsAlike setting h lines s calls := by
  obtain ⟨t, ht⟩ := Store.allocate_applies allocated
  obtain ⟨cells, stored, new, direct⟩ := Creation.run_allocated
    (possible sound counted time accepted true) accepted time allocated ht
  obtain ⟨cells', stored', -, drafting⟩ := Creation.run_allocated
    (possible sound counted time accepted false) accepted time allocated ht
  obtain rfl := Option.some.inj (stored.symm.trans stored')
  -- what is stored of the new entry, as it is created posted and as a draft
  let id := Uuid.issue s.issued
  let number := EntryNumber.format (EntryNumber.dayPrefix setting.numberWord h.date) q.answer
  let a : Entry Cell := Store.newEntry id now number h .posted (some h.createdBy) cells
  let b : Entry Cell := Store.newEntry id now number h .draft none cells
  let s₁ := s.withEntry t.counters a q.answer
  let s₂ := s.withEntry t.counters b q.answer
  let s₃ := s₁.updateStored id (StoredEntry.noted (some h.createdBy) (some now))
  have same : (s₂.updateStored id fun e => if e.isIn .draft then e.moved .posted h.createdBy now else e) =
      s₃ := by
    have right : s₃ = _ := Store.updateStored_withEntry (e := a) new
      (StoredEntry.noted (some h.createdBy) (some now))
    rw [right]
    exact Store.updateStored_withEntry (e := b) new _
  have found : s₂.stored? id = some { entry := b, sequence := q.answer, written := s.writes } :=
    Store.stored?_withEntry new
  have accepted₂ : s₂.Accepts h.company ((cells.map (Line.map Cell.toDecimal)).map Line.toPosting) :=
    accepted.reread exact stored rfl
  have posting := Session.run_postEntry (x := .posting setting id h.createdBy) rfl rfl rfl time found rfl
    accepted₂
  rw [same] at posting
  have sound₁ : s₁.Sound := sound.run direct
  have sound₃ : s₃.Sound := (sound.run drafting).run posting
  refine .posted time direct drafting posting rfl (fun x call => ⟨?_, ?_⟩) fun clock clock' => ?_
  · have ha : { entry := a, sequence := q.answer, written := s.writes } ∈ s₁.entries :=
      List.mem_append_right _ (List.mem_singleton_self _)
    exact x.run_getEntry sound₁ ha call
  · have ha : _ ∈ s₃.entries := (sound₁.mem_updateStored (Store.stored?_withEntry new)).mpr (.inl rfl)
    exact x.run_getEntry sound₃ ha call
  · refine StoredEntry.Notes.reports (fun e => ?_) rfl rfl rfl rfl
    by_cases hid : e.entry.id = id
    · exact ⟨_, _, if_pos (beq_iff_eq.mpr hid)⟩
    · exact ⟨e.entry.updatedBy, e.entry.updatedAt, if_neg (by simpa using hid)⟩

end PostsAlike

/-- After every run, what the check accepts is posted at once or by way of a draft with the same result,
    when its amounts are summed exactly. -/
theorem ways_to_post_agree (sessions : List Session) (setting : Setting) (h : EntryHeader)
    (lines : List PostingLine) (time : setting.clock = .ok now)
    (accepted : (Store.after sessions).Accepts h.company lines) (exact : Posting.SumExactly lines) :
    PostsAlike setting h lines (Store.after sessions) sessions.length := by
  have sound := Store.after_sound sessions
  have counted := Store.after_counted sessions
  cases hq : (Store.after sessions).allocate h.company
      (EntryNumber.dayPrefix setting.numberWord h.date) with
  | ok q => exact .of_allocated sound counted time accepted exact hq
  | error f =>
      refine .of_unallocated sound counted time accepted hq ?_
      by_contra supplied
      rw [not_or, Bool.not_eq_true, Nat.not_le] at supplied
      obtain ⟨n, hn, fits⟩ := Store.number_supplied sessions supplied.2 h.company supplied.1
      obtain ⟨q, allocated⟩ := Store.allocate_of_peekSequence hn fits
      cases hq.symm.trans allocated

/-- The amounts of a booking of 100 are whole numbers. -/
theorem sumExactly_hundred : Posting.SumExactly Creation.hundred.lines := by
  have hundred : (Decimal.finite false 100 0).value = 100 := by norm_num [Decimal.value_finite]
  refine ⟨.whole (fun a ha => ?_) ?_, .whole (fun a ha => ?_) ?_⟩
  · simp only [Creation.hundred, List.map_cons, List.map_nil, List.mem_cons, List.not_mem_nil,
      or_false] at ha
    rcases ha with rfl | rfl
    · exact ⟨100, by rw [hundred]; norm_num⟩
    · exact ⟨0, by simp⟩
  · norm_num [Creation.hundred, hundred]
  · simp only [Creation.hundred, List.map_cons, List.map_nil, List.mem_cons, List.not_mem_nil,
      or_false] at ha
    rcases ha with rfl | rfl
    · exact ⟨0, by simp⟩
    · exact ⟨100, by rw [hundred]; norm_num⟩
  · norm_num [Creation.hundred, hundred]

/-- A first booking of 100 can be posted in both ways. -/
theorem ways_to_post_agree_hundred :
    (Store.after [Session.opensTwoAccounts]).Accepts ⟨1⟩ Creation.hundred.lines ∧
      (((Creation.hundred.under []).run (Store.after [Session.opensTwoAccounts])).1.isOk = true) ∧
      PostsAlike Creation.hundred.setting Creation.hundred.header Creation.hundred.lines
        (Store.after [Session.opensTwoAccounts]) 1 := by
  have accepted : (Store.after [Session.opensTwoAccounts]).Accepts ⟨1⟩ Creation.hundred.lines :=
    ⟨by decide, (.finite false 100 0, .finite false 100 0), by decide +kernel⟩
  refine ⟨accepted, by decide +kernel, ?_⟩
  exact ways_to_post_agree [Session.opensTwoAccounts] _ _ _ rfl accepted sumExactly_hundred

/-! ## Words that are too long -/

/-- A word of more bytes than a pattern may have. -/
def longWord : String := String.ofList (List.replicate 65536 'J')

theorem utf8ByteSize_replicate (n : Nat) : (String.ofList (List.replicate n 'J')).utf8ByteSize = n := by
  induction n with
  | zero => rfl
  | succ n ih =>
      rw [List.replicate_succ', String.ofList_append, String.utf8ByteSize_append, ih]
      rfl

theorem isPatternTooLong_longWord (d : Date) :
    Text.isPatternTooLong (EntryNumber.dayPrefix longWord d ++ "-%") = true := by
  have hsize : longWord.utf8ByteSize = 65536 := utf8ByteSize_replicate 65536
  rw [Text.isPatternTooLong, decide_eq_true_iff, Text.maxPattern, EntryNumber.dayPrefix,
    String.utf8ByteSize_append, String.utf8ByteSize_append, String.utf8ByteSize_append, hsize]
  omega

/-- What the services are told under the long word. -/
def longSetting : Setting := { clock := .ok default, numberWord := longWord }

/-- A company opens two accounts and drafts a booking of 100 under the long word. -/
def draftsUnderLongWord : List Session :=
  [.opensTwoAccounts, .creating longSetting Creation.hundred.header Creation.hundred.lines false]

/-- The same booking on another day. -/
def hundredLater : EntryHeader := { Creation.hundred.header with date := laterDay }

/-- The draft under the long word is stored, and its day has the only counter. -/
theorem after_draftsUnderLongWord :
    (Store.after draftsUnderLongWord).Accepts ⟨1⟩ Creation.hundred.lines ∧
      (∃ a ∈ (Store.after draftsUnderLongWord).entries, a.entry.company = ⟨1⟩) ∧
      (Store.after draftsUnderLongWord).counter? ⟨1⟩ (EntryNumber.dayPrefix longWord laterDay) = none := by
  let s := Store.after [Session.opensTwoAccounts]
  have accepted : s.Accepts ⟨1⟩ Creation.hundred.lines :=
    ⟨by decide, (.finite false 100 0, .finite false 100 0), by decide +kernel⟩
  have possible : (⟨longSetting, Creation.hundred.header, Creation.hundred.lines, false⟩ :
      Creation).Possible s :=
    PostsAlike.possible (Store.after_sound _) (Store.after_counted _) rfl accepted false
  have first := Store.peekSequence_of_empty (s := s) (by decide +kernel) (by decide +kernel) ⟨1⟩
    (EntryNumber.dayPrefix longWord firstDay)
  obtain ⟨counters, cells, allocation, -, hrun⟩ := Creation.run_undisturbed possible accepted rfl first
    (by decide)
  have hafter : Store.after draftsUnderLongWord = _ := (Store.after_concat [Session.opensTwoAccounts] _).trans
    (congrArg Prod.snd hrun)
  rw [hafter]
  refine ⟨accepted.of_accounts_eq rfl,
    ⟨_, List.mem_append_right _ (List.mem_singleton_self _), rfl⟩, ?_⟩
  have other : ¬ ((⟨1⟩ : Uuid) = ⟨1⟩ ∧
      EntryNumber.dayPrefix longWord laterDay = EntryNumber.dayPrefix longWord firstDay) := by
    rintro ⟨-, h⟩
    have hday := EntryNumber.dayPrefix_injective h
    revert hday
    decide
  refine (allocation.others _ _ other).trans ?_
  have none : s.counters = [] := by decide +kernel
  rw [Store.counter?, none]
  rfl

/-- Under the long word the numbers of a second day cannot be looked through: what the check accepts is
    posted in neither way. -/
theorem ways_to_post_refused :
    (Store.after draftsUnderLongWord).Accepts hundredLater.company Creation.hundred.lines ∧
      Posting.SumExactly Creation.hundred.lines ∧
      (Session.creating longSetting hundredLater Creation.hundred.lines true).run
          (Store.after draftsUnderLongWord) =
        (.error Store.longPattern, Store.after draftsUnderLongWord) ∧
      (Session.creating longSetting hundredLater Creation.hundred.lines false).run
          (Store.after draftsUnderLongWord) =
        (.error Store.longPattern, Store.after draftsUnderLongWord) := by
  obtain ⟨accepted, ⟨a, ha, hcompany⟩, counter⟩ := after_draftsUnderLongWord
  have unallocated := Store.allocate_of_longPattern (isPatternTooLong_longWord laterDay) counter ha hcompany
  have possible (post : Bool) : (⟨longSetting, hundredLater, Creation.hundred.lines, post⟩ :
      Creation).Possible (Store.after draftsUnderLongWord) :=
    PostsAlike.possible (Store.after_sound _) (Store.after_counted _) rfl accepted post
  exact ⟨accepted, sumExactly_hundred,
    Creation.run_unallocated (possible true) accepted rfl unallocated,
    Creation.run_unallocated (possible false) accepted rfl unallocated⟩

end Bookkeeping
