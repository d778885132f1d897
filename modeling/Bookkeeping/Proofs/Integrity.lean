import Bookkeeping.Proofs.PostingCheck
import Bookkeeping.Proofs.Runs

set_option autoImplicit false

/-! # Accounts and the lines on them

The store itself only refuses a second account with the same code. Everything else that ties accounts,
entries and lines together is kept by the calls: it holds at the start and each step keeps it
(`Store.Chartered.step`), so it holds after every run (`registry_integrity`). What becomes of an account
is followed apart from that, because it is about two times (`Store.KeepsAccounts`). -/

namespace Bookkeeping

variable {clock : Clock} {word : String} {s s' : Store} {ev : Event}

/-! ## Lines of entries -/

theorem map_number_numberLines (n : Nat) (lines : List PostingLine) :
    (numberLines n lines).map Line.number = List.range' n lines.length := by
  induction lines generalizing n with
  | nil => rfl
  | cons l rest ih => rw [numberLines, List.map_cons, ih, List.length_cons, List.range'_succ]

theorem map_account_numberLines (n : Nat) (lines : List PostingLine) :
    (numberLines n lines).map Line.account = lines.map PostingLine.account := by
  induction lines generalizing n with
  | nil => rfl
  | cons l rest ih => rw [numberLines, List.map_cons, List.map_cons, ih]

namespace Store

theorem hasLines_of_mem {e : StoredEntry} {l : Line Cell} (he : e ∈ s.entries)
    (hl : l ∈ e.entry.lines) : s.hasLines l.account = true := by
  rw [hasLines, List.any_eq_true]
  refine ⟨e, he, ?_⟩
  rw [List.any_eq_true]
  exact ⟨l, hl, beq_self_eq_true _⟩

/-- Accepted lines are on accounts of the company. -/
theorem Accepts.accounts {company : Uuid} {lines : List PostingLine} (h : s.Accepts company lines)
    {l : PostingLine} (hl : l ∈ lines) :
    ∃ a ∈ s.accounts, a.id = l.account ∧ a.company = company := by
  obtain ⟨-, t, ht⟩ := h
  obtain ⟨a, found, own, -⟩ := Posting.check_accounts ht hl
  have hmem := List.mem_of_find?_eq_some found
  have hid := List.find?_some found
  exact ⟨a, List.mem_of_mem_filter hmem, beq_iff_eq.mp hid, own⟩

/-- After a step, the lines of an entry are those of an entry before it, or were accepted in it. -/
theorem Sound.lines_step (sound : s.Sound) (hs : s.Step clock word ev s') :
    ∀ e' ∈ s'.entries,
      (∃ e ∈ s.entries, e'.entry.company = e.entry.company ∧ e'.entry.lines = e.entry.lines) ∨
        ∃ lines, s.Accepts e'.entry.company lines ∧
          storeLines (numberLines 1 lines) = some e'.entry.lines := by
  intro e' he'
  cases hs with
  | nothing | accountsOpened | accountKept | accountSaved | accountDeleted =>
      exact .inl ⟨e', he', rfl, rfl⟩
  | entryCreated accepted clock_eq allocation number_eq status_eq postedBy_eq stored new free =>
      rcases List.mem_append.mp he' with he | he
      · exact .inl ⟨e', he, rfl, rfl⟩
      · rw [List.mem_singleton.mp he]
        exact .inr ⟨_, accepted, stored⟩
  | draftEdited found draft accepted clock_eq stored =>
      rcases (sound.mem_updateStored found).mp he' with rfl | ⟨he, -⟩
      · refine .inr ⟨_, accepted, ?_⟩
        rw [StoredEntry.rewritten_lines]
        exact stored
      · exact .inl ⟨e', he, rfl, rfl⟩
  | entryPosted found draft accepted clock_eq =>
      rcases (sound.mem_updateStored found).mp he' with rfl | ⟨he, -⟩
      · rw [if_pos draft]
        exact .inl ⟨_, (stored?_some found).1, rfl, rfl⟩
      · exact .inl ⟨e', he, rfl, rfl⟩
  | entryVoided found draft clock_eq =>
      rcases (sound.mem_updateStored found).mp he' with rfl | ⟨he, -⟩
      · rw [if_pos draft]
        exact .inl ⟨_, (stored?_some found).1, rfl, rfl⟩
      · exact .inl ⟨e', he, rfl, rfl⟩
  | entryDeleted found unposted => exact .inl ⟨e', List.mem_of_mem_filter he', rfl, rfl⟩

/-- No step changes both the accounts and the entries. -/
theorem Step.accounts_or_entries (hs : s.Step clock word ev s') :
    s'.accounts = s.accounts ∨ s'.entries = s.entries := by
  cases hs with
  | nothing | accountsOpened | accountKept | accountSaved | accountDeleted => exact .inr rfl
  | entryCreated | draftEdited | entryPosted | entryVoided | entryDeleted => exact .inl rfl

end Store

/-! ## Accounts at two times -/

/-- What an account `a` may have become later: `a'`. -/
structure Account.Continues (a a' : Account) : Prop where
  id : a'.id = a.id
  company : a'.company = a.company
  isSystem : a'.isSystem = a.isSystem
  archived : a.isArchived → a'.isArchived

theorem Account.Continues.refl (a : Account) : a.Continues a := ⟨rfl, rfl, rfl, fun h => h⟩

theorem Account.Continues.trans {a b c : Account} (hab : a.Continues b) (hbc : b.Continues c) :
    a.Continues c :=
  ⟨hbc.id.trans hab.id, hbc.company.trans hab.company, hbc.isSystem.trans hab.isSystem,
    fun h => hbc.archived (hab.archived h)⟩

/-- An account with lines keeps its code and its type. -/
structure Account.SavedAs (used : Bool) (a a' : Account) : Prop extends a.Continues a' where
  code : used → a'.code = a.code
  type : used → a'.type = a.type

theorem Account.SavedAs.refl (used : Bool) (a : Account) : a.SavedAs used a :=
  ⟨.refl a, fun _ => rfl, fun _ => rfl⟩

namespace Store

/-- Every account of `t` was one of `s` or is new, and every one of `s` is still there or was no system
    account and had no lines. -/
structure KeepsAccounts (s t : Store) : Prop where
  issued : s.issued ≤ t.issued
  forth : ∀ a ∈ s.accounts, (∃ a' ∈ t.accounts, a.SavedAs (s.hasLines a.id) a') ∨
    (a.isSystem = false ∧ s.hasLines a.id = false)
  back : ∀ a' ∈ t.accounts, (∃ a ∈ s.accounts, a.Continues a') ∨
    ∃ k, s.issued ≤ k ∧ k < t.issued ∧ a'.id = Uuid.issue k

theorem KeepsAccounts.same (accounts : s'.accounts = s.accounts) (issued : s.issued ≤ s'.issued) :
    s.KeepsAccounts s' where
  issued := issued
  forth a ha := .inl ⟨a, accounts ▸ ha, .refl _ a⟩
  back a ha := .inl ⟨a, accounts ▸ ha, .refl a⟩

/-! ## The invariant -/

/-- Accounts are told apart, none is both archived and active, system accounts are not archived, and the
    lines of every entry are numbered from one on and stand on accounts of its company. -/
structure Chartered (s : Store) : Prop where
  apart : s.accounts.Pairwise Account.Apart
  issued : ∀ a ∈ s.accounts, ∃ k < s.issued, a.id = Uuid.issue k
  archived : ∀ a ∈ s.accounts, a.isArchived → a.isActive = false
  system : ∀ a ∈ s.accounts, a.isSystem → a.isArchived = false
  owned : ∀ e ∈ s.entries, ∀ l ∈ e.entry.lines,
    ∃ a ∈ s.accounts, a.id = l.account ∧ a.company = e.entry.company
  numbered : ∀ e ∈ s.entries, e.entry.lines.map Line.number = List.range' 1 e.entry.lines.length

theorem Chartered.empty : ({} : Store).Chartered :=
  ⟨.nil, by simp, by simp, by simp, by simp, by simp⟩

theorem Chartered.ids_nodup (h : s.Chartered) : (s.accounts.map Account.id).Nodup := by
  rw [List.nodup_iff_pairwise_ne, List.pairwise_map]
  exact h.apart.imp fun hab => hab.id

theorem Chartered.eq_of_id (h : s.Chartered) {a b : Account} (ha : a ∈ s.accounts)
    (hb : b ∈ s.accounts) (hab : a.id = b.id) : a = b :=
  List.inj_on_of_nodup_map h.ids_nodup ha hb hab

theorem Chartered.account?_eq (h : s.Chartered) {a : Account} (ha : a ∈ s.accounts) :
    s.account? a.id = some a := by
  cases hfound : s.account? a.id with
  | none => exact absurd (beq_self_eq_true a.id) (by simpa using List.find?_eq_none.mp hfound a ha)
  | some b =>
      obtain ⟨hb, hid⟩ := account?_some hfound
      rw [h.eq_of_id hb ha hid]

/-- The accounts after one of them was saved. -/
theorem mem_saved {old a c : Account} (found : s.account? a.id = some old) :
    c ∈ s.accounts.map (fun c => if c.id == a.id then a else c) ↔
      c = a ∨ (c ∈ s.accounts ∧ c.id ≠ a.id) := by
  obtain ⟨hold, hid⟩ := account?_some found
  rw [List.mem_map]
  constructor
  · rintro ⟨b, hb, rfl⟩
    by_cases hba : b.id = a.id
    · simp [hba]
    · exact .inr (by simpa [hba] using hb)
  · rintro (rfl | ⟨hc, hne⟩)
    · exact ⟨old, hold, by simp [hid]⟩
    · exact ⟨c, hc, by simp [hne]⟩

theorem Chartered.keepsAccounts (h : s.Chartered) (hs : s.Step clock word ev s') :
    s.KeepsAccounts s' := by
  cases hs with
  | nothing | accountKept | draftEdited | entryPosted | entryVoided | entryDeleted =>
      exact .same rfl (Nat.le_refl _)
  | entryCreated => exact .same rfl (Nat.le_succ _)
  | accountsOpened made apart =>
      refine ⟨Nat.le_add_right _ _, fun a ha => ?_, fun a ha => ?_⟩
      · exact .inl ⟨a, List.mem_append_left _ ha, .refl _ a⟩
      · rcases List.mem_append.mp ha with ha | ha
        · exact .inl ⟨a, ha, .refl a⟩
        · subst made
          obtain ⟨k, d, hn, hk, rfl⟩ := mem_makeAccounts ha
          refine .inr ⟨k, hn, ?_, rfl⟩
          rw [length_makeAccounts]
          exact hk
  | @accountSaved old a found company isSystem createdAt free edited =>
      obtain ⟨hold, hid⟩ := account?_some found
      have hcontinues := Account.Continues.mk hid.symm company isSystem edited.archived
      refine ⟨Nat.le_refl _, fun c hc => ?_, fun c hc => ?_⟩
      · by_cases hca : c.id = a.id
        · obtain rfl := h.eq_of_id hc hold (hca.trans hid.symm)
          rw [hid]
          refine .inl ⟨_, (mem_saved found).mpr (.inl rfl), hcontinues, ?_, ?_⟩
          · exact edited.code
          · exact edited.type
        · exact .inl ⟨c, (mem_saved found).mpr (.inr ⟨hc, hca⟩), .refl _ c⟩
      · rcases (mem_saved found).mp hc with rfl | ⟨hc, -⟩
        · exact .inl ⟨_, hold, hcontinues⟩
        · exact .inl ⟨c, hc, .refl c⟩
  | @accountDeleted id old found ordinary unused =>
      obtain ⟨hold, rfl⟩ := account?_some found
      refine ⟨Nat.le_refl _, fun c hc => ?_, fun c hc => ?_⟩
      · by_cases hid : c.id = old.id
        · obtain rfl := h.eq_of_id hc hold hid
          exact .inr ⟨ordinary, unused⟩
        · exact .inl ⟨c, List.mem_filter.mpr ⟨hc, by simpa using hid⟩, .refl _ c⟩
      · exact .inl ⟨c, List.mem_of_mem_filter hc, .refl c⟩

/-- Accounts stay apart when one of them is saved with a code that is free. -/
theorem Chartered.apart_saved (h : s.Chartered) {a : Account} (free : s.codeTaken a = false) :
    (s.accounts.map fun c => if c.id == a.id then a else c).Pairwise Account.Apart := by
  have other : ∀ c ∈ s.accounts, c.id ≠ a.id → c.Apart a := by
    intro c hc hne
    refine ⟨hne, fun hcompany hcode => ?_⟩
    have htaken : s.codeTaken a = true :=
      List.any_eq_true.mpr ⟨c, hc, by simp [hne, hcompany, hcode]⟩
    rw [free] at htaken
    cases htaken
  rw [List.pairwise_map]
  refine h.apart.imp_of_mem fun {b c} hb hc hbc => ?_
  by_cases hba : b.id = a.id
  · have hca : c.id ≠ a.id := fun hca => hbc.id (hba.trans hca.symm)
    have hapart := other c hc hca
    simpa [hba, hca] using Account.Apart.mk hapart.id.symm fun hcompany hcode =>
      hapart.code hcompany.symm hcode.symm
  · by_cases hca : c.id = a.id
    · simpa [hba, hca] using other b hb hba
    · simpa [hba, hca] using hbc

theorem Chartered.apart_step (h : s.Chartered) (hs : s.Step clock word ev s') :
    s'.accounts.Pairwise Account.Apart := by
  cases hs with
  | nothing | accountKept | entryCreated | draftEdited | entryPosted | entryVoided | entryDeleted =>
      exact h.apart
  | accountsOpened made apart => exact apart h.apart
  | accountSaved found company isSystem createdAt free edited => exact h.apart_saved free
  | accountDeleted found ordinary unused => exact h.apart.sublist List.filter_sublist

/-- What a step does to accounts that are there leaves archived ones inactive and system ones not
    archived; and new accounts are active. -/
theorem Chartered.flags_step (h : s.Chartered) (hs : s.Step clock word ev s') :
    ∀ a ∈ s'.accounts, (a.isArchived → a.isActive = false) ∧ (a.isSystem → a.isArchived = false) := by
  have old : ∀ a ∈ s.accounts,
      (a.isArchived → a.isActive = false) ∧ (a.isSystem → a.isArchived = false) :=
    fun a ha => ⟨h.archived a ha, h.system a ha⟩
  intro a ha
  cases hs with
  | nothing | accountKept | entryCreated | draftEdited | entryPosted | entryVoided | entryDeleted =>
      exact old a ha
  | accountsOpened made apart =>
      rcases List.mem_append.mp ha with ha | ha
      · exact old a ha
      · subst made
        obtain ⟨k, d, -, -, rfl⟩ := mem_makeAccounts ha
        exact ⟨nofun, fun _ => rfl⟩
  | accountSaved found company isSystem createdAt free edited =>
      rcases (mem_saved found).mp ha with rfl | ⟨ha, -⟩
      · obtain ⟨inactive, unarchived⟩ := old _ (account?_some found).1
        refine ⟨fun archived => ?_, fun system => ?_⟩
        · rw [Bool.eq_false_iff]
          intro active
          obtain ⟨harchived, hactive⟩ := edited.active archived active
          rw [inactive harchived] at hactive
          cases hactive
        · rw [isSystem] at system
          rw [Bool.eq_false_iff]
          intro archived
          have harchived := edited.system system archived
          rw [unarchived system] at harchived
          cases harchived
      · exact old a ha
  | accountDeleted found ordinary unused => exact old a (List.mem_of_mem_filter ha)

theorem Chartered.step (h : s.Chartered) (sound : s.Sound) (hs : s.Step clock word ev s') :
    s'.Chartered := by
  have hkeeps := h.keepsAccounts hs
  refine ⟨h.apart_step hs, fun a ha => ?_, fun a ha => (h.flags_step hs a ha).1,
    fun a ha => (h.flags_step hs a ha).2, fun e he l hl => ?_, fun e he => ?_⟩
  · rcases hkeeps.back a ha with ⟨b, hb, hba⟩ | ⟨k, -, hk, hid⟩
    · obtain ⟨k, hk, hid⟩ := h.issued b hb
      exact ⟨k, Nat.lt_of_lt_of_le hk hkeeps.issued, hba.id.trans hid⟩
    · exact ⟨k, hk, hid⟩
  · rcases hs.accounts_or_entries with accounts | entries
    · -- the accounts are the same, so an accepted line is on one of them
      rw [accounts]
      rcases sound.lines_step hs e he with ⟨e', he', hcompany, hlines⟩ | ⟨lines, accepted, stored⟩
      · rw [hcompany]
        exact h.owned e' he' l (hlines ▸ hl)
      · have haccounts := map_storeLines stored fun _ _ h => h.account
        rw [map_account_numberLines] at haccounts
        have hmem := List.mem_map_of_mem (f := Line.account) hl
        rw [haccounts, List.mem_map] at hmem
        obtain ⟨p, hp, hpl⟩ := hmem
        rw [← hpl]
        exact accepted.accounts hp
    · -- the entries are the same, so an account with lines is still there
      rw [entries] at he
      obtain ⟨a, ha, hid, hcompany⟩ := h.owned e he l hl
      rcases hkeeps.forth a ha with ⟨a', ha', hsaved⟩ | ⟨-, unused⟩
      · exact ⟨a', ha', hsaved.id.trans hid, hsaved.company.trans hcompany⟩
      · rw [hid, hasLines_of_mem he hl] at unused
        cases unused
  · rcases sound.lines_step hs e he with ⟨e', he', -, hlines⟩ | ⟨lines, -, stored⟩
    · rw [hlines]
      exact h.numbered e' he'
    · have hnumbers := map_storeLines stored fun _ _ h => h.number
      rw [map_number_numberLines] at hnumbers
      have hlength := congrArg List.length hnumbers
      rw [List.length_map, List.length_range'] at hlength
      rw [hnumbers, hlength]

theorem after_chartered (sessions : List Session) : (after sessions).Chartered := by
  have hrun := run_invariant (P := fun _ s => s.Sound ∧ s.Chartered) (W := fun _ => True)
    ⟨.empty, .empty⟩ (fun _ h hs => ⟨h.1.step hs, h.2.step h.1 hs⟩) sessions fun _ _ => trivial
  exact hrun.2

/-! ## Statements that write lines -/

/-- An entry that is changed is still there. -/
theorem isSome_stored?_updateStored {id : Uuid} {f : StoredEntry → StoredEntry}
    (h : (s.stored? id).isSome) (hf : ∀ e, (f e).entry.id = e.entry.id) :
    ((s.updateStored id f).stored? id).isSome := by
  rw [Option.isSome_iff_exists] at h
  obtain ⟨e, he⟩ := h
  obtain ⟨hmem, hid⟩ := stored?_some he
  rw [stored?, List.find?_isSome]
  refine ⟨_, List.mem_map_of_mem hmem, ?_⟩
  simp [hid, hf]

end Store

/-- A statement puts a line only under an entry, and takes an entry only when no lines are left of it. -/
def Statement.FindsOwner : Statement → Store → Prop
  | .insertLine id _, s => (s.stored? id).isSome
  | .deleteEntry id, s => ∀ e ∈ s.entries, e.entry.id = id → e.entry.lines = []
  | _, _ => True

/-- So do statements one after the other, as far as they come. -/
def Statement.AllFindOwner : List Statement → Store → Prop
  | [], _ => True
  | x :: rest, s => x.FindsOwner s ∧ ∀ t, x.apply s = .ok t → AllFindOwner rest t

namespace Statement

theorem allFindOwner_append {xs ys : List Statement} (hx : AllFindOwner xs s)
    (hy : ∀ t, applyAll xs s = .ok t → AllFindOwner ys t) : AllFindOwner (xs ++ ys) s := by
  induction xs generalizing s with
  | nil => exact hy s rfl
  | cons x rest ih =>
      refine ⟨hx.1, fun t ht => ih (hx.2 t ht) fun u hu => hy u ?_⟩
      exact applyAll_cons_ok.mpr ⟨t, ht, hu⟩

/-- Statements that need no owner. -/
theorem allFindOwner_of_forall {xs : List Statement} (h : ∀ x ∈ xs, ∀ t, x.FindsOwner t) :
    AllFindOwner xs s := by
  induction xs generalizing s with
  | nil => trivial
  | cons x rest ih =>
      exact ⟨h x (by simp) s, fun t _ => ih fun y hy => h y (by simp [hy])⟩

theorem allFindOwner_insertLines {id : Uuid} (ls : List (Line Decimal))
    (h : (s.stored? id).isSome) : AllFindOwner (ls.map (.insertLine id)) s := by
  induction ls generalizing s with
  | nil => trivial
  | cons l rest ih =>
      refine ⟨h, fun t ht => ih ?_⟩
      cases hl : l.store? with
      | none => simp [apply, hl] at ht
      | some c =>
          simp only [apply, hl, Except.ok.injEq] at ht
          subst ht
          exact Store.isSome_stored?_updateStored h (StoredEntry.withLine_id c)

end Statement

namespace Store

/-- Every write inserts lines only under an entry, and deletes an entry only after its lines. -/
structure KeepsOwners (s : Store) : Prop where
  created : ∀ {now h lines dayPrefix status postedBy p},
    s.createEntry now h lines dayPrefix status postedBy = .ok p →
      Statement.AllFindOwner p.statements s
  replaced : ∀ {clock id u lines user p}, s.replaceDraft clock id u lines user = .ok p →
    Statement.AllFindOwner p.statements s
  deleted : ∀ id, Statement.AllFindOwner (s.deleteEntry id).statements s

theorem allocate_findsOwner {company : Uuid} {dayPrefix : String} {p : Write Int}
    (h : s.allocate company dayPrefix = .ok p) :
    ∀ x ∈ p.statements, ∀ t, x.FindsOwner t := by
  unfold allocate at h
  cases hc : s.counter? company dayPrefix with
  | some c =>
      simp only [hc] at h
      split at h <;> cases h
      simp [Statement.FindsOwner]
  | none =>
      simp only [hc] at h
      obtain ⟨n, -, h⟩ := bind_eq_ok h
      obtain ⟨-, -, h⟩ := bind_eq_ok h
      cases h
      simp [Statement.FindsOwner]

theorem Sound.keepsOwners (sound : s.Sound) : s.KeepsOwners where
  created := by
    intro now h lines dayPrefix status postedBy p hp
    obtain ⟨q, hq, hp⟩ := bind_eq_ok hp
    cases hp
    refine Statement.allFindOwner_append (Statement.allFindOwner_of_forall (allocate_findsOwner hq))
      fun t ht => ⟨trivial, fun u hu => Statement.allFindOwner_insertLines _ ?_⟩
    obtain ⟨-, rfl⟩ := Statement.violated_ok.mp hu
    rw [stored?, List.find?_isSome]
    exact ⟨_, List.mem_append_right _ (List.mem_singleton.mpr rfl), by simp [newEntry]⟩
  replaced := by
    intro clock id u lines user p hp
    unfold replaceDraft at hp
    split at hp
    · cases hp
      trivial
    · next old hold =>
        obtain ⟨found, -⟩ := Option.filter_eq_some_iff.mp hold
        obtain ⟨now, -, hp⟩ := bind_eq_ok hp
        cases hp
        refine Statement.allFindOwner_append ⟨trivial, fun t ht => ?_⟩ fun t _ =>
          Statement.allFindOwner_of_forall ?_
        · cases ht
          have hsome : (s.stored? id).isSome := by rw [found]; rfl
          refine Statement.allFindOwner_insertLines _ ?_
          exact isSome_stored?_updateStored (f := StoredEntry.edited u user now s.writes) hsome
            fun e => rfl
        · intro x hx t
          rw [List.eq_of_mem_replicate hx]
          trivial
  deleted := by
    intro id
    unfold deleteEntry
    split
    · trivial
    · next old found =>
        refine Statement.allFindOwner_append (Statement.allFindOwner_of_forall ?_) fun t ht => ?_
        · intro x hx t
          rw [List.eq_of_mem_replicate hx]
          trivial
        · cases Statement.deleteLines_ok ht
          refine ⟨fun e he hid => ?_, fun _ _ => trivial⟩
          -- there is only one entry with the identifier, and all of its lines were dropped
          rcases (sound.mem_updateStored found).mp he with rfl | ⟨-, hne⟩
          · exact List.drop_length
          · exact absurd hid hne

/-! ## Whole runs -/

/-- What becomes of accounts in a run. -/
theorem Chartered.accounts_run (h : s.Chartered) (sound : s.Sound) (xs : List Session) :
    (∀ a ∈ s.accounts, a.isSystem → ∃ a' ∈ (s.afterSessions xs).accounts, a.Continues a') ∧
      ∀ a' ∈ (s.afterSessions xs).accounts, (∃ a ∈ s.accounts, a.Continues a') ∨
        ∃ k ≥ s.issued, a'.id = Uuid.issue k := by
  induction xs generalizing s with
  | nil => exact ⟨fun a ha _ => ⟨a, ha, .refl a⟩, fun a ha => .inl ⟨a, ha, .refl a⟩⟩
  | cons x xs ih =>
      have hstep := x.run_step s
      have hkeeps := h.keepsAccounts hstep
      obtain ⟨forth, back⟩ := ih (h.step sound hstep) (sound.step hstep)
      refine ⟨fun a ha system => ?_, fun a ha => ?_⟩
      · rcases hkeeps.forth a ha with ⟨b, hb, hab⟩ | ⟨ordinary, -⟩
        · obtain ⟨c, hc, hbc⟩ := forth b hb (hab.isSystem.trans system)
          exact ⟨c, hc, hab.toContinues.trans hbc⟩
        · rw [ordinary] at system
          cases system
      · rcases back a ha with ⟨b, hb, hba⟩ | ⟨k, hk, hid⟩
        · rcases hkeeps.back b hb with ⟨c, hc, hcb⟩ | ⟨k, hk, -, hid⟩
          · exact .inl ⟨c, hc, hcb.trans hba⟩
          · exact .inr ⟨k, hk, hba.id.trans hid⟩
        · exact .inr ⟨k, Nat.le_trans hkeeps.issued hk, hid⟩

end Store

/-- At every point of a run: within a company no two accounts have the same code; an archived account is
    inactive, and archived at every later point where it is still there; a system account is not archived
    and still there, as one, at every later point; the lines of every entry stand on stored accounts of
    its company and are numbered from one on, and no write leaves a line without an entry; and whatever
    is called next, an account with lines is kept with its code and its type. -/
theorem registry_integrity (before later : List Session) :
    ((Store.after before).accounts.map fun a => (a.company, a.code)).Nodup ∧
      (∀ a ∈ (Store.after before).accounts, a.isArchived → a.isActive = false ∧
        ∀ a' ∈ (Store.after (before ++ later)).accounts, a'.id = a.id → a'.isArchived) ∧
      (∀ a ∈ (Store.after before).accounts, a.isSystem → a.isArchived = false ∧
        ∃ a' ∈ (Store.after (before ++ later)).accounts, a'.id = a.id ∧ a'.isSystem) ∧
      (∀ e ∈ (Store.after before).entries,
        (∀ l ∈ e.entry.lines, ∃ a ∈ (Store.after before).accounts,
          a.id = l.account ∧ a.company = e.entry.company) ∧
        e.entry.lines.map Line.number = List.range' 1 e.entry.lines.length) ∧
      (Store.after before).KeepsOwners ∧
      ∀ x : Session, ∀ a ∈ (Store.after before).accounts, (Store.after before).hasLines a.id →
        ∃ a' ∈ (x.run (Store.after before)).2.accounts,
          a'.id = a.id ∧ a'.code = a.code ∧ a'.type = a.type := by
  have sound := Store.after_sound before
  have h := Store.after_chartered before
  obtain ⟨forth, back⟩ := h.accounts_run sound later
  rw [← Store.after_append] at forth back
  refine ⟨?_, fun a ha archived => ⟨h.archived a ha archived, fun a' ha' hid => ?_⟩,
    fun a ha system => ⟨h.system a ha system, ?_⟩,
    fun e he => ⟨h.owned e he, h.numbered e he⟩, sound.keepsOwners, fun x a ha used => ?_⟩
  · rw [List.nodup_iff_pairwise_ne, List.pairwise_map]
    refine h.apart.imp fun hab heq => ?_
    obtain ⟨hcompany, hcode⟩ := Prod.mk.inj heq
    exact hab.code hcompany hcode
  · -- an identifier that was given out after `before` is not one of its accounts
    rcases back a' ha' with ⟨b, hb, hba⟩ | ⟨k, hk, hk'⟩
    · obtain rfl := h.eq_of_id ha hb (hid.symm.trans hba.id)
      exact hba.archived archived
    · obtain ⟨m, hm, hm'⟩ := h.issued a ha
      have : k = m := Uuid.issue_injective (by rw [← hk', hid, hm'])
      omega
  · obtain ⟨a', ha', haa'⟩ := forth a ha system
    exact ⟨a', ha', haa'.id, haa'.isSystem.trans system⟩
  · rcases (h.keepsAccounts (x.run_step _)).forth a ha with ⟨a', ha', hsaved⟩ | ⟨-, unused⟩
    · exact ⟨a', ha', hsaved.id, hsaved.code used, hsaved.type used⟩
    · rw [unused] at used
      cases used

end Bookkeeping
