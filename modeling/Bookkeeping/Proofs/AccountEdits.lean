import Bookkeeping.Proofs.OpeningAccounts

set_option autoImplicit false

/-! # Editing accounts

An edit is refused for the first of four reasons that applies: the account does not exist, it has lines
and its code or type would change, its new code is taken, or it is archived and would become active
again. Otherwise exactly the given fields change, and the time of the edit is noted
(`Session.account_edited`). An edit that gives no field does nothing. -/

namespace Bookkeeping

variable {clock : Clock} {s : Store} {w : World} {id : Uuid} {u : AccountUpdate} {a : Account}
  {now : Instant} {st : Setting}

/-! ## What an edit asks for -/

namespace AccountUpdate

/-- The edit gives another code than the account has. -/
def NewCode (u : AccountUpdate) (a : Account) (code : String) : Prop :=
  u.code = some code ∧ code ≠ a.code

/-- The edit gives another type than the account has. -/
def NewType (u : AccountUpdate) (a : Account) (type : AccountType) : Prop :=
  u.type = some type ∧ type ≠ a.type

theorem isEmpty_iff : u.isEmpty = true ↔ u = {} := by
  obtain ⟨nameEn, nameAr, code, type, isVat, isActive⟩ := u
  simp [isEmpty, Option.isNone_iff_eq_none, and_assoc]

theorem changesCode_iff : u.changesCode a = true ↔ ∃ code, u.NewCode a code := by
  unfold changesCode NewCode
  cases u.code with
  | none => simp
  | some code => simp

theorem changesType_iff : u.changesType a = true ↔ ∃ type, u.NewType a type := by
  unfold changesType NewType
  cases u.type with
  | none => simp
  | some type => simp

end AccountUpdate

namespace Registry

theorem structuralChanges_isEmpty :
    (structuralChanges u a).isEmpty = false ↔ (∃ code, u.NewCode a code) ∨ ∃ type, u.NewType a type := by
  rw [← AccountUpdate.changesCode_iff, ← AccountUpdate.changesType_iff, structuralChanges]
  cases u.changesCode a <;> cases u.changesType a <;> simp

end Registry

/-- The account after an edit: given fields are set, the time is noted, and all else stays. -/
structure Account.EditedBy (u : AccountUpdate) (now : Instant) (a a' : Account) : Prop where
  nameEn : a'.nameEn = u.nameEn.getD a.nameEn
  nameAr : a'.nameAr = u.nameAr.or a.nameAr
  code : a'.code = u.code.getD a.code
  type : a'.type = u.type.getD a.type
  isVat : a'.isVat = u.isVat.getD a.isVat
  isActive : a'.isActive = u.isActive.getD a.isActive
  updatedAt : a'.updatedAt = some now
  id : a'.id = a.id
  company : a'.company = a.company
  isSystem : a'.isSystem = a.isSystem
  isArchived : a'.isArchived = a.isArchived
  createdAt : a'.createdAt = a.createdAt

theorem AccountUpdate.apply_editedBy (u : AccountUpdate) (a : Account) (now : Instant) :
    a.EditedBy u now (u.apply a now) :=
  ⟨rfl, by simp [apply, Option.orElse_eq_or], rfl, rfl, rfl, rfl, rfl, rfl, rfl, rfl, rfl, rfl⟩

/-! ## Saving -/

instance : Std.Symm Account.Apart :=
  ⟨fun _ _ h => ⟨h.id.symm, fun company code => h.code company.symm code.symm⟩⟩

namespace Store

/-- Accounts of one company with one code are the same. -/
theorem Chartered.eq_of_code (h : s.Chartered) {a b : Account} (ha : a ∈ s.accounts)
    (hb : b ∈ s.accounts) (company : a.company = b.company) (code : a.code = b.code) : a = b := by
  by_contra hne
  exact (h.apart.forall ha hb hne).code company code

/-- No other account of the company has the code that the edited account has. -/
theorem Chartered.codeTaken_apply (h : s.Chartered) (ha : a ∈ s.accounts)
    (free : ∀ code, u.NewCode a code → ¬ s.HasCode a.company code) :
    s.codeTaken (u.apply a now) = false := by
  rw [codeTaken, List.any_eq_false]
  intro b hb taken
  simp only [Bool.and_eq_true, bne_iff_ne, beq_iff_eq] at taken
  obtain ⟨⟨hid, hcompany⟩, hcode⟩ := taken
  have hid : b.id ≠ a.id := hid
  have hcode : b.code = u.code.getD a.code := hcode
  by_cases changed : ∃ code, u.NewCode a code
  · obtain ⟨code, given, differs⟩ := changed
    rw [given] at hcode
    exact free code ⟨given, differs⟩ ⟨b, hb, hcompany, hcode⟩
  · -- the code stays, and accounts of one company have different codes
    have kept : u.code.getD a.code = a.code := by
      cases hgiven : u.code with
      | none => rfl
      | some code => exact not_not.mp fun differs => changed ⟨code, hgiven, differs⟩
    exact hid (congrArg Account.id (h.eq_of_code hb ha hcompany (hcode.trans kept)))

end Store

/-! ## The call -/

namespace Registry

open Procedure

variable (idle : w.pending = none)

include idle

theorem exec_getAccount_missing (missing : w.store.account? id = none) :
    (getAccount id).exec clock w = (.error (.ledger (.accountNotFound id)), w) := by
  have read : (perform (.account id)).Looks clock w none := looks_perform idle (by rw [← missing]; rfl)
  exact (exec_bind_ok read).trans rfl

theorem looks_getAccount (found : w.store.account? id = some a) : (getAccount id).Looks clock w a := by
  have read : (perform (.account id)).Looks clock w (some a) := looks_perform idle (by rw [← found]; rfl)
  exact (exec_bind_ok read).trans rfl

/-- An account with lines keeps code and type. -/
theorem exec_requireUnused_used (structural : (structuralChanges u a).isEmpty = false)
    (used : w.store.hasLines id = true) :
    (requireUnused id u a).exec clock w =
      (.error (.ledger (.accountFieldsInUse a.code (structuralChanges u a))), w) := by
  have read : (perform (.hasLines id)).Looks clock w true := looks_perform idle (by rw [← used]; rfl)
  unfold requireUnused
  dsimp only
  rw [structural, if_pos Bool.not_false]
  exact (exec_bind_ok read).trans rfl

theorem looks_requireUnused
    (allowed : (structuralChanges u a).isEmpty = true ∨ w.store.hasLines id = false) :
    (requireUnused id u a).Looks clock w () := by
  unfold requireUnused
  dsimp only
  split
  · next structural =>
      have unused : w.store.hasLines id = false := allowed.resolve_left (by simpa using structural)
      have read : (perform (.hasLines id)).Looks clock w false :=
        looks_perform idle (by rw [← unused]; rfl)
      exact (exec_bind_ok read).trans rfl
  · rfl

/-- A new code must not be taken. -/
theorem exec_requireFreeCode_taken {code : String} (new : u.NewCode a code)
    (taken : w.store.HasCode a.company code) :
    (requireFreeCode u a).exec clock w = (.error (.ledger (.duplicateCodes [code])), w) := by
  obtain ⟨b, hb, hcompany, hcode⟩ := taken
  obtain ⟨other, found⟩ := Option.isSome_iff_exists.mp
    (List.find?_isSome (p := fun b => b.company == a.company && b.code == code).mpr
      ⟨b, hb, by simp [hcompany, hcode]⟩)
  have read : (perform (.accountByCode a.company code)).Looks clock w (some other) :=
    looks_perform idle (by rw [← found]; rfl)
  unfold requireFreeCode
  dsimp only
  rw [if_pos (AccountUpdate.changesCode_iff.mpr ⟨code, new⟩), new.1]
  exact (exec_bind_ok read).trans rfl

theorem looks_requireFreeCode (free : ∀ code, u.NewCode a code → ¬ w.store.HasCode a.company code) :
    (requireFreeCode u a).Looks clock w () := by
  unfold requireFreeCode
  dsimp only
  split
  · next changed =>
      obtain ⟨code, new⟩ := AccountUpdate.changesCode_iff.mp changed
      have missing : w.store.accountByCode? a.company code = none := by
        refine List.find?_eq_none.mpr fun b hb hit => free code new ⟨b, hb, ?_⟩
        simpa using hit
      have read : (perform (.accountByCode a.company code)).Looks clock w none :=
        looks_perform idle (by rw [← missing]; rfl)
      rw [new.1]
      exact (exec_bind_ok read).trans rfl
  · rfl

/-- An edit without fields only reads. -/
theorem looks_updateAccount_nothing (found : w.store.account? id = some a) :
    (updateAccount st id {}).Looks clock w a :=
  (exec_bind_ok (looks_getAccount idle found)).trans rfl

variable (found : w.store.account? id = some a) (something : u ≠ {})

include found something

/-- The edit of an account with lines that would change its code or type is refused. -/
theorem exec_updateAccount_used (used : w.store.hasLines id = true)
    (structural : (structuralChanges u a).isEmpty = false) :
    (updateAccount st id u).exec clock w =
      (.error (.ledger (.accountFieldsInUse a.code (structuralChanges u a))), w) := by
  refine (exec_bind_ok (looks_getAccount idle found)).trans ?_
  dsimp only
  rw [if_neg (mt AccountUpdate.isEmpty_iff.mp something)]
  exact exec_bind_error (exec_requireUnused_used idle structural used)

variable (allowed : (structuralChanges u a).isEmpty = true ∨ w.store.hasLines id = false)

include allowed

/-- An edit that would take the code of another account is refused. -/
theorem exec_updateAccount_taken {code : String} (new : u.NewCode a code)
    (taken : w.store.HasCode a.company code) :
    (updateAccount st id u).exec clock w = (.error (.ledger (.duplicateCodes [code])), w) := by
  refine (exec_bind_ok (looks_getAccount idle found)).trans ?_
  dsimp only
  rw [if_neg (mt AccountUpdate.isEmpty_iff.mp something)]
  refine (exec_bind_ok (looks_requireUnused idle allowed)).trans ?_
  exact exec_bind_error (exec_requireFreeCode_taken idle new taken)

variable (free : ∀ code, u.NewCode a code → ¬ w.store.HasCode a.company code)

include free

/-- An edit that would make an archived account active again is refused. -/
theorem exec_updateAccount_archived (activates : u.isActive = some true)
    (archived : a.isArchived = true) :
    (updateAccount st id u).exec clock w = (.error (.ledger (.archivedReactivated a.code)), w) := by
  refine (exec_bind_ok (looks_getAccount idle found)).trans ?_
  dsimp only
  rw [if_neg (mt AccountUpdate.isEmpty_iff.mp something)]
  refine (exec_bind_ok (looks_requireUnused idle allowed)).trans ?_
  refine (exec_bind_ok (looks_requireFreeCode idle free)).trans ?_
  have refused : (u.isActive == some true && a.isArchived) = true := by
    rw [activates, archived]
    rfl
  rw [if_pos refused]
  rfl

/-- Any other edit is saved. -/
theorem exec_updateAccount_saved (clock : Clock) (chartered : w.store.Chartered)
    (quiet : w.faults.writes = none) (lines : w.faults.lines = none) (time : st.clock = .ok now)
    (inactive : ¬ (u.isActive = some true ∧ a.isArchived = true)) :
    ∃ v, (updateAccount st id u).exec clock w = (.ok (u.apply a now), v) ∧
      v.store = { w.store with
        accounts := w.store.accounts.map fun b => if b.id == a.id then u.apply a now else b } := by
  obtain ⟨ha, hid⟩ := Store.account?_some found
  have prepared : w.store.saveAccount (u.apply a now) =
      .ok ⟨u.apply a now, [.updateAccount (u.apply a now)]⟩ := by
    have : w.store.account? (u.apply a now).id = some a := chartered.account?_eq ha
    rw [Store.saveAccount, this]
    rfl
  have applies : Statement.applyAll [.updateAccount (u.apply a now)] w.store =
      .ok { w.store with
        accounts := w.store.accounts.map fun b => if b.id == a.id then u.apply a now else b } :=
    Statement.applyAll_cons_ok.mpr
      ⟨_, Statement.violated_ok.mpr ⟨chartered.codeTaken_apply ha free, rfl⟩, rfl⟩
  have due : Strike.due 1 w.faults.writes = none := by
    rw [quiet]
    rfl
  obtain ⟨v, written, hv⟩ := World.Ready.write_through
    (p := ⟨u.apply a now, [.updateAccount (u.apply a now)]⟩) (by simp) applies
    (⟨rfl, idle, lines, rfl⟩ : w.Ready w.store w.faults.creations)
    (Store.savingAccount (u.apply a now)) due
  have saved : (perform (.saveAccount (u.apply a now))).exec clock w = (.ok (u.apply a now), v) := by
    unfold perform exec Op.exec
    rw [idle]
    show (w.tryWrite _ _ (w.store.saveAccount (u.apply a now))) = _
    rw [prepared]
    exact written
  refine ⟨v, ?_, hv.store⟩
  refine (exec_bind_ok (looks_getAccount idle found)).trans ?_
  dsimp only
  rw [if_neg (mt AccountUpdate.isEmpty_iff.mp something)]
  refine (exec_bind_ok (looks_requireUnused idle allowed)).trans ?_
  refine (exec_bind_ok (looks_requireFreeCode idle free)).trans ?_
  rw [if_neg (by simpa using inactive), time]
  exact saved

end Registry

/-! ## Sessions -/

namespace Session

/-- The session fails with an error of the family. -/
def FailsAs (x : Session) (s : Store) (kind : ErrorKind) : Prop :=
  ∃ e : LedgerError, (x.run s).1 = .error (.ledger e) ∧ e.kind = kind

variable {x : Session} {kind : ErrorKind}

theorem failsAs_iff {e : LedgerError} (h : x.run s = (.error (.ledger e), s)) :
    x.FailsAs s kind ↔ e.kind = kind := by
  unfold FailsAs
  rw [h]
  simp

theorem not_failsAs {answer : ServiceAnswer} {t : Store} (h : x.run s = (.ok answer, t)) :
    ¬ x.FailsAs s kind := by
  unfold FailsAs
  rw [h]
  simp

/-- The edit would change the code or the type of an account with lines. -/
def EditsUsed (s : Store) (u : AccountUpdate) (a : Account) : Prop :=
  s.hasLines a.id = true ∧ ((∃ code, u.NewCode a code) ∨ ∃ type, u.NewType a type)

/-- The edit would take a code that the company has already. -/
def EditsTaken (s : Store) (u : AccountUpdate) (a : Account) : Prop :=
  ∃ code, u.NewCode a code ∧ s.HasCode a.company code

/-- The edit would make an archived account active again. -/
def Reactivates (u : AccountUpdate) (a : Account) : Prop :=
  u.isActive = some true ∧ a.isArchived = true

theorem run_updateAccount_missing (missing : s.account? id = none) :
    run { call := .updateAccount id u, setting := st } s = (.error (.ledger (.accountNotFound id)), s) :=
  run_of_exec (Procedure.exec_bind_error
    (Procedure.exec_bind_error (Registry.exec_getAccount_missing rfl missing))) rfl

theorem run_updateAccount_nothing (found : s.account? id = some a) :
    run { call := .updateAccount id {}, setting := st } s = (.ok (.account a), s) :=
  run_of_exec ((Procedure.exec_bind_ok (Registry.looks_updateAccount_nothing rfl found)).trans rfl) rfl

/-- An edit with fields is refused for the first reason that applies, or saved. -/
theorem run_updateAccount_cases (chartered : s.Chartered) (found : s.account? id = some a)
    (something : u ≠ {}) (time : st.clock = .ok now) :
    let x : Session := { call := .updateAccount id u, setting := st }
    (EditsUsed s u a ∧ ∃ e, x.run s = (.error (.ledger e), s) ∧ e.kind = .accountInUse) ∨
    (¬ EditsUsed s u a ∧ EditsTaken s u a ∧
      ∃ e, x.run s = (.error (.ledger e), s) ∧ e.kind = .duplicateAccountCode) ∨
    (¬ EditsUsed s u a ∧ ¬ EditsTaken s u a ∧ Reactivates u a ∧
      ∃ e, x.run s = (.error (.ledger e), s) ∧ e.kind = .validation) ∨
    (¬ EditsUsed s u a ∧ ¬ EditsTaken s u a ∧ ¬ Reactivates u a ∧
      x.run s = (.ok (.account (u.apply a now)),
        { s with accounts := s.accounts.map fun b => if b.id = id then u.apply a now else b })) := by
  intro x
  obtain rfl : a.id = id := (Store.account?_some found).2
  by_cases used : EditsUsed s u a
  · have structural := Registry.structuralChanges_isEmpty.mpr used.2
    exact .inl ⟨used, _, run_of_exec (Procedure.exec_bind_error
      (Registry.exec_updateAccount_used (w := x.world s) rfl found something used.1 structural)) rfl, rfl⟩
  have allowed : (Registry.structuralChanges u a).isEmpty = true ∨ s.hasLines a.id = false := by
    by_contra h
    rw [not_or, Bool.not_eq_true, Bool.not_eq_false] at h
    exact used ⟨h.2, Registry.structuralChanges_isEmpty.mp h.1⟩
  by_cases taken : EditsTaken s u a
  · have ⟨code, new, has⟩ := taken
    exact .inr (.inl ⟨used, taken, _, run_of_exec (Procedure.exec_bind_error
      (Registry.exec_updateAccount_taken (w := x.world s) rfl found something allowed new has)) rfl, rfl⟩)
  have free : ∀ code, u.NewCode a code → ¬ s.HasCode a.company code :=
    fun code new has => taken ⟨code, new, has⟩
  by_cases reactivated : Reactivates u a
  · exact .inr (.inr (.inl ⟨used, taken, reactivated, _, run_of_exec (Procedure.exec_bind_error
      (Registry.exec_updateAccount_archived (w := x.world s) rfl found something allowed free
        reactivated.1 reactivated.2)) rfl, rfl⟩))
  · obtain ⟨v, saved, hv⟩ := Registry.exec_updateAccount_saved (w := x.world s) rfl found something
      allowed free st.clock chartered rfl rfl time reactivated
    refine .inr (.inr (.inr ⟨used, taken, reactivated, ?_⟩))
    have answered : (x.call.procedure st).exec st.clock (x.world s) =
        (.ok (.account (u.apply a now)), v) := (Procedure.exec_bind_ok saved).trans rfl
    refine run_of_exec answered (hv.trans ?_)
    simp only [beq_iff_eq]
    rfl

/-- An edit of an account that exists fails for another reason, or answers. -/
theorem run_updateAccount_found (chartered : s.Chartered) (found : s.account? id = some a)
    (time : st.clock = .ok now) :
    let x : Session := { call := .updateAccount id u, setting := st }
    (∃ e, x.run s = (.error (.ledger e), s) ∧ e.kind ≠ .accountNotFound) ∨
      ∃ r t, x.run s = (.ok r, t) := by
  by_cases nothing : u = {}
  · subst nothing
    exact .inr ⟨_, _, run_updateAccount_nothing found⟩
  · rcases run_updateAccount_cases chartered found nothing time with
      ⟨-, e, h, hk⟩ | ⟨-, -, e, h, hk⟩ | ⟨-, -, -, e, h, hk⟩ | ⟨-, -, -, h⟩
    · exact .inl ⟨e, h, by simp [hk]⟩
    · exact .inl ⟨e, h, by simp [hk]⟩
    · exact .inl ⟨e, h, by simp [hk]⟩
    · exact .inr ⟨_, _, h⟩

/-- An edit of an account in any reachable store: which error it meets, that an edit without fields is
    the one that does nothing, and that any other edit that meets no error sets exactly the given fields
    and the time of the edit. Nothing but the account changes, and nothing at all when there is an
    error. -/
theorem account_edited (sessions : List Session) (id : Uuid) (u : AccountUpdate) (st : Setting)
    {now : Instant} (time : st.clock = .ok now) :
    let s := Store.after sessions
    let x : Session := { call := .updateAccount id u, setting := st }
    (x.FailsAs s .accountNotFound ↔ s.account? id = none) ∧
    (∀ f, (x.run s).1 = .error f → (x.run s).2 = s) ∧
    ∀ a, s.account? id = some a →
      ((∀ now, run { call := .updateAccount id u, setting := { st with clock := .ok now } } s =
          (.ok (.account a), s)) ↔ u = {}) ∧
      (u ≠ {} →
        (x.FailsAs s .accountInUse ↔ EditsUsed s u a) ∧
        (¬ EditsUsed s u a → (x.FailsAs s .duplicateAccountCode ↔ EditsTaken s u a)) ∧
        (¬ EditsUsed s u a → ¬ EditsTaken s u a → (x.FailsAs s .validation ↔ Reactivates u a)) ∧
        (¬ EditsUsed s u a → ¬ EditsTaken s u a → ¬ Reactivates u a → ∃ a',
          x.run s = (.ok (.account a'),
            { s with accounts := s.accounts.map fun b => if b.id = id then a' else b }) ∧
          a.EditedBy u now a')) := by
  intro s x
  have chartered : s.Chartered := Store.after_chartered sessions
  refine ⟨?_, fun f failed => ?_, fun a found => ⟨⟨fun kept => ?_, fun h now => ?_⟩, fun something => ?_⟩⟩
  · cases found : s.account? id with
    | none =>
        have missing : x.FailsAs s .accountNotFound := (failsAs_iff (run_updateAccount_missing found)).mpr rfl
        simpa using missing
    | some a =>
        rcases run_updateAccount_found chartered found time with ⟨e, h, hk⟩ | ⟨r, t, h⟩
        · exact iff_of_false ((failsAs_iff h).not.mpr hk) nofun
        · exact iff_of_false (not_failsAs h) nofun
  · cases found : s.account? id with
    | none => exact congrArg Prod.snd (run_updateAccount_missing found)
    | some a =>
        rcases run_updateAccount_found chartered found time with ⟨e, h, -⟩ | ⟨r, t, h⟩
        · exact congrArg Prod.snd h
        · rw [h] at failed
          cases failed
  · -- an edit with fields that is saved notes its time, and cannot note two times at once
    by_contra something
    have noted (now : Instant) : a.updatedAt = some now := by
      have time : ({ st with clock := .ok now } : Setting).clock = .ok now := rfl
      have := run_updateAccount_cases chartered found something time
      dsimp only at this
      rw [kept now] at this
      rcases this with ⟨-, e, h, -⟩ | ⟨-, -, e, h, -⟩ | ⟨-, -, -, e, h, -⟩ | ⟨-, -, -, h⟩
      · cases h
      · cases h
      · cases h
      · have same : a = u.apply a now := by simpa using congrArg Prod.fst h
        rw [same]
        rfl
    have := (noted ⟨0, by decide⟩).symm.trans (noted ⟨1, by decide⟩)
    simp at this
  · subst h
    exact run_updateAccount_nothing found
  · rcases run_updateAccount_cases chartered found something time with
      ⟨used, e, h, hk⟩ | ⟨used, taken, e, h, hk⟩ | ⟨used, taken, reactivated, e, h, hk⟩ |
        ⟨used, taken, reactivated, h⟩
    · exact ⟨iff_of_true ((failsAs_iff h).mpr hk) used, fun unused => absurd used unused,
        fun unused => absurd used unused, fun unused => absurd used unused⟩
    · exact ⟨iff_of_false ((failsAs_iff h).not.mpr (by simp [hk])) used,
        fun _ => iff_of_true ((failsAs_iff h).mpr hk) taken,
        fun _ free => absurd taken free, fun _ free => absurd taken free⟩
    · exact ⟨iff_of_false ((failsAs_iff h).not.mpr (by simp [hk])) used,
        fun _ => iff_of_false ((failsAs_iff h).not.mpr (by simp [hk])) taken,
        fun _ _ => iff_of_true ((failsAs_iff h).mpr hk) reactivated,
        fun _ _ inactive => absurd reactivated inactive⟩
    · exact ⟨iff_of_false (not_failsAs h) used, fun _ => iff_of_false (not_failsAs h) taken,
        fun _ _ => iff_of_false (not_failsAs h) reactivated,
        fun _ _ _ => ⟨_, h, u.apply_editedBy a now⟩⟩

/-- The first account of the company. -/
def openedCash : Account :=
  .ofDraft (Uuid.issue 0) ⟨1⟩ default { code := "1000", nameEn := "Cash", type := .asset }

/-- An account with lines keeps its code, but may have another name. -/
theorem account_edited_movesOnTwoDays :
    let s := Store.after movesOnTwoDays
    let edits (u : AccountUpdate) : Session :=
      { call := .updateAccount (Uuid.issue 0) u, setting := { clock := .ok default } }
    (Except.ok default : Clock) = .ok default ∧
    (edits { code := some "1100" }).FailsAs s .accountInUse ∧
    ∃ a', (edits { nameEn := some "Till" }).run s = (.ok (.account a'),
      { s with accounts := s.accounts.map fun b => if b.id = Uuid.issue 0 then a' else b }) ∧
      openedCash.EditedBy { nameEn := some "Till" } default a' := by
  intro s edits
  have found : s.account? (Uuid.issue 0) = some openedCash := by
    have : (Store.after movesOnTwoDays).account? (Uuid.issue 0) = some openedCash := by decide +kernel
    exact this
  have used : EditsUsed s { code := some "1100" } openedCash := by
    have : (Store.after movesOnTwoDays).hasLines openedCash.id = true := by decide +kernel
    exact ⟨this, .inl ⟨"1100", rfl, by decide⟩⟩
  refine ⟨rfl, ?_, ?_⟩
  · have edited := account_edited movesOnTwoDays (Uuid.issue 0) { code := some "1100" }
      { clock := .ok default } rfl
    exact ((edited.2.2 openedCash found).2 (by decide)).1.mpr used
  · have edited := account_edited movesOnTwoDays (Uuid.issue 0) { nameEn := some "Till" }
      { clock := .ok default } rfl
    refine ((edited.2.2 openedCash found).2 (by decide)).2.2.2 ?_ ?_ ?_
    · rintro ⟨-, ⟨code, h, -⟩ | ⟨type, h, -⟩⟩ <;> cases h
    · rintro ⟨code, ⟨h, -⟩, -⟩
      cases h
    · rintro ⟨h, -⟩
      cases h

end Session

end Bookkeeping
