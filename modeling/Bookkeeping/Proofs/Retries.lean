import Bookkeeping.Proofs.FreshNumbers
import Bookkeeping.Proofs.Performing

set_option autoImplicit false

/-! # Attempts to create an entry

An attempt to create an entry runs clean, or is hit by a conflict about the number, or by something
else (`Attempt`). Whatever hits it is undone: the next attempt finds the world that the first one found
(`World.Ready`). So conflicts leave no trace but in the log, and after as many of them as one likes a
clean attempt does what it would have done at first (`Creation.retries`). -/

namespace Bookkeeping

variable {clock : Clock} {s t : Store} {w : World}

/-! ## Faults inside a transaction -/

/-- The fault that strikes before `n` statements and their commit are through. -/
def Strike.due (n : Nat) : Option Strike → Option WriteFault
  | some ⟨after, fault⟩ => if after ≤ n then some fault else none
  | none => none

namespace World

variable {α : Type} {schedule : List (Option Disturbance)}

/-- Statements that can be sent are committed, unless the fault is due before that. -/
theorem transact_outcome (strike : Option Strike) {xs : List Statement} (quiet : w.faults.lines = none)
    (applies : Statement.applyAll xs w.view = .ok t) :
    (w.transact strike xs).1 = Strike.due xs.length strike := by
  induction xs generalizing w strike with
  | nil =>
      unfold transact
      rcases strike with _ | ⟨_ | n, f⟩
      · rfl
      · rfl
      · simp [Strike.due]
  | cons x rest ih =>
      obtain ⟨next, hx, hrest⟩ := Statement.applyAll_cons_ok.mp applies
      have sent : w.send x = .ok { w with pending := some next } := by
        rw [send, hx]
        rfl
      have hlater (strike : Option Strike) := @ih { w with pending := some next } strike quiet hrest
      unfold transact faultBefore
      rw [quiet, ite_self]
      rcases strike with _ | ⟨_ | n, f⟩
      · rw [sent]
        exact hlater none
      · simp [Strike.due]
      · rw [sent]
        refine (hlater (some ⟨n, f⟩)).trans ?_
        simp [Strike.due]

/-- The world as an attempt finds it: nothing is pending around the store `s`, and `schedule` is what
    happens to this attempt and the next ones. -/
structure Ready (s : Store) (schedule : List (Option Disturbance)) (w : World) : Prop where
  store : w.store = s
  pending : w.pending = none
  lines : w.faults.lines = none
  creations : w.faults.creations = schedule

theorem Ready.note (ready : w.Ready s schedule) (r : LogRecord) : (w.note r).Ready s schedule :=
  ⟨ready.store, ready.pending, ready.lines, ready.creations⟩

theorem Ready.nextDisturbance (ready : w.Ready s schedule) :
    w.nextDisturbance.1 = schedule.head?.join ∧ w.nextDisturbance.2.Ready s schedule.tail := by
  obtain ⟨rfl, hpending, hlines, rfl⟩ := ready
  unfold World.nextDisturbance
  cases hc : w.faults.creations with
  | nil => exact ⟨rfl, rfl, hpending, hlines, hc⟩
  | cons d rest => exact ⟨rfl, rfl, hpending, hlines, rfl⟩

variable {strike : Option Strike} {p : Write α} (something : p.statements ≠ [])
  (applies : Statement.applyAll p.statements s = .ok t)

include something applies

/-- A write that undoes everything after a fault leaves the world as it was when one strikes. -/
theorem Ready.write_struck (ready : w.Ready s schedule) (surface : WriteFault → Failure)
    {fault : WriteFault} (due : Strike.due p.statements.length strike = some fault) :
    ∃ v, w.write (.always surface) strike p = (.error (surface fault), v) ∧ v.Ready s schedule := by
  obtain ⟨rfl, -, hlines, rfl⟩ := ready
  have outcome := transact_outcome (w := w.begin) strike hlines applies
  rcases htransact : w.begin.transact strike p.statements with ⟨f, v⟩
  have hfaults : v.faults = w.faults := (transact_faults htransact :)
  rw [htransact, due] at outcome
  obtain rfl : f = some fault := outcome
  refine ⟨v.rollback, ?_, (transact_fault htransact :), rfl, ?_, congrArg Faults.creations hfaults⟩
  · rw [World.write, if_neg (by simpa using something), htransact]
    rfl
  · rw [← hlines, ← hfaults]
    rfl

/-- A write is committed when no fault is due before that. -/
theorem Ready.write_through (ready : w.Ready s schedule) (handling : Handling)
    (due : Strike.due p.statements.length strike = none) :
    ∃ v, w.write handling strike p = (.ok p.answer, v) ∧ v.Ready t schedule := by
  obtain ⟨rfl, -, hlines, rfl⟩ := ready
  have outcome := transact_outcome (w := w.begin) strike hlines applies
  rcases htransact : w.begin.transact strike p.statements with ⟨f, v⟩
  have hfaults : v.faults = w.faults := (transact_faults htransact :)
  rw [htransact, due] at outcome
  obtain rfl : f = none := outcome
  obtain ⟨hpending, happlied⟩ := transact_commit htransact
  have hstore := applies.symm.trans happlied
  refine ⟨v, ?_, (Except.ok.inj hstore).symm, hpending, ?_, congrArg Faults.creations hfaults⟩
  · rw [World.write, if_neg (by simpa using something), htransact]
  · rw [hfaults, hlines]

end World

/-! ## Attempts -/

/-- What an attempt to create an entry meets. -/
inductive Attempt where
  | clean
  /-- The number is taken already, or another writer is at work on it. -/
  | conflict
  /-- Something else goes wrong. -/
  | failed (failure : Failure)
  deriving DecidableEq, Repr

namespace Attempt

/-- An attempt that a failure ends. -/
def ofFailure (f : Failure) : Attempt := if f.isRetried then .conflict else .failed f

/-- An attempt that a fault ends: a violated constraint and a lock are conflicts. -/
def ofFault : WriteFault → Attempt
  | .constraint _ => .conflict
  | .database text => if isLockText text then .conflict else .failed (.database text)
  | .crash text => .failed (.crash text)

/-- A fault is a conflict when it surfaces as one. -/
theorem ofFault_eq (f : WriteFault) (dayPrefix : String) :
    ofFault f = ofFailure (f.inCreation dayPrefix) := by
  cases f with
  | constraint text => rfl
  | crash text => rfl
  | database text =>
      show (if isLockText text then conflict else failed (.database text)) =
        ofFailure (if isLockText text then .ledger (.numberContended dayPrefix) else .database text)
      by_cases lock : isLockText text = true
      · rw [if_pos lock, if_pos lock]
        rfl
      · rw [if_neg lock, if_neg lock]
        rfl

theorem ofFailure_eq_conflict {f : Failure} : ofFailure f = .conflict ↔ f.isRetried = true := by
  unfold ofFailure
  split <;> simp_all

theorem ofFailure_eq_failed {f g : Failure} :
    ofFailure f = .failed g ↔ f.isRetried = false ∧ f = g := by
  unfold ofFailure
  split <;> simp_all

end Attempt

/-- A call that creates an entry, with what the services are told. -/
structure Creation where
  setting : Setting
  header : EntryHeader
  lines : List PostingLine
  post : Bool

namespace Creation

variable (c : Creation)

/-- What the number of the entry starts with. -/
def dayPrefix : String := EntryNumber.dayPrefix c.setting.numberWord c.header.date

/-- The status of the new entry. -/
def status : EntryStatus := if c.post then .posted else .draft

/-- Who has posted the new entry. -/
def postedBy : Option String := if c.post then some c.header.createdBy else none

/-- The operation that each attempt performs. -/
def op : Op := .createEntry c.header c.lines c.dayPrefix c.status c.postedBy

/-- The write of an attempt. -/
def write (s : Store) : Except Failure (Write (Entry Decimal)) := do
  s.createEntry (← c.setting.clock) c.header c.lines c.dayPrefix c.status c.postedBy

/-- What an attempt comes to that nothing hits. -/
def outcome (s : Store) : Except Failure (Entry Decimal) × Store :=
  match c.write s with
  | .error f => (.error f, s)
  | .ok p =>
    match Statement.applyAll p.statements s with
    | .ok t => (.ok p.answer, t)
    | .error fault => (.error (fault.inCreation c.dayPrefix), s)

/-- What an attempt meets with a disturbance, if there is one. A fault inside its transaction hits it
    when it is due before the commit is through. -/
def meeting (s : Store) : Option Disturbance → Attempt
  | none => .clean
  | some (.raised f) => .ofFailure f
  | some (.struck strike) =>
    match c.write s with
    | .error _ => .clean
    | .ok p =>
      match Strike.due p.statements.length (some strike) with
      | some fault => .ofFault fault
      | none => .clean

/-- The failure that a fault inside the transaction of an attempt ends it with. -/
def struckBy (s : Store) (strike : Option Strike) : Option Failure :=
  match c.write s with
  | .error _ => none
  | .ok p => (Strike.due p.statements.length strike).map (WriteFault.inCreation c.dayPrefix)

/-- The failure of an attempt that is hit. -/
def hitBy (s : Store) : Option Disturbance → Option Failure
  | none => c.struckBy s none
  | some (.raised f) => some f
  | some (.struck strike) => c.struckBy s (some strike)

/-- What an attempt comes to that is hit by a failure, or by none. -/
def comesTo (s : Store) : Option Failure → Except Failure (Entry Decimal) × Store
  | some f => (.error f, s)
  | none => c.outcome s

variable {c} {schedule : List (Option Disturbance)}

/-- An attempt meets what it is hit by. -/
theorem meeting_eq (d : Option Disturbance) :
    c.meeting s d = match c.hitBy s d with | some f => .ofFailure f | none => .clean := by
  unfold meeting hitBy struckBy
  rcases d with _ | ⟨f⟩ | strike
  · cases c.write s <;> rfl
  · rfl
  · cases c.write s with
    | error f => rfl
    | ok p =>
        dsimp only
        cases Strike.due p.statements.length (some strike) with
        | none => rfl
        | some fault => exact Attempt.ofFault_eq fault c.dayPrefix

/-! ## What an attempt does -/

/-- An attempt that nothing hits goes through, or fails for another reason than a conflict. -/
structure Possible (c : Creation) (s : Store) : Prop where
  applies : ∀ p, c.write s = .ok p → ∃ t, Statement.applyAll p.statements s = .ok t
  unretried : ∀ f, c.write s = .error f → f.isRetried = false

/-- What an attempt comes to that nothing hits, once its write is prepared. -/
theorem Possible.outcome_ok (possible : c.Possible s) {p : Write (Entry Decimal)}
    (hp : c.write s = .ok p) :
    ∃ t, Statement.applyAll p.statements s = .ok t ∧ c.outcome s = (.ok p.answer, t) := by
  obtain ⟨t, applies⟩ := possible.applies p hp
  refine ⟨t, applies, ?_⟩
  rw [outcome, hp]
  dsimp only
  rw [applies]

/-- An attempt that nothing hits meets no conflict. -/
theorem Possible.outcome_error (possible : c.Possible s) {f : Failure}
    (h : (c.outcome s).1 = .error f) : f.isRetried = false := by
  cases hp : c.write s with
  | error g =>
      rw [outcome, hp] at h
      cases h
      exact possible.unretried _ hp
  | ok p =>
      obtain ⟨t, -, houtcome⟩ := possible.outcome_ok hp
      rw [houtcome] at h
      cases h

/-- The write of an entry has statements. -/
theorem statements_ne_nil {p : Write (Entry Decimal)} (h : c.write s = .ok p) : p.statements ≠ [] := by
  obtain ⟨now, -, h⟩ := bind_eq_ok h
  obtain ⟨q, -, h⟩ := bind_eq_ok h
  cases h
  simp

/-- An attempt performs its write in the world that is left when its disturbance is taken. -/
theorem exec_op (ready : w.Ready s schedule) :
    c.op.exec c.setting.clock w =
      match schedule.head?.join with
      | some (.raised f) => (.error f, w.nextDisturbance.2)
      | some (.struck strike) => w.nextDisturbance.2.tryWrite
          (.always (WriteFault.inCreation c.dayPrefix)) (some strike) (c.write s)
      | none => w.nextDisturbance.2.tryWrite
          (.always (WriteFault.inCreation c.dayPrefix)) none (c.write s) := by
  obtain ⟨hnext, hready⟩ := ready.nextDisturbance
  unfold Op.exec
  rw [ready.pending]
  simp only [op, Op.perform]
  rw [hnext, hready.store]
  rfl

/-- The write of an attempt is undone when a fault strikes, and else comes to what it would come to
    without the fault. -/
theorem exec_write (possible : c.Possible s) (ready : w.Ready s schedule) (strike : Option Strike) :
    ∃ v, w.tryWrite (.always (WriteFault.inCreation c.dayPrefix)) strike (c.write s) =
        ((c.comesTo s (c.struckBy s strike)).1, v) ∧
      v.Ready (c.comesTo s (c.struckBy s strike)).2 schedule := by
  unfold struckBy
  cases hp : c.write s with
  | error f =>
      have houtcome : c.outcome s = (.error f, s) := by rw [outcome, hp]
      rw [comesTo, houtcome]
      exact ⟨w, rfl, ready⟩
  | ok p =>
      obtain ⟨t, applies, houtcome⟩ := possible.outcome_ok hp
      have something := statements_ne_nil hp
      dsimp only
      cases hdue : Strike.due p.statements.length strike with
      | none =>
          rw [Option.map_none, comesTo, houtcome]
          exact World.Ready.write_through something applies ready _ hdue
      | some fault => exact World.Ready.write_struck something applies ready _ hdue

/-- An attempt that is hit fails so, and leaves the world to the next one; any other comes to what it
    would come to without faults. -/
theorem exec_attempt (possible : c.Possible s) (ready : w.Ready s schedule) :
    ∃ v, c.op.exec c.setting.clock w = ((c.comesTo s (c.hitBy s schedule.head?.join)).1, v) ∧
      v.Ready (c.comesTo s (c.hitBy s schedule.head?.join)).2 schedule.tail := by
  obtain ⟨-, hready⟩ := ready.nextDisturbance
  rw [exec_op ready]
  rcases schedule.head?.join with _ | ⟨f⟩ | strike
  · exact exec_write possible hready none
  · exact ⟨_, rfl, hready⟩
  · exact exec_write possible hready (some strike)

theorem exec_conflict (possible : c.Possible s) (ready : w.Ready s schedule)
    (h : c.meeting s schedule.head?.join = .conflict) :
    ∃ f v, c.op.exec c.setting.clock w = (.error f, v) ∧ f.isRetried = true ∧
      v.Ready s schedule.tail := by
  obtain ⟨v, hexec, hv⟩ := exec_attempt possible ready
  rw [meeting_eq] at h
  cases hhit : c.hitBy s schedule.head?.join with
  | none => simp [hhit] at h
  | some f =>
      rw [hhit] at h hexec hv
      exact ⟨f, v, hexec, Attempt.ofFailure_eq_conflict.mp h, hv⟩

theorem exec_failed (possible : c.Possible s) (ready : w.Ready s schedule) {f : Failure}
    (h : c.meeting s schedule.head?.join = .failed f) :
    ∃ v, c.op.exec c.setting.clock w = (.error f, v) ∧ f.isRetried = false ∧
      v.Ready s schedule.tail := by
  obtain ⟨v, hexec, hv⟩ := exec_attempt possible ready
  rw [meeting_eq] at h
  cases hhit : c.hitBy s schedule.head?.join with
  | none => simp [hhit] at h
  | some g =>
      rw [hhit] at h hexec hv
      obtain ⟨unretried, rfl⟩ := Attempt.ofFailure_eq_failed.mp h
      exact ⟨v, hexec, unretried, hv⟩

theorem exec_clean (possible : c.Possible s) (ready : w.Ready s schedule)
    (h : c.meeting s schedule.head?.join = .clean) :
    ∃ v, c.op.exec c.setting.clock w = ((c.outcome s).1, v) ∧
      v.Ready (c.outcome s).2 schedule.tail := by
  obtain ⟨v, hexec, hv⟩ := exec_attempt possible ready
  rw [meeting_eq] at h
  cases hhit : c.hitBy s schedule.head?.join with
  | none =>
      rw [hhit] at hexec hv
      exact ⟨v, hexec, hv⟩
  | some f =>
      rw [hhit] at h
      dsimp only [Attempt.ofFailure] at h
      split at h <;> cases h

/-! ## Attempts in a row -/

/-- The attempts of the call, as long as there are some of them left. -/
def tries (c : Creation) (remaining : Nat) : Procedure (Entry Decimal) :=
  Journal.tryCreate c.op
    (fun e => do
      Procedure.log .info (Journal.createdNote e)
      return e)
    c.dayPrefix c.setting.attempts remaining

/-- What attempts meet under a schedule, counted from zero. -/
def meets (c : Creation) (s : Store) (schedule : List (Option Disturbance)) (i : Nat) : Attempt :=
  c.meeting s schedule[i]?.join

theorem meets_zero : c.meets s schedule 0 = c.meeting s schedule.head?.join := by
  rw [meets, List.head?_eq_getElem?]

theorem meets_succ (i : Nat) : c.meets s schedule (i + 1) = c.meets s schedule.tail i := by
  rw [meets, meets, List.getElem?_tail]

/-- Conflicts use up attempts, and leave the world to the attempts that remain. -/
theorem tries_conflicts (possible : c.Possible s) (remaining : Nat) {k : Nat} (ready : w.Ready s schedule)
    (conflicts : ∀ i < k, c.meets s schedule i = .conflict) :
    ∃ v, v.Ready s (schedule.drop k) ∧ ∀ ops r u,
      (c.tries remaining).Performs c.setting.clock v ops r u →
        (c.tries (remaining + k)).Performs c.setting.clock w (List.replicate k c.op ++ ops) r u := by
  induction k generalizing w schedule with
  | zero => exact ⟨w, ready, fun ops r u h => h⟩
  | succ k ih =>
      have first := conflicts 0 k.succ_pos
      rw [meets_zero] at first
      obtain ⟨f, w', hexec, retried, hready⟩ := exec_conflict possible ready first
      -- the note about the conflict stands before the next attempt
      have hnoted := hready.note ⟨.warning, .services, Journal.conflictNote c.dayPrefix
        (c.setting.attempts - (remaining + k)) c.setting.attempts f⟩
      obtain ⟨v, hv, later⟩ := ih hnoted fun i hi => by
        rw [← meets_succ]
        exact conflicts (i + 1) (Nat.succ_lt_succ hi)
      rw [List.drop_tail] at hv
      refine ⟨v, hv, fun ops r u h => ?_⟩
      refine (Procedure.performs_attempt hexec).bind ?_
      dsimp only
      rw [if_pos retried]
      exact Procedure.performs_log.bind (later ops r u h)

/-- Without attempts nothing is tried. -/
theorem tries_zero : (c.tries 0).Performs c.setting.clock w []
    (.error (.ledger (.allocationFailed c.dayPrefix c.setting.attempts))) w :=
  Procedure.performs_done

/-- A failure that is no conflict ends the attempts. -/
theorem tries_error {v : World} {f : Failure} {remaining : Nat}
    (hexec : c.op.exec c.setting.clock w = (.error f, v)) (unretried : f.isRetried = false) :
    (c.tries (remaining + 1)).Performs c.setting.clock w [c.op] (.error f) v := by
  refine (Procedure.performs_attempt hexec).bind ?_
  dsimp only
  rw [if_neg (by simp [unretried])]
  exact Procedure.performs_done

/-- A new entry ends the attempts. -/
theorem tries_ok {v : World} {e : Entry Decimal} {remaining : Nat}
    (hexec : c.op.exec c.setting.clock w = (.ok e, v)) :
    (c.tries (remaining + 1)).Performs c.setting.clock w [c.op] (.ok e)
      (v.note ⟨.info, .services, Journal.createdNote e⟩) := by
  refine (Procedure.performs_attempt hexec).bind ?_
  exact Procedure.performs_log.bind Procedure.performs_pure

/-! ## The whole call -/

/-- The session that makes the call while the attempts meet what is scheduled. -/
def under (c : Creation) (schedule : List (Option Disturbance)) : Session where
  call := .createEntry c.header c.lines c.post
  setting := c.setting
  creations := schedule

end Creation

/-- Does the operation create an entry? -/
def Op.isCreation : Op → Bool
  | .createEntry .. => true
  | _ => false

/-- How often a session asks the store to create an entry. -/
def Session.creationAttempts (x : Session) (s : Store) : Nat :=
  ((x.call.procedure x.setting).performed x.setting.clock (x.world s)).countP Op.isCreation

/-- The check of accepted lines looks accounts up, and leaves notes. -/
theorem Journal.performs_validateLines {lines : List PostingLine} {company : Uuid}
    {totals : Decimal × Decimal} (idle : w.pending = none) (few : Posting.FewAccounts lines)
    (accepted : (w.store.checkLines company lines).totals = .ok totals) :
    (validateLines lines company).Performs clock w
      [.accountsById (lines.map PostingLine.account).eraseDups] (.ok totals)
      { w with log := (w.store.checkLines company lines).notes.reverse ++ w.log } := by
  have looked : (Procedure.perform (.accountsById (lines.map PostingLine.account).eraseDups)).Performs
      clock w [.accountsById (lines.map PostingLine.account).eraseDups]
      (.ok (w.store.accountsById (lines.map PostingLine.account).eraseDups)) w := by
    refine Procedure.performs_perform ?_
    rw [Op.exec, idle]
    exact congrArg (·, w) (Store.findAccounts_of_few few)
  refine looked.bind ((Procedure.performs_notes _).bind ?_)
  exact ⟨congrArg (·, _) accepted, rfl⟩

namespace Creation

variable {c : Creation} {schedule : List (Option Disturbance)}

/-- Once the lines are accepted, the call comes to what the attempts come to. -/
theorem run_under (accepted : s.Accepts c.header.company c.lines) {n : Nat}
    {r : Except Failure (Entry Decimal)}
    (tries : ∀ w : World, w.Ready s schedule → ∃ v, v.store = t ∧
      (c.tries c.setting.attempts).Performs c.setting.clock w (List.replicate n c.op) r v) :
    (c.under schedule).run s = (r.map .entry, t) ∧ (c.under schedule).creationAttempts s = n := by
  obtain ⟨few, totals, accepted⟩ := accepted
  let ids := (c.lines.map PostingLine.account).eraseDups
  let found := (c.under schedule).world s
  let noted : World :=
    { found with log := (s.checkLines c.header.company c.lines).notes.reverse ++ found.log }
  have checked : (Journal.validateLines c.lines c.header.company).Performs c.setting.clock found
      [.accountsById ids] (.ok totals) noted := Journal.performs_validateLines rfl few accepted
  obtain ⟨v, rfl, performs⟩ := tries noted ⟨rfl, rfl, rfl, rfl⟩
  have whole := (checked.bind (f := fun _ => c.tries c.setting.attempts) performs).map
    (f := ServiceAnswer.entry)
  refine ⟨?_, ?_⟩
  · have hrun : (c.under schedule).run s =
        ((((c.under schedule).call.procedure c.setting).exec c.setting.clock found).1,
          (((c.under schedule).call.procedure c.setting).exec c.setting.clock found).2.store) := rfl
    have hexec : ((c.under schedule).call.procedure c.setting).exec c.setting.clock found =
        (r.map .entry, v) := whole.exec
    rw [hrun, hexec]
  · have hops : ((c.under schedule).call.procedure c.setting).performed c.setting.clock found =
        [.accountsById ids] ++ List.replicate n c.op := whole.performed
    show (((c.under schedule).call.procedure c.setting).performed c.setting.clock found).countP
      Op.isCreation = n
    rw [hops, List.countP_append, List.countP_replicate]
    simp [Op.isCreation, op]

/-! ## Retries -/

/-- The entry that the call creates in the store `s` with the sequence number `n`. -/
def entry {α : Type} (c : Creation) (s : Store) (now : Instant) (n : Int) (lines : List (Line α)) :
    Entry α :=
  Store.newEntry (Uuid.issue s.issued) now (EntryNumber.format c.dayPrefix n) c.header c.status c.postedBy
    lines

/-- What the call comes to on the store `s` while its attempts meet what is scheduled. -/
structure Retries (c : Creation) (s : Store) (schedule : List (Option Disturbance)) : Prop where
  /-- When the first attempt without a conflict is clean, the call does what it would have done at the
      first attempt. -/
  clean : ∀ k < c.setting.attempts, (∀ i < k, c.meets s schedule i = .conflict) →
    c.meets s schedule k = .clean →
      (c.under schedule).run s = (c.under []).run s ∧
        (c.under schedule).creationAttempts s = k + 1
  /-- When it fails, the call fails so, and nothing is tried any more. -/
  failed : ∀ k < c.setting.attempts, (∀ i < k, c.meets s schedule i = .conflict) →
    ∀ f, c.meets s schedule k = .failed f →
      (c.under schedule).run s = (.error f, s) ∧ (c.under schedule).creationAttempts s = k + 1
  /-- When there is none, the call gives up after the last attempt. -/
  exhausted : (∀ i < c.setting.attempts, c.meets s schedule i = .conflict) →
    (c.under schedule).run s =
        (.error (.ledger (.allocationFailed c.dayPrefix c.setting.attempts)), s) ∧
      (c.under schedule).creationAttempts s = c.setting.attempts
  /-- Without faults the call creates one entry, with the number that was foretold. -/
  undisturbed : ∀ now n, c.setting.clock = .ok now →
    s.peekSequence c.header.company c.dayPrefix = .ok n → Cell.fits (n + 1) = true →
      ∃ counters cells, Allocation s c.header.company c.dayPrefix n counters ∧
        storeLines (numberLines 1 c.lines) = some cells ∧
        (c.under []).run s = (.ok (.entry (c.entry s now n (numberLines 1 c.lines))),
          s.withEntry counters (c.entry s now n cells) n)

/-- What breaks no rule of the ledger is no conflict. -/
theorem unretried_of_kind? {f : Failure} (h : f.kind? = none) : f.isRetried = false := by
  rw [Failure.isRetried, h]

/-- When the number that is foretold is not in use, accepted lines are kept from the store by disturbances
    only. -/
theorem possible_of_free (sound : s.Sound) (accepted : s.Accepts c.header.company c.lines)
    (clock : ∀ f, c.setting.clock = .error f → f.isRetried = false)
    (free : ∀ n, s.peekSequence c.header.company c.dayPrefix = .ok n →
      s.numberTaken c.header.company (EntryNumber.format c.dayPrefix n) = false) : c.Possible s := by
  refine ⟨fun p hp => ?_, fun f hf => ?_⟩
  · obtain ⟨now, -, hp⟩ := bind_eq_ok hp
    exact Store.creation_applies sound accepted free hp
  · rcases bind_eq_error hf with hf | ⟨now, -, hf⟩
    · exact clock f hf
    · rcases bind_eq_error hf with hf | ⟨q, -, hf⟩
      · exact unretried_of_kind? (Store.allocate_error hf)
      · cases hf

/-- On a store after a run, accepted lines are kept from it by disturbances only. -/
theorem possible_of_counted (counted : s.Counted) (sound : s.Sound)
    (accepted : s.Accepts c.header.company c.lines)
    (clock : ∀ f, c.setting.clock = .error f → f.isRetried = false) : c.Possible s :=
  possible_of_free sound accepted clock fun _ => counted.numberFree

/-- Without a schedule every attempt is clean. -/
theorem meets_nil (i : Nat) : c.meets s [] i = .clean := rfl

/-- After conflicts, a clean attempt comes to what it would have come to at first. -/
theorem run_clean (possible : c.Possible s) (accepted : s.Accepts c.header.company c.lines) {k : Nat}
    (hk : k < c.setting.attempts) (conflicts : ∀ i < k, c.meets s schedule i = .conflict)
    (clean : c.meets s schedule k = .clean) :
    (c.under schedule).run s = ((c.outcome s).1.map .entry, (c.outcome s).2) ∧
      (c.under schedule).creationAttempts s = k + 1 := by
  obtain ⟨remaining, hattempts⟩ := Nat.exists_eq_add_of_lt hk
  refine run_under accepted fun w ready => ?_
  obtain ⟨v, hv, later⟩ := tries_conflicts possible (remaining + 1) ready conflicts
  have first : c.meeting s (schedule.drop k).head?.join = .clean := by
    rw [List.head?_drop]
    exact clean
  obtain ⟨u, hexec, hu⟩ := exec_clean possible hv first
  have hlimit : c.setting.attempts = remaining + 1 + k := by omega
  rw [hlimit, List.replicate_succ']
  cases houtcome : (c.outcome s).1 with
  | ok e =>
      rw [houtcome] at hexec
      exact ⟨_, (hu.note _).store, later _ _ _ (tries_ok hexec)⟩
  | error f =>
      rw [houtcome] at hexec
      exact ⟨_, hu.store, later _ _ _ (tries_error hexec (possible.outcome_error houtcome))⟩

/-- After conflicts, a failure of another kind is the failure of the call. -/
theorem run_failed (possible : c.Possible s) (accepted : s.Accepts c.header.company c.lines) {k : Nat}
    (hk : k < c.setting.attempts) (conflicts : ∀ i < k, c.meets s schedule i = .conflict)
    {f : Failure} (failed : c.meets s schedule k = .failed f) :
    (c.under schedule).run s = (.error f, s) ∧ (c.under schedule).creationAttempts s = k + 1 := by
  obtain ⟨remaining, hattempts⟩ := Nat.exists_eq_add_of_lt hk
  refine run_under (r := .error f) accepted fun w ready => ?_
  obtain ⟨v, hv, later⟩ := tries_conflicts possible (remaining + 1) ready conflicts
  have first : c.meeting s (schedule.drop k).head?.join = .failed f := by
    rw [List.head?_drop]
    exact failed
  obtain ⟨u, hexec, unretried, hu⟩ := exec_failed possible hv first
  have hlimit : c.setting.attempts = remaining + 1 + k := by omega
  rw [hlimit, List.replicate_succ']
  exact ⟨u, hu.store, later _ _ _ (tries_error hexec unretried)⟩

/-- When all attempts meet conflicts, the call gives up. -/
theorem run_exhausted (possible : c.Possible s) (accepted : s.Accepts c.header.company c.lines)
    (conflicts : ∀ i < c.setting.attempts, c.meets s schedule i = .conflict) :
    (c.under schedule).run s =
        (.error (.ledger (.allocationFailed c.dayPrefix c.setting.attempts)), s) ∧
      (c.under schedule).creationAttempts s = c.setting.attempts := by
  refine run_under (r := .error (.ledger (.allocationFailed c.dayPrefix c.setting.attempts))) accepted
    fun w ready => ?_
  obtain ⟨v, hv, later⟩ := tries_conflicts possible 0 ready conflicts
  have whole := later [] _ _ tries_zero
  rw [Nat.zero_add, List.append_nil] at whole
  exact ⟨v, hv.store, whole⟩

/-- Without faults the call comes to what its only attempt comes to. -/
theorem run_outcome (possible : c.Possible s) (accepted : s.Accepts c.header.company c.lines) :
    (c.under []).run s = ((c.outcome s).1.map .entry, (c.outcome s).2) := by
  have attempts : 0 < c.setting.attempts := by
    unfold Setting.attempts
    omega
  exact (run_clean possible accepted attempts (fun i hi => absurd hi i.not_lt_zero) (meets_nil 0)).1

/-- Without faults the call fails when no number can be allocated. -/
theorem run_unallocated (possible : c.Possible s) (accepted : s.Accepts c.header.company c.lines)
    {now : Instant} (clock : c.setting.clock = .ok now) {f : Failure}
    (unallocated : s.allocate c.header.company c.dayPrefix = .error f) :
    (c.under []).run s = (.error f, s) := by
  have failed : c.write s = .error f := by
    rw [write, clock]
    dsimp only [bind, Except.bind]
    rw [Store.createEntry, unallocated]
    rfl
  rw [run_outcome possible accepted, outcome, failed]
  rfl

/-- Without faults the call creates one entry, with the number that is allocated. -/
theorem run_allocated (possible : c.Possible s) (accepted : s.Accepts c.header.company c.lines)
    {now : Instant} (clock : c.setting.clock = .ok now) {q : Write Int}
    (hq : s.allocate c.header.company c.dayPrefix = .ok q)
    (ht : Statement.applyAll q.statements s = .ok t) :
    ∃ cells, storeLines (numberLines 1 c.lines) = some cells ∧ s.stored? (Uuid.issue s.issued) = none ∧
      (c.under []).run s = (.ok (.entry (c.entry s now q.answer (numberLines 1 c.lines))),
        s.withEntry t.counters (c.entry s now q.answer cells) q.answer) := by
  obtain ⟨p, hcreated⟩ : ∃ p, s.createEntry now c.header c.lines c.dayPrefix c.status c.postedBy =
      .ok p := by
    unfold Store.createEntry
    rw [hq]
    exact ⟨_, rfl⟩
  have hp : c.write s = .ok p := by
    rw [write, clock]
    exact hcreated
  obtain ⟨u, applies, houtcome⟩ := possible.outcome_ok hp
  obtain ⟨cells, stored, new, -, hentry, hu⟩ :=
    Store.createEntry_allocated hq ht hcreated ⟨rfl, applies⟩
  refine ⟨cells, stored, new, ?_⟩
  rw [run_outcome possible accepted, houtcome, hentry, hu]
  rfl

/-- Without faults the call creates one entry, with the number that was foretold. -/
theorem run_undisturbed (possible : c.Possible s) (accepted : s.Accepts c.header.company c.lines)
    {now : Instant} {n : Int} (clock : c.setting.clock = .ok now)
    (number : s.peekSequence c.header.company c.dayPrefix = .ok n) (fits : Cell.fits (n + 1) = true) :
    ∃ counters cells, Allocation s c.header.company c.dayPrefix n counters ∧
      storeLines (numberLines 1 c.lines) = some cells ∧
      (c.under []).run s = (.ok (.entry (c.entry s now n (numberLines 1 c.lines))),
        s.withEntry counters (c.entry s now n cells) n) := by
  obtain ⟨q, hq⟩ := Store.allocate_of_peekSequence number fits
  obtain ⟨t, ht⟩ := Store.allocate_applies hq
  obtain ⟨allocation, -⟩ := Store.allocate_sent hq ht
  obtain ⟨cells, stored, -, hrun⟩ := run_allocated possible accepted clock hq ht
  cases allocation.number.symm.trans number
  exact ⟨t.counters, cells, allocation, stored, hrun⟩

/-- After every run, conflicts about the number of an accepted entry leave no trace: the first attempt
    without one decides what the call comes to, and without any such attempt there is no entry. -/
theorem retries (sessions : List Session) (c : Creation) (schedule : List (Option Disturbance))
    (accepted : (Store.after sessions).Accepts c.header.company c.lines)
    (clock : ∀ f, c.setting.clock = .error f → f.isRetried = false) :
    c.Retries (Store.after sessions) schedule := by
  have possible := possible_of_counted (Store.after_counted sessions) (Store.after_sound sessions)
    accepted clock
  refine ⟨fun k hk conflicts clean => ?_, fun k hk conflicts f failed => ?_, fun conflicts => ?_,
    fun now n clock number fits => ?_⟩
  · obtain ⟨hrun, hcount⟩ := run_clean possible accepted hk conflicts clean
    obtain ⟨hfirst, -⟩ := run_clean possible accepted (k.zero_le.trans_lt hk)
      (fun i hi => absurd hi i.not_lt_zero) (meets_nil 0)
    exact ⟨hrun.trans hfirst.symm, hcount⟩
  · exact run_failed possible accepted hk conflicts failed
  · exact run_exhausted possible accepted conflicts
  · exact run_undisturbed possible accepted clock number fits

/-- A posted entry of 100. -/
def hundred : Creation where
  setting := { clock := .ok default, maxRetries := 3 }
  header := { company := ⟨1⟩, date := firstDay, createdBy := "clerk" }
  lines :=
    [{ account := Uuid.issue 0, debit := .finite false 100 0 },
      { account := Uuid.issue 1, credit := .finite false 100 0 }]
  post := true

/-- Another writer makes the counter first, and then holds it; the third attempt is clean. -/
def racesTwice : List (Option Disturbance) :=
  [some (.struck ⟨0, .constraint "UNIQUE constraint failed: entrysequence.day_prefix"⟩),
    some (.raised (.ledger (.numberContended "JE-20240105")))]

theorem retries_hundred :
    (hundred.under racesTwice).run (Store.after [Session.opensTwoAccounts]) =
        (hundred.under []).run (Store.after [Session.opensTwoAccounts]) ∧
      (hundred.under racesTwice).creationAttempts (Store.after [Session.opensTwoAccounts]) = 3 := by
  have transparent := retries [Session.opensTwoAccounts] hundred racesTwice
    ⟨by decide, (.finite false 100 0, .finite false 100 0), by decide +kernel⟩ nofun
  exact transparent.clean 2 (by decide) (by decide +kernel) (by decide +kernel)

end Creation

end Bookkeeping
