import Bookkeeping.Proofs.Calls
import Mathlib.Logic.Function.Basic

set_option autoImplicit false

/-! # Clients at work together

Several clients share a store. Each is in the middle of a call, in a session of its own, and they take
turns in an order that nobody fixes: a turn performs one operation of one call (`Office.play`). What one
turn can do is told by `Procedure.Goes`; whatever is to hold in every order is shown of one turn. A
client who is never interrupted comes to what the session comes to (`Office.play_alone`), so that runs
of sessions are the orders in which nobody is. -/

namespace Bookkeeping

/-! ## Clients -/

/-- A client in the middle of a call. The store in the world around the session is the one that the
    client has left at the last turn. -/
structure Client where
  clock : Clock
  world : World
  rest : Procedure ServiceAnswer

/-- The client of a session that is about to begin. -/
def Session.client (x : Session) (s : Store) : Client where
  clock := x.setting.clock
  world := x.world s
  rest := x.call.procedure x.setting

namespace Client

/-- The world around the session, with the store as it is now. -/
def facing (c : Client) (s : Store) : World := { c.world with store := s }

/-- Go on by one operation, or by one note in the log, in the store as it is now. -/
def turn (c : Client) (s : Store) : Client :=
  match c.rest with
  | .done _ => { c with world := c.facing s }
  | .note r rest => { c with world := (c.facing s).note r, rest }
  | .step op rest =>
      let (answer, w) := op.exec c.clock (c.facing s)
      { c with world := w, rest := rest answer }

/-- What the call has ended with, if it has. -/
def result? (c : Client) : Option (Except Failure ServiceAnswer) :=
  match c.rest with
  | .done r => some r
  | _ => none

/-- The call has ended with an answer. -/
def answered (c : Client) : Bool :=
  match c.rest with
  | .done (.ok _) => true
  | _ => false

/-- No other writer than the clients is at work. -/
def Undisturbed (c : Client) : Prop := c.world.faults.race = none

theorem result?_eq_some {c : Client} {r : Except Failure ServiceAnswer} :
    c.result? = some r ↔ c.rest = .done r := by
  unfold result?
  split <;> simp_all

end Client

/-! ## Turns -/

/-- One turn takes a call and the store to the rest of the call and the store after. -/
def Procedure.Goes {α : Type} (clock : Clock) : Procedure α → Store → Procedure α → Store → Prop
  | .done r, s, p, s' => p = .done r ∧ s' = s
  | .note _ rest, s, p, s' => p = rest ∧ s' = s
  | .step op rest, s, p, s' => ∃ r, op.Outcome clock s r s' ∧ p = rest r

namespace Client

variable {c : Client} {s : Store}

theorem turn_done {r : Except Failure ServiceAnswer} (h : c.rest = .done r) :
    c.turn s = { c with world := c.facing s } := by
  rw [turn, h]

theorem turn_note {r : LogRecord} {rest : Procedure ServiceAnswer} (h : c.rest = .note r rest) :
    c.turn s = { c with world := (c.facing s).note r, rest } := by
  rw [turn, h]

theorem turn_step {op : Op} {rest : Except Failure op.Result → Procedure ServiceAnswer}
    (h : c.rest = .step op rest) :
    c.turn s = { c with
      world := (op.exec c.clock (c.facing s)).2
      rest := rest (op.exec c.clock (c.facing s)).1 } := by
  rw [turn, h]

@[simp] theorem turn_clock : (c.turn s).clock = c.clock := by
  unfold turn
  split <;> rfl

/-- A turn is the beginning of the rest of the call. -/
theorem exec_turn (c : Client) (s : Store) :
    (c.turn s).rest.exec c.clock (c.turn s).world = c.rest.exec c.clock (c.facing s) := by
  cases hc : c.rest with
  | done r => rw [turn_done hc, hc]
  | note r rest => rw [turn_note hc]; rfl
  | step op rest => rw [turn_step hc]; rfl

/-- What a turn does to the call and to the store. -/
theorem turn_goes (h : c.Undisturbed) :
    c.rest.Goes c.clock s (c.turn s).rest (c.turn s).world.store ∧ (c.turn s).Undisturbed := by
  cases hc : c.rest with
  | done r =>
      rw [turn_done hc]
      exact ⟨⟨hc, rfl⟩, h⟩
  | note r rest =>
      rw [turn_note hc]
      exact ⟨⟨rfl, rfl⟩, h⟩
  | step op rest =>
      rw [turn_step hc]
      obtain ⟨outcome, quiet⟩ := Op.exec_outcome (w := c.facing s) h rfl
      exact ⟨⟨_, outcome, rfl⟩, quiet⟩

end Client

/-! ## Looking around

Between two operations of a call others may change the store. A call that only looks says little about
the store at its end, but what it answers is what some store on the way has shown. -/

/-- The operation only looks at the store. -/
def Op.isRead : Op → Bool
  | .account _ | .accountByCode _ _ | .accountsById _ | .accountsOf _ _ | .vatAccountsOf _
  | .hasLines _ | .entry _ | .entriesOf _ _ | .reversalOf _ | .peekSequence _ _ | .postedTotals _ _
  | .postedTotalsBefore _ _ | .postedLines _ _ _ => true
  | .addAccounts _ _ | .saveAccount _ | .deleteAccount _ | .createEntry _ _ _ _ _
  | .replaceDraft _ _ _ _ | .transition _ _ _ _ | .deleteEntry _ => false

theorem Op.Outcome.unchanged {clock : Clock} {s s' : Store} {op : Op}
    {r : Except Failure op.Result} (h : op.Outcome clock s r s') (look : op.isRead) : s' = s := by
  cases r with
  | error f => exact h
  | ok a => cases op <;> first | exact h.2 | cases look

namespace Procedure

variable {α β : Type} {clock : Clock}

/-- Whatever stores the call finds on its way, it only looks at them, and its answer satisfies `Q`. -/
def Inspects (clock : Clock) (Q : α → Prop) : Procedure α → Prop
  | .done r => ∀ a, r = .ok a → Q a
  | .note _ rest => rest.Inspects clock Q
  | .step op rest => op.isRead ∧ ∀ r s, op.Outcome clock s r s → (rest r).Inspects clock Q

theorem inspects_notes (records : List LogRecord) : (notes records).Inspects clock fun _ => True := by
  induction records with
  | nil => exact fun _ _ => trivial
  | cons record rest ih => exact ih

theorem inspects_perform {op : Op} (look : op.isRead) :
    (perform op).Inspects clock fun a => ∃ s, op.Effect clock s a s := by
  refine ⟨look, fun r s hr a ha => ?_⟩
  subst ha
  exact ⟨s, hr⟩

theorem inspects_ofExcept {x : Except Failure α} :
    (ofExcept x).Inspects clock fun a => x = .ok a := fun _ ha => ha

theorem Inspects.bind {p : Procedure α} {f : α → Procedure β} {Q : α → Prop} {R : β → Prop}
    (hp : p.Inspects clock Q) (hf : ∀ a, Q a → (f a).Inspects clock R) :
    (p >>= f).Inspects clock R := by
  induction p with
  | done r =>
      cases r with
      | error e => exact fun _ h => by cases h
      | ok a => exact hf a (hp a rfl)
  | note record rest ih => exact ih hp
  | step op rest ih => exact ⟨hp.1, fun r s hr => ih r (hp.2 r s hr)⟩

end Procedure

namespace Journal

open Procedure

variable {clock : Clock}

/-- The entry that is found has the identifier that was asked for. -/
theorem getEntry_inspects (id : Uuid) : (getEntry id).Inspects clock fun e => e.id = id := by
  refine (inspects_perform rfl).bind fun found hfound => ?_
  obtain ⟨s, hs, -⟩ := hfound
  cases found with
  | none => exact fun _ h => by cases h
  | some e =>
      intro a ha
      cases ha
      obtain ⟨old, found, -, rfl⟩ := stored?_of_entry? hs
      exact (Store.stored?_some found).2

theorem validateLines_inspects (lines : List PostingLine) (company : Uuid) :
    (validateLines lines company).Inspects clock fun _ => True := by
  refine (inspects_perform rfl).bind fun accounts _ => ?_
  exact (inspects_notes _).bind fun _ _ _ _ => trivial

end Journal

/-! ## Offices -/

/-- Clients at work on one store. -/
structure Office (ι : Type) where
  store : Store
  client : ι → Client

namespace Office

variable {ι : Type} {o : Office ι} {i j : ι}

/-- The clients are about to begin. -/
def opening (s : Store) (calls : ι → Session) : Office ι where
  store := s
  client i := (calls i).client s

/-- All calls have ended. -/
def Ended (o : Office ι) : Prop := ∀ i, (o.client i).result?.isSome

variable [DecidableEq ι]

/-- It is the turn of a client. -/
def turn (o : Office ι) (i : ι) : Office ι :=
  let c := (o.client i).turn o.store
  { store := c.world.store, client := Function.update o.client i c }

/-- The clients take turns in this order. -/
def play (o : Office ι) (order : List ι) : Office ι := order.foldl turn o

@[simp] theorem turn_client_self : (o.turn i).client i = (o.client i).turn o.store :=
  Function.update_self ..

@[simp] theorem turn_client_of_ne (h : j ≠ i) : (o.turn i).client j = o.client j :=
  Function.update_of_ne h ..

theorem play_append (order order' : List ι) :
    o.play (order ++ order') = (o.play order).play order' := List.foldl_append

/-- What holds of the client whose turn it is and of all others holds of every client. -/
theorem forall_client_turn {P : ι → Client → Prop} (self : P i ((o.client i).turn o.store))
    (others : ∀ j, j ≠ i → P j (o.client j)) (j : ι) : P j ((o.turn i).client j) := by
  by_cases hj : j = i
  · subst hj
    rw [turn_client_self]
    exact self
  · rw [turn_client_of_ne hj]
    exact others j hj

/-- What every turn keeps holds after every order of turns. -/
theorem play_invariant {P : Office ι → Prop} (step : ∀ o i, P o → P (o.turn i)) (order : List ι)
    (start : P o) : P (o.play order) := by
  induction order generalizing o with
  | nil => exact start
  | cons i rest ih => exact ih (step o i start)

/-- Turns of others leave a client alone. -/
theorem play_client_of_notMem {order : List ι} (h : i ∉ order) :
    (o.play order).client i = o.client i := by
  induction order generalizing o with
  | nil => rfl
  | cons k rest ih =>
      rw [List.mem_cons, not_or] at h
      exact (ih h.2).trans (turn_client_of_ne h.1)

/-! ## Working alone -/

/-- A client whose turn it always is comes to what is left of the call, as if there was no one else. -/
def FinishesAlone (o : Office ι) (i : ι) : Prop :=
  let outcome := (o.client i).rest.exec (o.client i).clock ((o.client i).facing o.store)
  ∃ n, ((o.play (.replicate n i)).client i).result? = some outcome.1 ∧
    (o.play (.replicate n i)).store = outcome.2.store

theorem FinishesAlone.of_turn (h : (o.turn i).FinishesAlone i) : o.FinishesAlone i := by
  obtain ⟨n, hn⟩ := h
  have hexec : ((o.client i).turn o.store).rest.exec (o.client i).clock
      (((o.client i).turn o.store).facing (o.turn i).store) =
        (o.client i).rest.exec (o.client i).clock ((o.client i).facing o.store) :=
    (o.client i).exec_turn o.store
  rw [turn_client_self, Client.turn_clock, hexec] at hn
  exact ⟨n + 1, hn⟩

theorem finishesAlone (o : Office ι) (i : ι) : o.FinishesAlone i := by
  -- along the call: after a turn the client stands before what is left of it
  generalize hp : (o.client i).rest = p
  induction p generalizing o with
  | done r =>
      refine ⟨0, Client.result?_eq_some.mpr ?_, ?_⟩
      · show (o.client i).rest = _
        rw [hp]
        rfl
      · rw [hp]
        rfl
  | note r rest ih =>
      have hturn : ((o.turn i).client i).rest = rest := by
        rw [turn_client_self, Client.turn_note hp]
      exact (ih (o.turn i) hturn).of_turn
  | step op rest ih =>
      have hturn : ((o.turn i).client i).rest =
          rest (op.exec (o.client i).clock ((o.client i).facing o.store)).1 := by
        rw [turn_client_self, Client.turn_step hp]
      exact (ih _ (o.turn i) hturn).of_turn

/-- Who works alone ends with what the session comes to. -/
theorem play_alone (s : Store) (calls : ι → Session) (i : ι) :
    ∃ n, (((opening s calls).play (.replicate n i)).client i).result? = some ((calls i).run s).1 ∧
      ((opening s calls).play (.replicate n i)).store = ((calls i).run s).2 :=
  (opening s calls).finishesAlone i

end Office

end Bookkeeping
