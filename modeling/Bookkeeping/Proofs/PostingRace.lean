import Bookkeeping.Proofs.Interleaving
import Bookkeeping.Proofs.Runs

set_option autoImplicit false

/-! # Clients that change the same entry

Posting, editing, making void and deleting an entry each look at it first and write once, in a later
operation (`Procedure.WritesOnce`). So a call that answers has taken effect at one of its turns
(`Office.takes_effect`), and what is left to see is what the turns of the other clients make of the
store after it. An edit and a change of status look at the status again as they write, and leave an
entry that is posted. A deletion does not: it removes what it has found unposted before, posted or not.
Hence a posting that was answered lasts exactly if no deletion is answered (`Office.posting_lasts_iff`),
and a deletion that has found the entry unposted takes it away (`Office.posting_lost_to_deletion`). -/

namespace Bookkeeping

variable {clock : Clock} {s s' : Store} {id : Uuid}

/-! ## The entry in the store -/

namespace Store

/-- The entry is stored, it is posted, and it reads as `e`. -/
def Keeps (s : Store) (id : Uuid) (e : Entry Decimal) : Prop :=
  ∃ old, s.stored? id = some old ∧ old.isPosted = true ∧ old.shown = e

/-- What is stored under the identifier is posted, if there is anything. -/
def Sealed (s : Store) (id : Uuid) : Prop := ∀ old, s.stored? id = some old → old.isPosted = true

theorem Keeps.sealed {e : Entry Decimal} (h : s.Keeps id e) : s.Sealed id := by
  intro old found
  obtain ⟨x, hx, posted, -⟩ := h
  cases hx.symm.trans found
  exact posted

theorem Sealed.of_none (h : s.stored? id = none) : s.Sealed id := by
  intro old found
  cases h.symm.trans found

/-- A posted entry is no draft. -/
theorem Sealed.not_draft (sealed : s.Sealed id) {old : StoredEntry} (found : s.stored? id = some old) :
    old.isIn .draft = false := by
  have posted := (StoredEntry.isIn_iff.mp (sealed old found)).2
  rw [Bool.eq_false_iff]
  intro draft
  exact absurd (posted.symm.trans (StoredEntry.isIn_iff.mp draft).2) (by decide)

/-- The entry after a change of it. -/
theorem stored?_updateStored {f : StoredEntry → StoredEntry} (hf : ∀ e, (f e).entry.id = e.entry.id) :
    (s.updateStored id f).stored? id = (s.stored? id).map f := by
  unfold updateStored stored?
  rw [List.find?_map]
  have same : ((fun e : StoredEntry => e.entry.id == id) ∘ fun e => if e.entry.id == id then f e else e) =
      fun e : StoredEntry => e.entry.id == id := by
    funext e
    by_cases h : e.entry.id = id
    · simp [h, hf]
    · simp [h]
  rw [same]
  cases found : s.entries.find? fun e => e.entry.id == id with
  | none => rfl
  | some e => simp [show e.entry.id = id from by simpa using List.find?_some found]

theorem stored?_removed :
    ({ s with entries := s.entries.filter fun e => e.entry.id != id } : Store).stored? id = none := by
  rw [stored?_eq_none]
  intro e he
  simpa using (List.mem_filter.mp he).2

end Store

/-! ## What the writes do to it -/

/-- The operation changes the entry, if it is a draft. -/
def Op.ChangesDraft (id : Uuid) : Op → Prop
  | .replaceDraft i _ _ _ | .transition i .draft _ _ => i = id
  | _ => False

/-- A change of drafts leaves a posted entry, and brings none back. -/
theorem Op.Effect.stored?_of_sealed {op : Op} {a : op.Result} (h : op.Effect clock s a s')
    (changes : op.ChangesDraft id) (sealed : s.Sealed id) : s'.stored? id = s.stored? id := by
  cases op with
  | replaceDraft i u lines user =>
      obtain rfl : i = id := changes
      obtain ⟨p, hp, sent⟩ := h
      rcases Store.replaceDraft_sent hp sent with ⟨-, rfl⟩ | ⟨old, now, cells, -, found, draft, -⟩
      · rfl
      · rw [sealed.not_draft found] at draft
        cases draft
  | transition i expected target user =>
      cases expected with
      | draft =>
          obtain rfl : i = id := changes
          obtain ⟨now, -, sent⟩ := h
          obtain ⟨-, rfl⟩ := Store.transition_sent sent
          rw [Store.stored?_updateStored]
          · cases found : s.stored? i with
            | none => rfl
            | some old => simp [sealed.not_draft found]
          · intro e
            split <;> rfl
      | posted | void => cases changes
  | _ => cases changes

/-- A draft that is posted is kept as the answer shows it. -/
theorem Op.Effect.keeps {user : String} {e : Entry Decimal}
    (h : (Op.transition id .draft .posted user).Effect clock s (some e) s') : s'.Keeps id e := by
  obtain ⟨now, -, sent⟩ := h
  obtain ⟨answer, rfl⟩ := Store.transition_sent sent
  obtain ⟨old, found, hshown⟩ := Option.map_eq_some_iff.mp answer.symm
  obtain ⟨found, draft⟩ := Option.filter_eq_some_iff.mp found
  refine ⟨old.moved .posted user now, ?_, ?_, hshown⟩
  · rw [Store.stored?_updateStored, found]
    · simp [draft]
    · intro e
      split <;> rfl
  · exact StoredEntry.isIn_iff.mpr ⟨(StoredEntry.isIn_iff.mp draft).1, rfl⟩

theorem Op.Effect.removes {a : Unit} (h : (Op.deleteEntry id).Effect clock s a s') :
    s'.stored? id = none := by
  rw [Store.deleteEntry_sent h]
  exact Store.stored?_removed

/-! ## Calls that write once -/

namespace Procedure

variable {α β : Type} {p p' : Procedure α} {r : Except Failure α}
  {W : (op : Op) → op.Result → Except Failure α → Prop}

/-- Nothing is left of the call but notes in the log, and its end. -/
def Ends (r : Except Failure α) : Procedure α → Prop
  | .done x => x = r
  | .note _ rest => rest.Ends r
  | .step _ _ => False

/-- The call only looks, and then writes once and ends: what it writes, what that answers and what the
    call ends with are related by `W`. Unless it has written it fails. -/
def WritesOnce (clock : Clock) (W : (op : Op) → op.Result → Except Failure α → Prop) :
    Procedure α → Prop
  | .done r => ∃ f, r = .error f
  | .note _ rest => rest.WritesOnce clock W
  | .step op rest =>
      (op.isRead ∧ ∀ r s, op.Outcome clock s r s → (rest r).WritesOnce clock W) ∨
        (∀ f, (rest (.error f)).WritesOnce clock W) ∧ ∀ a, ∃ r, W op a r ∧ (rest (.ok a)).Ends r

/-! ### Parts of a call -/

theorem ends_log_pure {level : LogLevel} {message : String} {a : α} :
    (do log level message; return a : Procedure α).Ends (.ok a) := rfl

theorem Ends.map {f : α → β} (h : p.Ends r) : (do return f (← p) : Procedure β).Ends (r.map f) := by
  induction p with
  | done x =>
      obtain rfl : x = r := h
      cases x <;> rfl
  | note record rest ih => exact ih h
  | step op rest => cases h

theorem WritesOnce.map (f : α → β) (h : p.WritesOnce clock W) :
    (do return f (← p) : Procedure β).WritesOnce clock fun op a r => ∃ x, W op a x ∧ r = x.map f := by
  induction p with
  | done x =>
      obtain ⟨e, rfl⟩ := h
      exact ⟨e, rfl⟩
  | note record rest ih => exact ih h
  | step op rest ih =>
      rcases h with ⟨look, h⟩ | ⟨failed, written⟩
      · left
        exact ⟨look, fun r s hr => ih r (h r s hr)⟩
      · right
        refine ⟨fun f => ih _ (failed f), ?_⟩
        intro a
        obtain ⟨x, hx, ends⟩ := written a
        exact ⟨x.map f, ⟨x, hx, rfl⟩, ends.map⟩

theorem WritesOnce.mono {W' : (op : Op) → op.Result → Except Failure α → Prop}
    (h : p.WritesOnce clock W) (hW : ∀ op a r, W op a r → W' op a r) : p.WritesOnce clock W' := by
  induction p with
  | done r => exact h
  | note record rest ih => exact ih h
  | step op rest ih =>
      rcases h with ⟨look, h⟩ | ⟨failed, written⟩
      · left
        exact ⟨look, fun r s hr => ih r (h r s hr)⟩
      · right
        refine ⟨fun f => ih _ (failed f), ?_⟩
        intro a
        obtain ⟨x, hx, ends⟩ := written a
        exact ⟨x, hW op a x hx, ends⟩

/-- What only looks may come before the write. -/
theorem Inspects.bind_writesOnce {p : Procedure β} {f : β → Procedure α} {Q : β → Prop}
    (hp : p.Inspects clock Q) (hf : ∀ b, Q b → (f b).WritesOnce clock W) :
    (p >>= f).WritesOnce clock W := by
  induction p with
  | done r =>
      cases r with
      | error e => exact ⟨e, rfl⟩
      | ok b => exact hf b (hp b rfl)
  | note record rest ih => exact ih hp
  | step op rest ih =>
      left
      exact ⟨hp.1, fun r s hr => ih r (hp.2 r s hr)⟩

/-- The write, and what is made of its answer. -/
theorem writesOnce_perform {op : Op} {f : op.Result → Procedure α}
    (written : ∀ a, ∃ r, W op a r ∧ (f a).Ends r) : (perform op >>= f).WritesOnce clock W := by
  right
  exact ⟨fun e => ⟨e, rfl⟩, written⟩

/-! ### One turn -/

theorem Ends.goes (h : p.Ends r) (hgoes : p.Goes clock s p' s') : p'.Ends r ∧ s' = s := by
  cases p with
  | done x =>
      obtain ⟨rfl, rfl⟩ := hgoes
      exact ⟨h, rfl⟩
  | note record rest =>
      obtain ⟨rfl, rfl⟩ := hgoes
      exact ⟨h, rfl⟩
  | step op rest => cases h

/-- A turn leaves the store and the write still to come, or it writes and the call is to end. -/
theorem WritesOnce.goes (h : p.WritesOnce clock W) (hgoes : p.Goes clock s p' s') :
    (p'.WritesOnce clock W ∧ s' = s) ∨
      ∃ op a r, op.Effect clock s a s' ∧ W op a r ∧ p'.Ends r := by
  cases p with
  | done x =>
      obtain ⟨rfl, rfl⟩ := hgoes
      left
      exact ⟨h, rfl⟩
  | note record rest =>
      obtain ⟨rfl, rfl⟩ := hgoes
      left
      exact ⟨h, rfl⟩
  | step op rest =>
      obtain ⟨r, outcome, rfl⟩ := hgoes
      rcases h with ⟨look, h⟩ | ⟨failed, written⟩
      · obtain rfl := outcome.unchanged look
        left
        exact ⟨h r _ outcome, rfl⟩
      · cases r with
        | error f =>
            left
            exact ⟨failed f, outcome⟩
        | ok a =>
            right
            obtain ⟨x, hx, ends⟩ := written a
            exact ⟨op, a, x, outcome, hx, ends⟩

end Procedure

/-! ## The calls -/

/-- The draft is posted, and the call answers with it as it is then. -/
def Op.Posts (id : Uuid) : (op : Op) → op.Result → Except Failure (Entry Decimal) → Prop
  | .transition i .draft .posted _, some e, r => i = id ∧ r = .ok e
  | .transition i .draft .posted _, none, r => i = id ∧ ∃ f, r = .error f
  | _, _, _ => False

/-- The entry is removed, and the call answers. -/
def Op.Removes (id : Uuid) : (op : Op) → op.Result → Except Failure Unit → Prop
  | .deleteEntry i, _, r => i = id ∧ ∃ a, r = .ok a
  | _, _, _ => False

namespace Journal

open Procedure

variable {user : String}

theorem requireDraft_inspects (e : Entry Decimal) (action : String) :
    (requireDraft e action).Inspects clock fun _ => True := by
  unfold requireDraft
  split
  · intro a _
    trivial
  · intro a h
    cases h

/-- Posting writes once: it changes the status of a draft. -/
theorem postEntry_writesOnce : (postEntry id user).WritesOnce clock (Op.Posts id) := by
  refine (getEntry_inspects id).bind_writesOnce fun entry _ => ?_
  dsimp only
  split
  · exact ⟨_, rfl⟩
  refine (requireDraft_inspects entry "posted").bind_writesOnce fun _ _ => ?_
  refine (validateLines_inspects _ entry.company).bind_writesOnce fun _ _ => ?_
  refine writesOnce_perform fun posted => ?_
  cases posted with
  | none => exact ⟨_, ⟨rfl, _, rfl⟩, rfl⟩
  | some e => exact ⟨.ok e, ⟨rfl, rfl⟩, ends_log_pure⟩

theorem voidEntry_writesOnce :
    (voidEntry id user).WritesOnce clock fun op _ _ => op.ChangesDraft id := by
  refine (getEntry_inspects id).bind_writesOnce fun entry _ => ?_
  refine (requireDraft_inspects entry "voided").bind_writesOnce fun _ _ => ?_
  refine writesOnce_perform fun voided => ?_
  cases voided with
  | none => exact ⟨_, rfl, rfl⟩
  | some e => exact ⟨.ok e, rfl, ends_log_pure⟩

theorem updateDraft_writesOnce {u : EntryUpdate} {lines : List PostingLine} :
    (updateDraft id u lines user).WritesOnce clock fun op _ _ => op.ChangesDraft id := by
  refine (getEntry_inspects id).bind_writesOnce fun entry _ => ?_
  refine (requireDraft_inspects entry "modified").bind_writesOnce fun _ _ => ?_
  refine (validateLines_inspects lines entry.company).bind_writesOnce fun _ _ => ?_
  refine writesOnce_perform fun updated => ?_
  cases updated with
  | none => exact ⟨_, rfl, rfl⟩
  | some e => exact ⟨.ok e, rfl, ends_log_pure⟩

/-- A deletion writes once: it removes the entry, without another look at it. -/
theorem deleteEntry_writesOnce : (deleteEntry id).WritesOnce clock (Op.Removes id) := by
  refine (getEntry_inspects id).bind_writesOnce fun entry _ => ?_
  dsimp only
  split
  · exact ⟨_, rfl⟩
  refine writesOnce_perform fun _ => ?_
  exact ⟨.ok (), ⟨rfl, (), rfl⟩, rfl⟩

end Journal

/-! ## The clients -/

/-- The call posts, edits, makes void or deletes the entry. -/
inductive ServiceCall.Changes (id : Uuid) : ServiceCall → Prop where
  | post (user : String) : Changes id (.postEntry id user)
  | edit (update : EntryUpdate) (lines : List PostingLine) (user : String) :
      Changes id (.updateDraft id update lines user)
  | void (user : String) : Changes id (.voidEntry id user)
  | delete : Changes id (.deleteEntry id)

/-- The operation changes the entry if it is a draft, or removes it for a call that deletes it. -/
def ServiceCall.Touches (c : ServiceCall) (id : Uuid) (op : Op) (_ : op.Result)
    (r : Except Failure ServiceAnswer) : Prop :=
  op.ChangesDraft id ∨ (op = .deleteEntry id ∧ c = .deleteEntry id ∧ ∃ a, r = .ok a)

theorem ServiceCall.Changes.writesOnce {c : ServiceCall} (h : c.Changes id) (st : Setting) :
    (c.procedure st).WritesOnce clock (c.Touches id) := by
  cases h with
  | post user =>
      refine (Journal.postEntry_writesOnce.map _).mono ?_
      rintro op a r ⟨x, posts, -⟩
      left
      unfold Op.Posts at posts
      split at posts
      · exact posts.1
      · exact posts.1
      · cases posts
  | edit update lines user =>
      refine (Journal.updateDraft_writesOnce.map _).mono ?_
      rintro op a r ⟨x, changes, -⟩
      exact .inl changes
  | void user =>
      refine (Journal.voidEntry_writesOnce.map _).mono ?_
      rintro op a r ⟨x, changes, -⟩
      exact .inl changes
  | delete =>
      refine (Journal.deleteEntry_writesOnce.map _).mono ?_
      rintro op a r ⟨x, removes, rfl⟩
      right
      unfold Op.Removes at removes
      split at removes
      · obtain ⟨rfl, u, rfl⟩ := removes
        exact ⟨rfl, rfl, _, rfl⟩
      · cases removes

namespace Client

variable {c : Client} {W : (op : Op) → op.Result → Except Failure ServiceAnswer → Prop}

/-- The client is still going to write once, or is about to end. -/
structure Writes (W : (op : Op) → op.Result → Except Failure ServiceAnswer → Prop) (c : Client) :
    Prop where
  undisturbed : c.Undisturbed
  rest : c.rest.WritesOnce c.clock W ∨ ∃ r, c.rest.Ends r

/-- A turn leaves the store, or it writes and the client is about to end. -/
theorem Writes.turn (h : c.Writes W) (s : Store) :
    (c.turn s).Writes W ∧ ((c.turn s).world.store = s ∨
      ∃ op a r, op.Effect c.clock s a (c.turn s).world.store ∧ W op a r ∧ (c.turn s).rest.Ends r) := by
  obtain ⟨goes, undisturbed⟩ := turn_goes (s := s) h.undisturbed
  rcases h.rest with writes | ⟨r, ends⟩
  · rcases writes.goes goes with ⟨writes, hs⟩ | ⟨op, a, r, effect, hW, ends⟩
    · refine ⟨⟨undisturbed, .inl ?_⟩, .inl hs⟩
      rw [turn_clock]
      exact writes
    · exact ⟨⟨undisturbed, .inr ⟨r, ends⟩⟩, .inr ⟨op, a, r, effect, hW, ends⟩⟩
  · obtain ⟨ends, hs⟩ := ends.goes goes
    exact ⟨⟨undisturbed, .inr ⟨r, ends⟩⟩, .inl hs⟩

theorem answered_of_ends {a : ServiceAnswer} (ends : c.rest.Ends (.ok a)) (ended : c.result?.isSome) :
    c.answered = true := by
  obtain ⟨r, hr⟩ := Option.isSome_iff_exists.mp ended
  rw [result?_eq_some] at hr
  rw [hr] at ends
  obtain rfl : r = .ok a := ends
  rw [answered, hr]

theorem answered_iff : c.answered = true ↔ ∃ a, c.rest = .done (.ok a) := by
  unfold answered
  split <;> simp_all

end Client

theorem Session.client_writes {x : Session} (h : x.call.Changes id) :
    (x.client s).Writes (x.call.Touches id) := ⟨rfl, .inl (h.writesOnce _)⟩

namespace Office

variable {ι : Type} [DecidableEq ι] {o : Office ι} {i j : ι} {calls : ι → Session}
  {W : (op : Op) → op.Result → Except Failure ServiceAnswer → Prop}

/-! ### The turn at which a call takes effect -/

theorem play_ends {r : Except Failure ServiceAnswer} (h : (o.client i).rest.Ends r)
    (undisturbed : (o.client i).Undisturbed) (order : List ι) :
    ((o.play order).client i).rest.Ends r := by
  induction order generalizing o with
  | nil => exact h
  | cons j rest ih =>
      by_cases hj : i = j
      · subst hj
        obtain ⟨goes, undisturbed⟩ := Client.turn_goes (s := o.store) undisturbed
        refine ih (o := o.turn i) ?_ ?_
        · rw [turn_client_self]
          exact (h.goes goes).1
        · rw [turn_client_self]
          exact undisturbed
      · refine ih (o := o.turn j) ?_ ?_
        · rw [turn_client_of_ne hj]
          exact h
        · rw [turn_client_of_ne hj]
          exact undisturbed

/-- A call that writes once and is answered has taken effect at one of its turns. -/
theorem takes_effect (undisturbed : (o.client i).Undisturbed)
    (writes : (o.client i).rest.WritesOnce (o.client i).clock W) {order : List ι} {a : ServiceAnswer}
    (answered : ((o.play order).client i).rest = .done (.ok a)) :
    ∃ before after op b, order = before ++ i :: after ∧
      op.Effect (o.client i).clock (o.play before).store b ((o.play before).turn i).store ∧
      W op b (.ok a) := by
  induction order generalizing o with
  | nil =>
      have failed : (o.client i).rest = .done (.ok a) := answered
      rw [failed] at writes
      obtain ⟨f, hf⟩ := writes
      cases hf
  | cons j rest ih =>
      by_cases hj : i = j
      · subst hj
        obtain ⟨goes, undisturbed'⟩ := Client.turn_goes (s := o.store) undisturbed
        rcases writes.goes goes with ⟨writes', -⟩ | ⟨op, b, r, effect, hW, ends⟩
        · -- the write is still to come, so it comes in the rest of the order
          have self : (o.turn i).client i = (o.client i).turn o.store := turn_client_self
          rw [← Client.turn_clock (s := o.store), ← self] at writes'
          rw [← self] at undisturbed'
          obtain ⟨before, after, op, b, rfl, effect, hW⟩ := ih undisturbed' writes' answered
          rw [self, Client.turn_clock] at effect
          exact ⟨i :: before, after, op, b, rfl, effect, hW⟩
        · have hends : ((o.turn i).client i).rest.Ends r := by
            rw [turn_client_self]
            exact ends
          have quiet : ((o.turn i).client i).Undisturbed := by
            rw [turn_client_self]
            exact undisturbed'
          have last := play_ends hends quiet rest
          have answered : (((o.turn i).play rest).client i).rest = .done (.ok a) := answered
          rw [answered] at last
          obtain rfl : .ok a = r := last
          exact ⟨[], rest, op, b, rfl, effect, hW⟩
      · have other : (o.turn j).client i = o.client i := turn_client_of_ne hj
        rw [← other] at undisturbed writes
        obtain ⟨before, after, op, b, rfl, effect, hW⟩ := ih undisturbed writes answered
        rw [other] at effect
        exact ⟨j :: before, after, op, b, rfl, effect, hW⟩

/-! ### After the posting -/

/-- The clients are in the middle of calls that change the entry. -/
def Changing (id : Uuid) (calls : ι → Session) (o : Office ι) : Prop :=
  ∀ j, (o.client j).Writes ((calls j).call.Touches id)

omit [DecidableEq ι] in
theorem opening_changing (changes : ∀ j, (calls j).call.Changes id) :
    (opening s calls).Changing id calls := fun j => Session.client_writes (changes j)

theorem Changing.turn (h : o.Changing id calls) (i : ι) : (o.turn i).Changing id calls := by
  intro j
  refine forall_client_turn (P := fun j c => c.Writes ((calls j).call.Touches id)) ?_ ?_ j
  · exact ((h i).turn o.store).1
  · intro k _
    exact h k

theorem Changing.play (h : o.Changing id calls) (order : List ι) :
    (o.play order).Changing id calls :=
  play_invariant (P := fun o => o.Changing id calls) (fun _ i h => h.turn i) order h

/-- A turn leaves an entry that is not a draft, or it removes it and its client is to answer. -/
theorem Changing.turn_stored? (h : o.Changing id calls) (sealed : o.store.Sealed id) (i : ι) :
    (o.turn i).store.stored? id = o.store.stored? id ∨
      ((o.turn i).store.stored? id = none ∧ (calls i).call = .deleteEntry id ∧
        ∃ a, ((o.turn i).client i).rest.Ends (.ok a)) := by
  rcases ((h i).turn o.store).2 with hs | ⟨op, a, r, effect, touches, ends⟩
  · left
    show ((o.client i).turn o.store).world.store.stored? id = _
    rw [hs]
  · rcases touches with changes | ⟨rfl, call, b, rfl⟩
    · left
      exact effect.stored?_of_sealed changes sealed
    · right
      refine ⟨effect.removes, call, b, ?_⟩
      rw [turn_client_self]
      exact ends

/-- What is gone stays so. -/
theorem Changing.play_gone (h : o.Changing id calls) (gone : o.store.stored? id = none)
    (order : List ι) : (o.play order).store.stored? id = none := by
  induction order generalizing o with
  | nil => exact gone
  | cons j rest ih =>
      refine ih (h.turn j) ?_
      rcases h.turn_stored? (.of_none gone) j with same | ⟨removed, -⟩
      · rw [same]
        exact gone
      · exact removed

/-- What is posted stays so, or there is a deletion that is to answer. -/
theorem Changing.play_keeps {e : Entry Decimal} (h : o.Changing id calls) (keeps : o.store.Keeps id e)
    (order : List ι) :
    (o.play order).store.Keeps id e ∨
      ∃ j, (calls j).call = .deleteEntry id ∧ ∃ a, ((o.play order).client j).rest.Ends (.ok a) := by
  induction order generalizing o with
  | nil => exact .inl keeps
  | cons j rest ih =>
      rcases h.turn_stored? keeps.sealed j with same | ⟨-, call, a, ends⟩
      · refine ih (h.turn j) ?_
        obtain ⟨old, found, posted, hshown⟩ := keeps
        exact ⟨old, same.trans found, posted, hshown⟩
      · right
        exact ⟨j, call, a, play_ends (o := o.turn j) ends (h.turn j j).undisturbed rest⟩

/-! ### Asking too late -/

/-- A deletion that begins when the entry is posted is refused. -/
theorem refused {c : Client} (hc : c.Undisturbed) {x : Session} (call : x.call = .deleteEntry id)
    (hrest : c.rest = x.call.procedure x.setting) (sealed : s.Sealed id) :
    ∃ f, (c.turn s).rest.Ends (.error f) := by
  obtain ⟨goes, -⟩ := Client.turn_goes (s := s) hc
  rw [hrest, call] at goes
  obtain ⟨r, outcome, hturn⟩ := goes
  rw [hturn]
  cases r with
  | error f => exact ⟨f, rfl⟩
  | ok found =>
      cases found with
      | none => exact ⟨_, rfl⟩
      | some e =>
          obtain ⟨hread, -⟩ := outcome
          obtain ⟨old, found, -, rfl⟩ := Journal.stored?_of_entry? hread
          have posted : (old.shown.status == .posted) = true := by
            rw [beq_iff_eq]
            exact (StoredEntry.isIn_iff.mp (sealed old found)).2
          refine ⟨.ledger (.entryPosted old.shown.number "deleted"), ?_⟩
          show Procedure.Ends _ ((if (old.shown.status == .posted) = true then _ else _) >>= _)
          rw [if_pos posted]
          rfl

/-- A client who has had no turn when the entry is posted does not delete it any more. -/
theorem Changing.play_refused (h : o.Changing id calls) (sealed : o.store.Sealed id)
    (call : (calls j).call = .deleteEntry id)
    (hrest : (o.client j).rest = (calls j).call.procedure (calls j).setting) (order : List ι) :
    ((o.play order).client j).answered = false := by
  induction order generalizing o with
  | nil =>
      show (o.client j).answered = false
      rw [Client.answered, hrest, call]
      rfl
  | cons i rest ih =>
      by_cases hj : j = i
      · subst hj
        obtain ⟨f, ends⟩ := refused (h j).undisturbed call hrest sealed
        rw [← turn_client_self] at ends
        have last := play_ends ends (h.turn j j).undisturbed rest
        rw [Bool.eq_false_iff]
        intro answered
        obtain ⟨a, ha⟩ := Client.answered_iff.mp answered
        have ha : (((o.turn j).play rest).client j).rest = .done (.ok a) := ha
        rw [ha] at last
        cases last
      · refine ih (h.turn i) ?_ ?_
        · rcases h.turn_stored? sealed i with same | ⟨removed, -⟩
          · intro old found
            exact sealed old (same.symm.trans found)
          · exact .of_none removed
        · rw [turn_client_of_ne hj]
          exact hrest

/-! ### Postings that last -/

/-- A posting that is answered shows an entry, and has left it so, and posted, at one of its turns. -/
theorem keeps_of_posting (changes : ∀ j, (calls j).call.Changes id) {user : String}
    (posting : (calls i).call = .postEntry id user) {order : List ι} {a : ServiceAnswer}
    (answered : (((opening s calls).play order).client i).rest = .done (.ok a)) :
    ∃ e, a = .entry e ∧ ∃ before after, order = before ++ i :: after ∧
      (((opening s calls).play before).turn i).store.Keeps id e := by
  have writes : ((opening s calls).client i).rest.WritesOnce (calls i).setting.clock
      fun op b r => ∃ x, Op.Posts id op b x ∧ r = x.map .entry := by
    show ((calls i).call.procedure (calls i).setting).WritesOnce _ _
    rw [posting]
    exact Journal.postEntry_writesOnce.map _
  obtain ⟨before, after, op, b, order_eq, effect, x, posts, hx⟩ :=
    takes_effect (opening_changing changes i).undisturbed writes answered
  unfold Op.Posts at posts
  split at posts
  · obtain ⟨rfl, rfl⟩ := posts
    cases hx
    exact ⟨_, rfl, before, after, order_eq, effect.keeps⟩
  · obtain ⟨-, f, rfl⟩ := posts
    cases hx
  · cases posts

/-- When a deletion was answered, the entry is gone. -/
theorem gone_of_deletion (changes : ∀ j, (calls j).call.Changes id)
    (call : (calls j).call = .deleteEntry id) {order : List ι}
    (answered : (((opening s calls).play order).client j).answered = true) :
    ((opening s calls).play order).store.stored? id = none := by
  have changing : (opening s calls).Changing id calls := opening_changing changes
  obtain ⟨a, ha⟩ := Client.answered_iff.mp answered
  have writes : ((opening s calls).client j).rest.WritesOnce (calls j).setting.clock
      fun op b r => ∃ x, Op.Removes id op b x ∧ r = x.map fun _ => .nothing := by
    show ((calls j).call.procedure (calls j).setting).WritesOnce _ _
    rw [call]
    exact Journal.deleteEntry_writesOnce.map _
  obtain ⟨before, after, op, b, rfl, effect, x, removes, -⟩ :=
    takes_effect (changing j).undisturbed writes ha
  unfold Op.Removes at removes
  split at removes
  · obtain ⟨rfl, -⟩ := removes
    rw [play_append]
    exact ((changing.play before).turn j).play_gone effect.removes after
  · cases removes

/-- A client posts an entry, while any others post, edit, make void or delete it. However their operations
    mix: if the posting is answered, then the entry is posted and as the answer shows it when all calls
    have ended, exactly if no deletion is answered; where one is, there is no such entry; and no deletion
    is answered that begins when the entry is posted. -/
theorem posting_lasts_iff (calls : ι → Session) (changes : ∀ j, (calls j).call.Changes id) {user : String}
    (posting : (calls i).call = .postEntry id user) (order : List ι)
    (ended : ((opening s calls).play order).Ended) {e : Entry Decimal}
    (answered : (((opening s calls).play order).client i).result? = some (.ok (.entry e))) :
    (((opening s calls).play order).store.Keeps id e ↔
        ∀ j, (calls j).call = .deleteEntry id →
          (((opening s calls).play order).client j).answered = false) ∧
      (∀ j, (calls j).call = .deleteEntry id →
        (((opening s calls).play order).client j).answered = true →
          ((opening s calls).play order).store.stored? id = none) ∧
      ∀ j before after, (calls j).call = .deleteEntry id → order = before ++ after → j ∉ before →
        ((opening s calls).play before).store.Sealed id →
          (((opening s calls).play order).client j).answered = false := by
  have changing : (opening s calls).Changing id calls := opening_changing changes
  refine ⟨⟨?_, ?_⟩, fun j call => gone_of_deletion changes call, ?_⟩
  · rintro ⟨old, found, -⟩ j call
    rw [Bool.eq_false_iff]
    intro deleted
    cases found.symm.trans (gone_of_deletion changes call deleted)
  · intro none
    obtain ⟨_, shown, before, after, rfl, keeps⟩ :=
      keeps_of_posting changes posting (Client.result?_eq_some.mp answered)
    cases shown
    rcases ((changing.play before).turn i).play_keeps keeps after with kept | ⟨j, call, a, ends⟩
    · rw [play_append]
      exact kept
    · have deleted := Client.answered_of_ends (c := ((opening s calls).play (before ++ i :: after)).client j)
        (by rw [play_append]; exact ends) (ended j)
      rw [none j call] at deleted
      cases deleted
  · rintro j before after call rfl later sealed
    rw [play_append]
    refine (changing.play before).play_refused sealed call ?_ after
    rw [play_client_of_notMem later]
    rfl

/-- A company has two accounts, and a draft that moves 100. -/
def draftsHundred : List Session :=
  [Session.opensTwoAccounts.call, .moving firstDay (.finite false 100 0) false].map fun call =>
    { call, setting := { clock := .ok default } }

/-- The clerk posts the draft, while the auditor makes another call. -/
def clerkPosts (meanwhile : ServiceCall) (auditor : Bool) : Session where
  call := if auditor then meanwhile else .postEntry (Uuid.issue 2) "clerk"
  setting := { clock := .ok default }

/-- The auditor reads the entry, and then the clerk posts it. -/
def readThenPosted : List Bool := true :: .replicate 6 false

/-- After that the auditor goes on. -/
def readBeforePosted : List Bool := readThenPosted ++ .replicate 6 true

theorem clerkPosts_changes {meanwhile : ServiceCall} (h : meanwhile.Changes (Uuid.issue 2)) (i : Bool) :
    (clerkPosts meanwhile i).call.Changes (Uuid.issue 2) := by
  cases i with
  | false => exact .post "clerk"
  | true => exact h

/-- The auditor has found a draft, and is too late to make it void: it stays as the posting answers. -/
theorem posting_lasts_iff_voidedMeanwhile :
    ∃ e, (((opening (Store.after draftsHundred) (clerkPosts (.voidEntry (Uuid.issue 2) "auditor"))).play
        readBeforePosted).client false).result? = some (.ok (.entry e)) ∧
      ((opening (Store.after draftsHundred) (clerkPosts (.voidEntry (Uuid.issue 2) "auditor"))).play
        readBeforePosted).store.Keeps (Uuid.issue 2) e := by
  have ended : ((opening (Store.after draftsHundred)
      (clerkPosts (.voidEntry (Uuid.issue 2) "auditor"))).play readBeforePosted).Ended := by
    unfold Ended
    decide +kernel
  have posted : (((opening (Store.after draftsHundred)
      (clerkPosts (.voidEntry (Uuid.issue 2) "auditor"))).play readBeforePosted).client
        false).answered = true := by
    decide +kernel
  have changes := clerkPosts_changes (.void "auditor")
  obtain ⟨a, answered⟩ := Client.answered_iff.mp posted
  obtain ⟨e, rfl, -⟩ := keeps_of_posting changes (i := false) rfl answered
  have answered := Client.result?_eq_some.mpr answered
  obtain ⟨lasts, -⟩ := posting_lasts_iff (clerkPosts _) changes rfl readBeforePosted ended answered
  refine ⟨e, answered, lasts.mpr ?_⟩
  intro j call
  cases j <;> cases call

/-- The auditor has found a draft, and deletes it after the clerk has posted it: both are answered, and
    the posted entry is gone. -/
theorem posting_lost_to_deletion :
    (∀ i, (clerkPosts (.deleteEntry (Uuid.issue 2)) i).call.Changes (Uuid.issue 2)) ∧
      ((opening (Store.after draftsHundred) (clerkPosts (.deleteEntry (Uuid.issue 2)))).play
        readBeforePosted).Ended ∧
      (∀ i, (((opening (Store.after draftsHundred) (clerkPosts (.deleteEntry (Uuid.issue 2)))).play
        readBeforePosted).client i).answered) ∧
      (((opening (Store.after draftsHundred) (clerkPosts (.deleteEntry (Uuid.issue 2)))).play
        readThenPosted).store.stored? (Uuid.issue 2)).any StoredEntry.isPosted ∧
      ((opening (Store.after draftsHundred) (clerkPosts (.deleteEntry (Uuid.issue 2)))).play
        readBeforePosted).store.stored? (Uuid.issue 2) = none := by
  refine ⟨clerkPosts_changes .delete, ?_, ?_, ?_, ?_⟩
  · unfold Ended
    decide +kernel
  all_goals decide +kernel

end Office

end Bookkeeping
