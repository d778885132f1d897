import Bookkeeping.Proofs.Interleaving
import Bookkeeping.Proofs.Reversal
import Mathlib.Data.Finset.Card
import Mathlib.Data.Fintype.Pi

set_option autoImplicit false

/-! # Clients that reverse the same entry

A call that reverses an entry looks for a reversal of it and creates one in a later operation, and
nothing in the store keeps a second one out. So each client who is answered has added a reversal
(`Office.entries_of_reversing`): the entry is reversed once as long as one of two clients fails
(`Office.reversedOnce_iff`), and twice if both look before either creates
(`Office.reversedOnce_false_of_overlap`). Who looks when there is a reversal fails. -/

namespace Bookkeeping

/-- The entries that reverse an entry. -/
def Store.reversalsOf (s : Store) (id : Uuid) : List StoredEntry :=
  s.entries.filter fun e => e.entry.reversedEntry == some id

/-- A store with reversals that fit holds at most one reversal of an entry. -/
theorem Store.Reversals.length_le_one {s : Store} (h : s.Reversals) (sound : s.Sound) (id : Uuid) :
    (s.reversalsOf id).length ≤ 1 := by
  have nodup : (s.reversalsOf id).Nodup := (sound.distinct.of_map _).filter _
  have same : ∀ a ∈ s.reversalsOf id, ∀ b ∈ s.reversalsOf id, a = b := by
    intro a ha b hb
    simp only [reversalsOf, List.mem_filter, beq_iff_eq] at ha hb
    exact h.once b hb.1 a ha.1 id hb.2 ha.2
  rcases hl : s.reversalsOf id with _ | ⟨a, _ | ⟨b, rest⟩⟩
  · exact Nat.zero_le 1
  · exact Nat.le_refl 1
  · rw [hl] at nodup same
    have hab := same a (by simp) b (by simp)
    simp [hab] at nodup

/-- The operation creates an entry that reverses `id`. -/
def Op.Reverses (id : Uuid) : Op → Prop
  | .createEntry h _ _ _ _ => h.reversedEntry = some id
  | _ => False

/-- Where a reversal is created, it is stored behind all other entries. -/
theorem Op.Effect.reverses {clock : Clock} {s s' : Store} {id : Uuid} {op : Op} {a : op.Result}
    (h : op.Effect clock s a s') (reverses : op.Reverses id) :
    ∃ new, s'.entries = s.entries ++ [new] ∧ new.entry.reversedEntry = some id := by
  cases op with
  | createEntry header lines dayPrefix status postedBy =>
      obtain ⟨now, p, -, hp, hs⟩ := h
      obtain ⟨n, counters, cells, -, -, -, -, -, rfl⟩ := Store.createEntry_sent hp hs
      exact ⟨_, rfl, reverses⟩
  | _ => cases reverses

/-- Where a reversal is stored, one is found, or the look for it fails. -/
theorem Op.Outcome.reversalOf_found {clock : Clock} {s s' : Store} {id : Uuid}
    {r : Except Failure (Option (Entry Decimal))}
    (h : (Op.reversalOf id).Outcome clock s r s') (found : s.reversalsOf id ≠ []) : r ≠ .ok none := by
  rintro rfl
  refine found (List.filter_eq_nil_iff.mpr fun e he => ?_)
  rw [beq_iff_eq]
  exact Journal.unreversed_of_reversalOf? h.1 e he

/-! ## On the way to a reversal -/

namespace Procedure

variable {α β : Type} {clock : Clock} {id : Uuid}

/-- Nothing is left of the call but notes in the log and an answer. -/
def Concludes : Procedure α → Prop
  | .done r => ∃ a, r = .ok a
  | .note _ rest => rest.Concludes
  | .step _ _ => False

/-- The call has not reversed the entry yet. It will answer if it does so, and fail if it does not. -/
def Owes (clock : Clock) (id : Uuid) : Procedure α → Prop
  | .done r => ∃ f, r = .error f
  | .note _ rest => rest.Owes clock id
  | .step op rest =>
      (op.isRead ∧ ∀ r s, op.Outcome clock s r s → (rest r).Owes clock id) ∨
        (op.Reverses id ∧ (∀ a, (rest (.ok a)).Concludes) ∧ ∀ f, (rest (.error f)).Owes clock id)

/-- The call is going to look for a reversal of the entry, and fails unless it finds that there is none. -/
def Heeds (clock : Clock) (id : Uuid) : Procedure α → Prop
  | .done r => ∃ f, r = .error f
  | .note _ rest => rest.Heeds clock id
  | .step op rest =>
      op.isRead ∧ ∀ r s, op.Outcome clock s r s →
        (s.reversalsOf id ≠ [] ∨ op ≠ .reversalOf id) → (rest r).Heeds clock id

/-! ### Parts of a call -/

theorem concludes_notes (records : List LogRecord) : (notes records).Concludes := by
  induction records with
  | nil => exact ⟨(), rfl⟩
  | cons record rest ih => exact ih

theorem Concludes.bind {p : Procedure α} {f : α → Procedure β} (hp : p.Concludes)
    (hf : ∀ a, (f a).Concludes) : (p >>= f).Concludes := by
  induction p with
  | done r =>
      obtain ⟨a, rfl⟩ := hp
      exact hf a
  | note record rest ih => exact ih hp
  | step op rest => cases hp

theorem concludes_log_pure {level : LogLevel} {message : String} {a : α} :
    (do log level message; return a : Procedure α).Concludes :=
  (concludes_notes _).bind fun _ => ⟨a, rfl⟩

/-- What only looks may come before the reversal. -/
theorem Inspects.bind_owes {p : Procedure α} {f : α → Procedure β} {Q : α → Prop}
    (hp : p.Inspects clock Q) (hf : ∀ a, Q a → (f a).Owes clock id) : (p >>= f).Owes clock id := by
  induction p with
  | done r =>
      cases r with
      | error e => exact ⟨e, rfl⟩
      | ok a => exact hf a (hp a rfl)
  | note record rest ih => exact ih hp
  | step op rest ih => exact .inl ⟨hp.1, fun r s hr => ih r (hp.2 r s hr)⟩

/-- Only what concludes may come after it. -/
theorem Owes.bind {p : Procedure α} {f : α → Procedure β} (hp : p.Owes clock id)
    (hf : ∀ a, (f a).Concludes) : (p >>= f).Owes clock id := by
  induction p with
  | done r =>
      obtain ⟨e, rfl⟩ := hp
      exact ⟨e, rfl⟩
  | note record rest ih => exact ih hp
  | step op rest ih =>
      rcases hp with ⟨look, hp⟩ | ⟨reverses, created, failed⟩
      · exact .inl ⟨look, fun r s hr => ih r (hp r s hr)⟩
      · exact .inr ⟨reverses, fun a => (created a).bind hf, fun f => ih _ (failed f)⟩

theorem Inspects.bind_heeds {p : Procedure α} {f : α → Procedure β} {Q : α → Prop}
    (hp : p.Inspects clock Q) (hf : ∀ a, Q a → (f a).Heeds clock id) : (p >>= f).Heeds clock id := by
  induction p with
  | done r =>
      cases r with
      | error e => exact ⟨e, rfl⟩
      | ok a => exact hf a (hp a rfl)
  | note record rest ih => exact ih hp
  | step op rest ih => exact ⟨hp.1, fun r s hr _ => ih r (hp.2 r s hr)⟩

theorem Heeds.bind {p : Procedure α} {f : α → Procedure β} (hp : p.Heeds clock id) :
    (p >>= f).Heeds clock id := by
  induction p with
  | done r =>
      obtain ⟨e, rfl⟩ := hp
      exact ⟨e, rfl⟩
  | note record rest ih => exact ih hp
  | step op rest ih => exact ⟨hp.1, fun r s hr h => ih r (hp.2 r s hr h)⟩

/-! ### One turn -/

variable {p p' : Procedure α} {s s' : Store}

theorem Concludes.goes (h : p.Concludes) (hgoes : p.Goes clock s p' s') : p'.Concludes ∧ s' = s := by
  cases p with
  | done r =>
      obtain ⟨rfl, rfl⟩ := hgoes
      exact ⟨h, rfl⟩
  | note record rest =>
      obtain ⟨rfl, rfl⟩ := hgoes
      exact ⟨h, rfl⟩
  | step op rest => cases h

/-- The call still owes a reversal after a turn, or it has created one and concludes. -/
theorem Owes.goes (h : p.Owes clock id) (hgoes : p.Goes clock s p' s') :
    (p'.Owes clock id ∧ s' = s) ∨
      (p'.Concludes ∧ ∃ new, s'.entries = s.entries ++ [new] ∧ new.entry.reversedEntry = some id) := by
  cases p with
  | done r =>
      obtain ⟨rfl, rfl⟩ := hgoes
      exact .inl ⟨h, rfl⟩
  | note record rest =>
      obtain ⟨rfl, rfl⟩ := hgoes
      exact .inl ⟨h, rfl⟩
  | step op rest =>
      obtain ⟨r, outcome, rfl⟩ := hgoes
      rcases h with ⟨look, h⟩ | ⟨reverses, created, failed⟩
      · obtain rfl := outcome.unchanged look
        exact .inl ⟨h r _ outcome, rfl⟩
      · cases r with
        | error f => exact .inl ⟨failed f, outcome⟩
        | ok a => exact .inr ⟨created a, Op.Effect.reverses outcome reverses⟩

/-- While a reversal is stored, the call does not get past its look for one. -/
theorem Heeds.goes (h : p.Heeds clock id) (found : s.reversalsOf id ≠ [])
    (hgoes : p.Goes clock s p' s') : p'.Heeds clock id := by
  cases p with
  | done r => exact hgoes.1 ▸ h
  | note record rest => exact hgoes.1 ▸ h
  | step op rest =>
      obtain ⟨r, outcome, rfl⟩ := hgoes
      obtain rfl := outcome.unchanged h.1
      exact h.2 r _ outcome (.inl found)

end Procedure

/-! ## Calls that reverse an entry -/

namespace Journal

open Procedure

variable {clock : Clock} {id : Uuid}

/-- However many attempts it takes, a reversal that was not created is still owed. -/
theorem tryCreate_owes {op : Op} {created : op.Result → Procedure (Entry Decimal)}
    {dayPrefix : String} (limit n : Nat) (reverses : op.Reverses id)
    (hcreated : ∀ e, (created e).Concludes) :
    (tryCreate op created dayPrefix limit n).Owes clock id := by
  induction n with
  | zero => exact ⟨_, rfl⟩
  | succ n ih =>
      refine .inr ⟨reverses, hcreated, fun f => ?_⟩
      show Procedure.Owes clock id (if f.isRetried then _ else _)
      split
      · exact (inspects_notes _).bind_owes fun _ _ => ih
      · exact ⟨f, rfl⟩

theorem createEntry_owes {st : Setting} {h : EntryHeader} {lines : List PostingLine} {post : Bool}
    (reversed : h.reversedEntry = some id) : (createEntry st h lines post).Owes clock id :=
  (validateLines_inspects lines h.company).bind_owes fun _ _ =>
    tryCreate_owes _ _ reversed fun _ => concludes_log_pure

theorem reverseEntry_owes {st : Setting} {user : String} {reason : Option String}
    {date : Option Date} : (reverseEntry st id user reason date).Owes clock id := by
  refine (getEntry_inspects id).bind_owes fun entry hid => ?_
  dsimp only
  split
  · exact ⟨_, rfl⟩
  refine (inspects_perform rfl).bind_owes fun reversal _ => ?_
  cases reversal with
  | some _ => exact ⟨_, rfl⟩
  | none =>
      have reversal (day : Date) :
          (do let reversal ← createEntry st (reversalHeader entry user reason day)
                (reversalLines entry) true
              log .info ("Reversed " ++ entry.number ++ " with " ++ reversal.number)
              return reversal : Procedure (Entry Decimal)).Owes clock id :=
        (createEntry_owes (congrArg some hid)).bind fun _ => concludes_log_pure
      cases date with
      | some day => exact reversal day
      | none => exact inspects_ofExcept.bind_owes fun now _ => reversal now.date

theorem reverseEntry_heeds {st : Setting} {user : String} {reason : Option String}
    {date : Option Date} : (reverseEntry st id user reason date).Heeds clock id := by
  refine (getEntry_inspects id).bind_heeds fun entry _ => ?_
  dsimp only
  split
  · exact ⟨_, rfl⟩
  refine ⟨rfl, fun r s outcome asked => ?_⟩
  have found := asked.resolve_right fun h => h rfl
  have hr := outcome.reversalOf_found found
  cases r with
  | error f => exact ⟨f, rfl⟩
  | ok reversal =>
      cases reversal with
      | none => exact absurd rfl hr
      | some _ => exact ⟨_, rfl⟩

end Journal

/-- The call is to reverse an entry. -/
def ServiceCall.ToReverse (id : Uuid) (c : ServiceCall) : Prop :=
  ∃ user reason date, c = .reverseEntry id user reason date

/-! ## Clients who reverse an entry -/

namespace Client

variable {c : Client} {id : Uuid} {s : Store} {done : Prop}

/-- Where a client stands who is to reverse an entry: done with it, or not. -/
structure Stands (id : Uuid) (done : Prop) (c : Client) : Prop where
  undisturbed : c.Undisturbed
  concludes : done → c.rest.Concludes
  owes : ¬ done → c.rest.Owes c.clock id

/-- The client is still going to look for a reversal, or has failed. -/
def Heeds (id : Uuid) (c : Client) : Prop := c.rest.Heeds c.clock id

/-- A turn leaves the store as it is, or it adds a reversal and the client is done. -/
theorem Stands.turn (h : c.Stands id done) (s : Store) :
    ((c.turn s).Stands id done ∧ (c.turn s).world.store = s) ∨
      (¬ done ∧ (c.turn s).Stands id True ∧ ∃ new,
        (c.turn s).world.store.entries = s.entries ++ [new] ∧ new.entry.reversedEntry = some id) := by
  obtain ⟨goes, undisturbed⟩ := turn_goes (s := s) h.undisturbed
  by_cases hdone : done
  · obtain ⟨concludes, hs⟩ := (h.concludes hdone).goes goes
    exact .inl ⟨⟨undisturbed, fun _ => concludes, fun hn => absurd hdone hn⟩, hs⟩
  · rcases (h.owes hdone).goes goes with ⟨owes, hs⟩ | ⟨concludes, hnew⟩
    · refine .inl ⟨⟨undisturbed, fun hd => absurd hd hdone, fun _ => ?_⟩, hs⟩
      rw [turn_clock]
      exact owes
    · exact .inr ⟨hdone, ⟨undisturbed, fun _ => concludes, fun hn => absurd trivial hn⟩, hnew⟩

/-- At the end the client has answered if there is a reversal of his, and failed if there is none. -/
theorem Stands.answered_iff (h : c.Stands id done) (ended : c.result?.isSome) :
    c.answered = true ↔ done := by
  obtain ⟨r, hr⟩ := Option.isSome_iff_exists.mp ended
  rw [result?_eq_some] at hr
  have hconcludes := h.concludes
  have howes := h.owes
  rw [hr] at hconcludes howes
  rw [answered, hr]
  by_cases hdone : done
  · obtain ⟨a, rfl⟩ := hconcludes hdone
    exact iff_of_true rfl hdone
  · obtain ⟨f, rfl⟩ := howes hdone
    exact iff_of_false Bool.false_ne_true hdone

theorem Heeds.turn (h : c.Heeds id) (undisturbed : c.Undisturbed) (found : s.reversalsOf id ≠ []) :
    (c.turn s).Heeds id := by
  obtain ⟨goes, -⟩ := turn_goes (s := s) undisturbed
  rw [Heeds, turn_clock]
  exact Procedure.Heeds.goes h found goes

theorem Heeds.not_answered (h : c.Heeds id) (ended : c.result?.isSome) : c.answered = false := by
  obtain ⟨r, hr⟩ := Option.isSome_iff_exists.mp ended
  rw [result?_eq_some] at hr
  rw [Heeds, hr] at h
  obtain ⟨f, rfl⟩ := h
  rw [answered, hr]

end Client

namespace Session

variable {x : Session} {s : Store} {id : Uuid}

theorem client_stands (h : x.call.ToReverse id) : (x.client s).Stands id False := by
  refine ⟨rfl, False.elim, fun _ => ?_⟩
  obtain ⟨user, reason, date, call⟩ := h
  show (x.call.procedure x.setting).Owes _ id
  rw [call]
  exact Journal.reverseEntry_owes.bind fun _ => ⟨_, rfl⟩

theorem client_heeds (h : x.call.ToReverse id) : (x.client s).Heeds id := by
  obtain ⟨user, reason, date, call⟩ := h
  show (x.call.procedure x.setting).Heeds _ id
  rw [call]
  exact Journal.reverseEntry_heeds.bind

/-- The first turn of the client is to read the entry that is to be reversed. -/
theorem client_turn_heeds (h : x.call.ToReverse id) (s' : Store) :
    ((x.client s).turn s').Heeds id := by
  have heeds := client_heeds (s := s) h
  obtain ⟨goes, -⟩ := Client.turn_goes (c := x.client s) (s := s') rfl
  have first : ∃ rest, x.call.procedure x.setting = .step (.entry id) rest := by
    obtain ⟨user, reason, date, call⟩ := h
    rw [call]
    exact ⟨_, rfl⟩
  obtain ⟨rest, hrest⟩ := first
  have hrest : (x.client s).rest = .step (.entry id) rest := hrest
  rw [Client.Heeds, hrest] at heeds
  rw [hrest] at goes
  obtain ⟨r, outcome, hturn⟩ := goes
  have hs := outcome.unchanged rfl
  rw [hs] at outcome
  rw [Client.Heeds, hturn, Client.turn_clock]
  exact heeds.2 r s' outcome (.inr nofun)

end Session

namespace Office

variable {ι : Type} {o : Office ι} {id : Uuid} {s : Store} {done : Finset ι}

/-- All clients are to reverse an entry. Since the store was `s`, those in `done` have, each with an entry
    of his own. -/
structure Reversing (id : Uuid) (s : Store) (done : Finset ι) (o : Office ι) : Prop where
  stands : ∀ i, (o.client i).Stands id (i ∈ done)
  entries : ∃ new, o.store.entries = s.entries ++ new ∧ new.length = done.card ∧
    ∀ e ∈ new, e.entry.reversedEntry = some id

theorem opening_reversing {calls : ι → Session} (reverse : ∀ i, (calls i).call.ToReverse id) :
    (opening s calls).Reversing id s ∅ := by
  refine ⟨fun i => ?_, [], (List.append_nil _).symm, rfl, by simp⟩
  rw [eq_false (Finset.notMem_empty i)]
  exact Session.client_stands (reverse i)

variable [DecidableEq ι]

/-- A turn adds a reversal, and its client to those who are done, or nothing. -/
theorem Reversing.turn (h : o.Reversing id s done) (i : ι) :
    ∃ done', (o.turn i).Reversing id s done' ∧ o.store.entries <+: (o.turn i).store.entries := by
  rcases (h.stands i).turn o.store with ⟨stands, hs⟩ | ⟨hi, stands, new, hs, hnew⟩
  · have hstore : (o.turn i).store = o.store := hs
    rw [hstore]
    refine ⟨done, ⟨?_, ?_⟩, List.prefix_refl _⟩
    · exact forall_client_turn (P := fun j c => c.Stands id (j ∈ done)) stands fun j _ => h.stands j
    · rw [hstore]
      exact h.entries
  · have hentries : (o.turn i).store.entries = o.store.entries ++ [new] := hs
    obtain ⟨added, hadded, hlength, hall⟩ := h.entries
    refine ⟨insert i done, ⟨?_, added ++ [new], ?_, ?_, ?_⟩, ?_⟩
    · refine forall_client_turn (P := fun j c => c.Stands id (j ∈ insert i done)) ?_ fun j hj => ?_
      · rw [eq_true (Finset.mem_insert_self i done)]
        exact stands
      · rw [Finset.mem_insert, or_iff_right hj]
        exact h.stands j
    · rw [hentries, hadded, List.append_assoc]
    · rw [List.length_append, hlength, Finset.card_insert_of_notMem hi]
      rfl
    · simpa [or_imp, forall_and, hnew] using hall
    · rw [hentries]
      exact List.prefix_append _ _

theorem Reversing.play (h : o.Reversing id s done) (order : List ι) :
    ∃ done', (o.play order).Reversing id s done' :=
  play_invariant (P := fun o => ∃ done', o.Reversing id s done')
    (fun o i ⟨_, h⟩ => by
      obtain ⟨done', h', -⟩ := h.turn i
      exact ⟨done', h'⟩) order ⟨done, h⟩

/-- The entries after the work of clients who reverse the same entry, in any order: for each client who
    has answered there is one more. -/
theorem entries_of_reversing [Fintype ι] {calls : ι → Session}
    (reverse : ∀ i, (calls i).call.ToReverse id) {order : List ι}
    (ended : ((opening s calls).play order).Ended) :
    ∃ new, ((opening s calls).play order).store.entries = s.entries ++ new ∧
      (∀ e ∈ new, e.entry.reversedEntry = some id) ∧
        new.length = (Finset.univ.filter fun i =>
          (((opening s calls).play order).client i).answered).card := by
  obtain ⟨done, h⟩ := (opening_reversing reverse).play order
  obtain ⟨new, hentries, hlength, hnew⟩ := h.entries
  refine ⟨new, hentries, hnew, hlength.trans (congrArg Finset.card ?_)⟩
  ext i
  rw [Finset.mem_filter, and_iff_right (Finset.mem_univ i), (h.stands i).answered_iff (ended i)]

/-! ### Looking too late -/

/-- While a reversal is stored, a client who heeds it goes on doing so. -/
theorem Reversing.play_heeds (h : o.Reversing id s done) {i : ι} (found : o.store.reversalsOf id ≠ [])
    (heeds : (o.client i).Heeds id) (order : List ι) : ((o.play order).client i).Heeds id := by
  induction order generalizing o done with
  | nil => exact heeds
  | cons j rest ih =>
      obtain ⟨done', h', hprefix⟩ := h.turn j
      refine ih h' ?_ ?_
      · exact fun hnil => found (List.prefix_nil.mp (hnil ▸ hprefix.filter _))
      · by_cases hij : i = j
        · subst hij
          rw [turn_client_self]
          exact heeds.turn (h.stands i).undisturbed found
        · rw [turn_client_of_ne hij]
          exact heeds

/-- A client who has had at most one turn has not looked for a reversal yet. -/
theorem heeds_of_count_le_one {calls : ι → Session} {i : ι} (reverse : (calls i).call.ToReverse id)
    {order : List ι} (few : order.count i ≤ 1) :
    (((opening s calls).play order).client i).Heeds id := by
  by_cases hi : i ∈ order
  · obtain ⟨before, after, rfl, hbefore⟩ := List.eq_append_cons_of_mem hi
    have hafter : i ∉ after := by
      rw [← List.count_eq_zero]
      rw [List.count_append, List.count_cons_self] at few
      omega
    rw [play_append]
    show (((((opening s calls).play before).turn i).play after).client i).Heeds id
    rw [play_client_of_notMem hafter, turn_client_self, play_client_of_notMem hbefore]
    exact Session.client_turn_heeds reverse _
  · rw [play_client_of_notMem hi]
    exact Session.client_heeds reverse

/-! ### Two clients -/

/-- Not both of two. -/
theorem card_le_one_iff_exists_false : ∀ f : Bool → Bool,
    (Finset.univ.filter fun i => f i).card ≤ 1 ↔ ∃ i, f i = false := by
  decide

/-- Two clients are to reverse an entry of a store that has come about by runs of sessions. However their
    operations mix, when both calls have ended the entry is reversed at most once exactly if one of them
    has failed; and a client fails who looks for a reversal when there is one already. -/
theorem reversedOnce_iff (sessions : List Session) (plain : ∀ x ∈ sessions, x.call.NotesNoReversed)
    (id : Uuid) (calls : Bool → Session) (reverse : ∀ i, (calls i).call.ToReverse id)
    (order : List Bool) (ended : ((opening (Store.after sessions) calls).play order).Ended) :
    ((((opening (Store.after sessions) calls).play order).store.reversalsOf id).length ≤ 1 ↔
      ∃ i, (((opening (Store.after sessions) calls).play order).client i).answered = false) ∧
    ∀ i before after, order = before ++ after → before.count i ≤ 1 →
      ((opening (Store.after sessions) calls).play before).store.reversalsOf id ≠ [] →
        (((opening (Store.after sessions) calls).play order).client i).answered = false := by
  generalize hs : Store.after sessions = s at ended ⊢
  have late : ∀ i before after, order = before ++ after → before.count i ≤ 1 →
      ((opening s calls).play before).store.reversalsOf id ≠ [] →
        (((opening s calls).play order).client i).answered = false := by
    rintro i before after rfl few found
    obtain ⟨done, h⟩ := (opening_reversing (s := s) reverse).play before
    have heeds := h.play_heeds found (heeds_of_count_le_one (reverse i) few) after
    rw [← play_append] at heeds
    exact heeds.not_answered (ended i)
  refine ⟨?_, late⟩
  obtain ⟨sound, fits⟩ := Store.after_reversals sessions plain
  rw [hs] at sound fits
  have before := fits.length_le_one sound id
  obtain ⟨new, hentries, hnew, hlength⟩ := entries_of_reversing reverse ended
  have total : (((opening s calls).play order).store.reversalsOf id).length =
      (s.reversalsOf id).length + new.length := by
    rw [Store.reversalsOf, hentries, List.filter_append, List.length_append]
    congr 2
    exact List.filter_eq_self.mpr fun e he => beq_iff_eq.mpr (hnew e he)
  -- with a reversal in the store at the start both look too late
  by_cases hfresh : s.reversalsOf id = []
  · rw [total, hfresh, hlength, List.length_nil, Nat.zero_add]
    exact card_le_one_iff_exists_false fun i => (((opening s calls).play order).client i).answered
  · have failed (i : Bool) := late i [] order rfl (Nat.zero_le 1) hfresh
    have none : new.length = 0 := by
      rw [hlength, Finset.card_eq_zero, Finset.filter_eq_empty_iff]
      intro i _
      rw [failed i]
      exact Bool.false_ne_true
    rw [total, none]
    exact ⟨fun _ => ⟨true, failed true⟩, fun _ => before⟩

/-- The clerk and the auditor are each to reverse the first entry of the two days. -/
def bothReverseFirst (auditor : Bool) : Session where
  call := .reverseEntry (Uuid.issue 2) (if auditor then "auditor" else "clerk") none none
  setting := { clock := .ok default }

theorem bothReverseFirst_reverse (i : Bool) : (bothReverseFirst i).call.ToReverse (Uuid.issue 2) :=
  ⟨_, _, _, rfl⟩

theorem movesOnTwoDays_plain : ∀ x ∈ movesOnTwoDays, x.call.NotesNoReversed := by
  intro x hx h lines post hcall
  simp only [movesOnTwoDays, List.map_cons, List.map_nil, List.mem_cons, List.not_mem_nil,
    or_false] at hx
  rcases hx with rfl | rfl | rfl <;> cases hcall <;> rfl

/-- The clerk first, then the auditor. -/
def oneAfterTheOther : List Bool := .replicate 8 false ++ .replicate 8 true

/-- Both read the entry and look for a reversal, then the clerk goes on, then the auditor. -/
def bothLookFirst : List Bool := [false, false, true, true] ++ .replicate 6 false ++ .replicate 6 true

/-- One after the other: the entry is reversed once, and the second client fails. -/
theorem reversedOnce_iff_oneAfterTheOther :
    ((((opening (Store.after movesOnTwoDays) bothReverseFirst).play oneAfterTheOther).store).reversalsOf
        (Uuid.issue 2)).length ≤ 1 ∧
      (((opening (Store.after movesOnTwoDays) bothReverseFirst).play oneAfterTheOther).client
        true).answered = false := by
  have ended : ((opening (Store.after movesOnTwoDays) bothReverseFirst).play oneAfterTheOther).Ended := by
    unfold Ended
    decide +kernel
  obtain ⟨once, late⟩ := reversedOnce_iff movesOnTwoDays movesOnTwoDays_plain (Uuid.issue 2)
    bothReverseFirst bothReverseFirst_reverse oneAfterTheOther ended
  have found : (((opening (Store.after movesOnTwoDays) bothReverseFirst).play
      (.replicate 8 false)).store.reversalsOf (Uuid.issue 2)).length = 1 := by
    decide +kernel
  have failed := late true (.replicate 8 false) (.replicate 8 true) rfl (by decide) fun hnil => by
    rw [hnil] at found
    cases found
  exact ⟨once.mpr ⟨true, failed⟩, failed⟩

/-- Both clients look for a reversal, and then each creates one: the posted entry is reversed twice, and
    both are answered. -/
theorem reversedOnce_false_of_overlap :
    (∀ x ∈ movesOnTwoDays, x.call.NotesNoReversed) ∧
      (∃ old ∈ (Store.after movesOnTwoDays).entries,
        old.entry.id = Uuid.issue 2 ∧ old.entry.status = .posted) ∧
      (∀ i, (bothReverseFirst i).call.ToReverse (Uuid.issue 2)) ∧
      ((opening (Store.after movesOnTwoDays) bothReverseFirst).play bothLookFirst).Ended ∧
      (((opening (Store.after movesOnTwoDays) bothReverseFirst).play bothLookFirst).store.reversalsOf
        (Uuid.issue 2)).length = 2 ∧
      ∀ i, (((opening (Store.after movesOnTwoDays) bothReverseFirst).play bothLookFirst).client
        i).answered :=
  ⟨movesOnTwoDays_plain, by decide +kernel, bothReverseFirst_reverse,
    by unfold Ended; decide +kernel, by decide +kernel, by decide +kernel⟩

end Office

end Bookkeeping
