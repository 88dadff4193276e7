import Dialogue.Proofs.Flow.Positions
import Dialogue.Proofs.Turn.Walk
import Dialogue.Proofs.Value.Fields

/-!
# Turns and the store

What a turn does is settled by the session that stands under the key of the contact: when it is live
and its flow is there, the turn goes on with it, and otherwise it is as if nothing stood there.

* `Engine.handle_eq`: a turn in terms of the live session, with all that is removed on the way;
  `Engine.Handles` lists the ways in which it can go, and `Engine.handle_induct` says what each of
  them keeps.
* `Engine.get?_handle_of_ne`: a turn leaves what stands under the keys of others.
* `Sessions.Keyed`: each stored session stands under the key of its own contact; every operation
  keeps this.
-/

namespace Dialogue

namespace Sessions

/-- Each session stands under the key of its own contact. -/
def Keyed (ss : Sessions) : Prop := ∀ entry ∈ ss.store, entry.2.key = entry.1

theorem keyed_empty (window : Nat) (idle : Span) : (empty window idle).Keyed := fun _ h =>
  absurd h List.not_mem_nil

namespace Keyed

variable {ss : Sessions}

theorem key_eq (h : ss.Keyed) {tenant contact : String} {s : Session}
    (hs : ss.get? tenant contact = some s) : s.key = Session.keyOf tenant contact :=
  h _ (Fields.mem_of_get? hs)

theorem save (h : ss.Keyed) (s : Session) : (ss.save s).Keyed := by
  intro entry hm
  rcases Fields.mem_insert hm with rfl | hm
  · rfl
  · exact h entry hm

theorem delete (h : ss.Keyed) (tenant contact : String) : (ss.delete tenant contact).Keyed :=
  fun entry hm => h entry (List.mem_filter.1 hm).1

theorem sweep (h : ss.Keyed) (now : Moment) : (ss.sweep now).2.Keyed := fun entry hm =>
  h entry (mem_sweep.1 hm).1

end Keyed

/-- A kept session is found under its key. -/
theorem get?_save (ss : Sessions) (s : Session) : Fields.get? (ss.save s).store s.key = some s :=
  Fields.get?_insert_self s.key s ss.store

/-- A removed session is gone. -/
theorem get?_delete (ss : Sessions) (tenant contact : String) :
    (ss.delete tenant contact).get? tenant contact = none :=
  Fields.get?_erase_self _ ss.store

theorem delete_of_get?_none {ss : Sessions} {tenant contact : String}
    (h : ss.get? tenant contact = none) : ss.delete tenant contact = ss := by
  unfold delete
  rw [Fields.erase_of_get?_none h]

end Sessions

namespace Engine

variable {σ : Type}

/-! ### A turn in terms of the live session -/

/-- The live session of a contact with the flow that it is in. -/
def live? (e : Engine) (m : Inbound) (now : Moment) : Option (Flow × Session) :=
  match e.sessions.get? m.tenant m.contact with
  | none => none
  | some s =>
    if s.isIdle now then none else (e.registry.flow? m.tenant s.flow).map fun f => (f, s)

/-- A new session of a contact in a flow. -/
def fresh (e : Engine) (m : Inbound) (f : Flow) (now : Moment) (id : String) : Session :=
  Session.start id m.tenant m.contact f e.sessions.window (e.sessions.idleFor f) now

/-- The flow and the session with which a turn begins: what is live, or a new session in the flow
that the text sets off. -/
def opening? (e : Engine) (m : Inbound) (now : Moment) (id : String) : Option (Flow × Session) :=
  (e.live? m now).or ((e.registry.select m.tenant m.text).map fun f => (f, e.fresh m f now id))

/-- What is left of an engine when a turn finds nothing live is as if nothing had stood there. -/
theorem resume_eq (e : Engine) (m : Inbound) (now : Moment) :
    e.resume m now = (e.live? m now, if (e.live? m now).isSome then e else e.forget m) := by
  have hnone : e.sessions.get? m.tenant m.contact = none → e = e.forget m := by
    intro h
    rw [forget, Sessions.delete_of_get?_none h]
  unfold resume live? Sessions.load Session.expiry?
  cases hs : e.sessions.get? m.tenant m.contact with
  | none => simp [← hnone hs]
  | some s =>
    -- An idle session is removed by the store, one without its flow by the engine.
    cases hi : s.isIdle now with
    | true => simp [forget, hi]
    | false => cases hf : e.registry.flow? m.tenant s.flow <;> simp [hf, hi, forget]

theorem begin_eq {e : Engine} {m : Inbound} {now : Moment} {id : String}
    (h : e.sessions.get? m.tenant m.contact = none) :
    e.begin m now id =
      ((e.registry.select m.tenant m.text).map fun f => (f, e.fresh m f now id), e) := by
  unfold begin Sessions.openSession Sessions.load
  rw [h]
  cases e.registry.select m.tenant m.text <;> rfl

theorem get?_forget (e : Engine) (m : Inbound) :
    (e.forget m).sessions.get? m.tenant m.contact = none :=
  e.sessions.get?_delete m.tenant m.contact

/-- A turn goes on with the live session, and otherwise begins anew where nothing stands. -/
theorem handle_eq (e : Engine) (p : Partners σ) (world : σ) (m : Inbound) (now : Moment)
    (id : String) :
    e.handle p world m now id =
      match e.live? m now with
      | some (f, s) =>
        if e.givesUp f m.text then e.abandon f m world else e.converse p world f s m now
      | none =>
        match e.registry.select m.tenant m.text with
        | some f => (e.forget m).converse p world f (e.fresh m f now id) m now
        | none => { reply := .noFlow, engine := e.forget m, world, steps := 0, trail := [] } := by
  unfold handle
  rw [resume_eq]
  cases hl : e.live? m now with
  | some opened => rfl
  | none =>
    dsimp only
    rw [if_neg (by simp), begin_eq (e.get?_forget m)]
    rw [show (e.forget m).registry = e.registry from rfl,
      show (e.forget m).fresh m = e.fresh m from rfl]
    cases e.registry.select m.tenant m.text <;> rfl

/-- The ways in which a turn can go. A conversation goes on in the engine as it was, or as it is
without the session that was no longer live. -/
inductive Handles (e : Engine) (p : Partners σ) (world : σ) (m : Inbound) (now : Moment)
    (id : String) : Turn σ → Prop
  | abandons {f : Flow} {s : Session} (hl : e.live? m now = some (f, s))
    (hg : e.givesUp f m.text = true) : Handles e p world m now id (e.abandon f m world)
  | converses {f : Flow} {s : Session} {e' : Engine} (ho : e.opening? m now id = some (f, s))
    (he : e' = e ∨ e' = e.forget m) :
    Handles e p world m now id (e'.converse p world f s m now)
  | ignores (ho : e.opening? m now id = none) :
    Handles e p world m now id
      { reply := .noFlow, engine := e.forget m, world, steps := 0, trail := [] }

/-- A turn goes in one of the listed ways. -/
theorem handles_handle (e : Engine) (p : Partners σ) (world : σ) (m : Inbound) (now : Moment)
    (id : String) : e.Handles p world m now id (e.handle p world m now id) := by
  rw [handle_eq]
  cases hl : e.live? m now with
  | some opened =>
    obtain ⟨f, s⟩ := opened
    dsimp only
    split
    · rename_i hg
      exact .abandons hl hg
    · exact .converses (by rw [opening?, hl]; rfl) (.inl rfl)
  | none =>
    dsimp only
    cases hf : e.registry.select m.tenant m.text with
    | some f => exact .converses (by rw [opening?, hl, hf]; rfl) (.inr rfl)
    | none => exact .ignores (by rw [opening?, hl, hf]; rfl)

/-- What is kept where the session of the contact is given up and where a session is stored is kept by
a turn. -/
theorem handle_induct (inv : Engine → Prop) {e : Engine} {m : Inbound} (he : inv e)
    (forgets : ∀ e, inv e → inv (e.forget m))
    (saves : ∀ e s, inv e → inv { e with sessions := e.sessions.save s })
    (p : Partners σ) (world : σ) (now : Moment) (id : String) :
    inv (e.handle p world m now id).engine := by
  have ht := e.handles_handle p world m now id
  generalize e.handle p world m now id = t at ht ⊢
  cases ht with
  | abandons _ _ => exact forgets e he
  | ignores _ => exact forgets e he
  | @converses f s e' _ h' =>
    have he' : inv e' := by
      rcases h' with rfl | rfl
      · exact he
      · exact forgets e he
    rw [converse_eq]
    generalize Setting.turn _ s m.text world = ended
    obtain ⟨how, w⟩ := ended
    cases how with
    | awaiting => exact saves e' w.session he'
    | completed => exact forgets e' he'
    | failed _ => exact forgets e' he'

/-! ### Where a turn begins -/

variable {e : Engine} {m : Inbound} {now : Moment} {id : String}

theorem live?_eq_some {f : Flow} {s : Session} (h : e.live? m now = some (f, s)) :
    e.sessions.get? m.tenant m.contact = some s ∧ s.isIdle now = false ∧
      e.registry.flow? m.tenant s.flow = some f := by
  unfold live? at h
  split at h
  · cases h
  · rename_i t ht
    split at h
    · cases h
    · rename_i hi
      obtain ⟨g, hg, hp⟩ := Option.map_eq_some_iff.1 h
      cases hp
      exact ⟨ht, by simpa using hi, hg⟩

/-- A turn begins with a stored session or with a new one. -/
theorem opening?_eq_some {f : Flow} {s : Session} (h : e.opening? m now id = some (f, s)) :
    e.live? m now = some (f, s) ∨
      e.registry.select m.tenant m.text = some f ∧ s = e.fresh m f now id := by
  rcases Option.or_eq_some_iff.1 h with h | ⟨-, h⟩
  · exact .inl h
  · obtain ⟨g, hg, hp⟩ := Option.map_eq_some_iff.1 h
    cases hp
    exact .inr ⟨hg, rfl⟩

/-- The session with which a turn begins is one of the contact. -/
theorem key_of_opening? (he : e.sessions.Keyed) {f : Flow} {s : Session}
    (h : e.opening? m now id = some (f, s)) : s.key = Session.keyOf m.tenant m.contact := by
  rcases opening?_eq_some h with h | ⟨-, rfl⟩
  · exact he.key_eq (live?_eq_some h).1
  · rfl

/-! ### What a turn does to the store -/

theorem get?_forget_of_ne (e : Engine) (m : Inbound) {key : String}
    (hk : key ≠ Session.keyOf m.tenant m.contact) :
    Fields.get? (e.forget m).sessions.store key = Fields.get? e.sessions.store key :=
  e.sessions.get?_delete_of_ne hk

/-- A session that waits is kept, as the walk has left it. -/
theorem get?_conclude {e : Engine} {f : Flow} {m : Inbound} {w : Walk σ}
    (hw : w.session.key = Session.keyOf m.tenant m.contact) :
    (e.conclude f m (.awaiting, w)).engine.sessions.get? m.tenant m.contact = some w.session := by
  rw [Sessions.get?, ← hw]
  exact e.sessions.get?_save w.session

/-- A turn leaves what stands under other keys. -/
theorem get?_handle_of_ne (he : e.sessions.Keyed) (p : Partners σ) (world : σ) {key : String}
    (hk : key ≠ Session.keyOf m.tenant m.contact) :
    Fields.get? (e.handle p world m now id).engine.sessions.store key =
      Fields.get? e.sessions.store key := by
  have ht := e.handles_handle p world m now id
  generalize e.handle p world m now id = t at ht ⊢
  cases ht with
  | abandons _ _ => exact e.get?_forget_of_ne m hk
  | ignores _ => exact e.get?_forget_of_ne m hk
  | @converses f s e' ho h' =>
    have hsame : Fields.get? e'.sessions.store key = Fields.get? e.sessions.store key := by
      rcases h' with rfl | rfl
      · rfl
      · exact e.get?_forget_of_ne m hk
    have hframe := Setting.frame_turn ⟨f, e'.settings, e'.handlers, p, now⟩ s m.text world
    rw [converse_eq, ← hsame]
    generalize Setting.turn _ s m.text world = ended at hframe ⊢
    obtain ⟨how, w⟩ := ended
    cases how with
    | completed => exact e'.get?_forget_of_ne m hk
    | failed _ => exact e'.get?_forget_of_ne m hk
    | awaiting =>
      have hw : w.session.key = Session.keyOf m.tenant m.contact := by
        rw [Session.key_eq_of_frame hframe, Session.key_hear, key_of_opening? he ho]
      exact e'.sessions.get?_save_of_ne (hw ▸ hk)

/-- The stops of a turn are made in the flow and with the session with which the turn begins. -/
theorem stops_handle (p : Partners σ) (world : σ) {stop : Stop}
    (h : stop ∈ (e.handle p world m now id).trail) :
    ∃ f s, e.opening? m now id = some (f, s) ∧ stop.context.flow = f ∧
      stop.context.session.frame = (s.hear m.text now).frame := by
  have ht := e.handles_handle p world m now id
  generalize e.handle p world m now id = t at ht h
  revert h
  cases ht with
  | abandons _ _ => exact fun h => absurd h List.not_mem_nil
  | ignores _ => exact fun h => absurd h List.not_mem_nil
  | @converses f s e' ho _ =>
    have hstops := fun stop =>
      @Setting.stops_turn σ ⟨f, e'.settings, e'.handlers, p, now⟩ s m.text world stop
    rw [converse_eq]
    generalize Setting.turn _ s m.text world = ended at hstops ⊢
    obtain ⟨how, w⟩ := ended
    intro h
    have hm : stop ∈ w.trail := by
      cases how <;> exact h
    exact ⟨f, s, ho, (hstops stop hm).1, (hstops stop hm).2.1⟩

end Engine

end Dialogue
