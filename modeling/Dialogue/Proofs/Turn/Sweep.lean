import Dialogue.Proofs.Turn.Log

/-!
# Sweeps are not seen

An idle session is removed by a sweep, or else when its contact speaks again. Which of the two comes
first makes no difference to any contact: between two runs of which only one is swept, the stores
differ in sessions that are idle, and no turn goes on with an idle session.

* `Engine.Trimmed`: one engine is another without some sessions that are idle at a time. Sweeping the
  first keeps this, and so does a turn of both, in which both go the same way.
* `Engine.sweeps_unseen`: a run and the same run without its sweeps have the same log.
-/

namespace Dialogue

/-! ### Events in time -/

namespace Event

/-- The time of an event; taking flows in and giving them up have none. -/
def time? : Event → Option Moment
  | message _ now _ | sweep now => some now
  | register _ | remove _ _ => none

/-- Whether an event is a sweep. -/
def isSweep : Event → Bool
  | sweep _ => true
  | _ => false

end Event

/-- The times of events, where they have one. -/
def times (events : List Event) : List Moment := events.filterMap Event.time?

/-- Events are in order when their times do not go back. -/
def InOrder (events : List Event) : Prop := (times events).Pairwise fun t u => t.le u = true

instance (events : List Event) : Decidable (InOrder events) :=
  inferInstanceAs (Decidable ((times events).Pairwise _))

/-- The time of an event follows those before it. -/
theorem append_times_cons (past : List Moment) {event : Event} {now : Moment}
    (ht : event.time? = some now) (more : List Event) :
    past ++ times (event :: more) = past ++ [now] ++ times more := by
  simp [times, ht]

namespace Engine

variable {σ : Type}

/-- One engine is like another except that some sessions are missing that are idle at a time. -/
structure Trimmed (last : Option Moment) (e e' : Engine) : Prop where
  registry_eq : e'.registry = e.registry
  settings_eq : e'.settings = e.settings
  handlers_eq : e'.handlers = e.handlers
  window_eq : e'.sessions.window = e.sessions.window
  idle_eq : e'.sessions.idle = e.sessions.idle
  sorted : Fields.Sorted e'.sessions.store
  store : ∀ key, Fields.get? e'.sessions.store key = Fields.get? e.sessions.store key ∨
    Fields.get? e'.sessions.store key = none ∧
      ∃ s t, Fields.get? e.sessions.store key = some s ∧ last = some t ∧ s.isIdle t = true

namespace Trimmed

variable {last : Option Moment} {e e' : Engine} {now : Moment}

theorem refl (h : Fields.Sorted e.sessions.store) : Trimmed last e e :=
  ⟨rfl, rfl, rfl, rfl, rfl, h, fun _ => .inl rfl⟩

/-- What is idle stays idle. -/
theorem later (h : Trimmed last e e') (hn : ∀ t, last = some t → t.le now = true) :
    Trimmed (some now) e e' := by
  refine { h with store := fun key => ?_ }
  rcases h.store key with hs | ⟨hs, s, t, he, ht, hi⟩
  · exact .inl hs
  · exact .inr ⟨hs, s, now, he, rfl, Session.isIdle_mono (hn t ht) hi⟩

/-- At the next time of a run all that was idle before still is. -/
theorem reached {past rest : List Moment} (h : Trimmed past.getLast? e e')
    (ho : (past ++ [now] ++ rest).Pairwise fun t u => t.le u = true) : Trimmed (some now) e e' :=
  h.later fun t ht => (List.pairwise_append.1 (List.pairwise_append.1 ho).1).2.2 t
    (List.mem_of_getLast? ht) now (List.mem_singleton_self now)

theorem registered (h : Trimmed last e e') (change : Registry → Registry) :
    Trimmed last { e with registry := change e.registry }
      { e' with registry := change e'.registry } :=
  { h with registry_eq := congrArg change h.registry_eq }

/-- A sweep removes nothing but what is idle. -/
theorem sweep (h : Trimmed (some now) e e') :
    Trimmed (some now) e { e' with sessions := (e'.sessions.sweep now).2 } := by
  refine { h with sorted := h.sorted.filter _, store := fun key => ?_ }
  show Fields.get? (e'.sessions.store.filter _) key = _ ∨
    Fields.get? (e'.sessions.store.filter _) key = none ∧ _
  rw [h.sorted.get?_filter]
  rcases h.store key with hs | ⟨hs, hidle⟩
  · rw [hs]
    cases he : Fields.get? e.sessions.store key with
    | none => exact .inl rfl
    | some s =>
      cases hw : e'.sessions.isSwept now (key, s) with
      | false => exact .inl (by simp [hw])
      | true =>
        have hi : s.isIdle now = true := by
          simp only [Sessions.isSwept, Bool.and_eq_true] at hw
          exact hw.2
        exact .inr ⟨by simp [hw], s, now, rfl, rfl, hi⟩
  · exact .inr ⟨by rw [hs]; rfl, hidle⟩

theorem forget (h : Trimmed last e e') (m : Inbound) :
    Trimmed last (e.forget m) (e'.forget m) := by
  refine { h with sorted := h.sorted.filter _, store := fun key => ?_ }
  by_cases hk : key = Session.keyOf m.tenant m.contact
  · subst hk
    exact .inl ((e'.get?_forget m).trans (e.get?_forget m).symm)
  · rw [e'.get?_forget_of_ne m hk, e.get?_forget_of_ne m hk]
    exact h.store key

theorem save (h : Trimmed last e e') (s : Session) :
    Trimmed last { e with sessions := e.sessions.save s }
      { e' with sessions := e'.sessions.save s } := by
  refine { h with sorted := Fields.sorted_insert _ _ h.sorted, store := fun key => ?_ }
  by_cases hk : key = s.key
  · subst hk
    exact .inl ((e'.sessions.get?_save s).trans (e.sessions.get?_save s).symm)
  · rw [e'.sessions.get?_save_of_ne hk, e.sessions.get?_save_of_ne hk]
    exact h.store key

theorem conclude (h : Trimmed last e e') (f : Flow) (m : Inbound) (ended : WalkEnd × Walk σ) :
    Trimmed last (e.conclude f m ended).engine (e'.conclude f m ended).engine := by
  obtain ⟨how, w⟩ := ended
  cases how with
  | awaiting => exact h.save w.session
  | completed => exact h.forget m
  | failed _ => exact h.forget m

theorem converse (h : Trimmed last e e') (p : Partners σ) (world : σ) (f : Flow) (s : Session)
    (m : Inbound) (now : Moment) :
    Trimmed last (e.converse p world f s m now).engine (e'.converse p world f s m now).engine := by
  rw [converse_eq, converse_eq, h.settings_eq, h.handlers_eq]
  exact h.conclude f m _

/-- What is live is in both engines. -/
theorem live?_eq (h : Trimmed (some now) e e') (m : Inbound) : e'.live? m now = e.live? m now := by
  unfold live? Sessions.get?
  rw [h.registry_eq]
  rcases h.store (Session.keyOf m.tenant m.contact) with hs | ⟨hs, s, t, he, ht, hi⟩
  · rw [hs]
  · cases ht
    rw [hs, he]
    simp [hi]

theorem fresh_eq (h : Trimmed last e e') (m : Inbound) (f : Flow) (now : Moment) (id : String) :
    e'.fresh m f now id = e.fresh m f now id := by
  unfold fresh Sessions.idleFor
  rw [h.window_eq, h.idle_eq]

/-- A turn goes the same way in both engines, and afterwards they still differ in idle sessions
only. -/
theorem handle (h : Trimmed (some now) e e') (p : Partners σ) (world : σ) (m : Inbound)
    (id : String) :
    Turn.Alike m (e.handle p world m now id) (e'.handle p world m now id) ∧
      Trimmed (some now) (e.handle p world m now id).engine
        (e'.handle p world m now id).engine := by
  have hforgotten : (e.forget m).sessions.get? m.tenant m.contact =
      (e'.forget m).sessions.get? m.tenant m.contact :=
    (e.get?_forget m).trans (e'.get?_forget m).symm
  rw [handle_eq, handle_eq, h.live?_eq, h.registry_eq]
  cases hl : e.live? m now with
  | some opened =>
    obtain ⟨f, s⟩ := opened
    have hg : e'.givesUp f m.text = e.givesUp f m.text := by
      rw [givesUp, givesUp, h.settings_eq]
    have hsame : e.sessions.get? m.tenant m.contact = e'.sessions.get? m.tenant m.contact := by
      obtain ⟨hs, -, -⟩ := live?_eq_some hl
      obtain ⟨hs', -, -⟩ := live?_eq_some ((h.live?_eq m).trans hl)
      rw [hs, hs']
    dsimp only
    rw [hg]
    split
    · refine ⟨⟨?_, rfl, rfl, rfl, hforgotten⟩, h.forget m⟩
      rw [abandon, abandon, h.settings_eq]
    · exact ⟨alike_converse hsame h.settings_eq.symm h.handlers_eq.symm p world f s now,
        h.converse p world f s m now⟩
  | none =>
    cases e.registry.select m.tenant m.text with
    | some f =>
      dsimp only
      rw [h.fresh_eq]
      exact ⟨alike_converse hforgotten h.settings_eq.symm h.handlers_eq.symm p world f _ now,
        (h.forget m).converse p world f _ m now⟩
    | none => exact ⟨⟨rfl, rfl, rfl, rfl, hforgotten⟩, h.forget m⟩

theorem exchange_eq (h : Trimmed (some now) e e') (p : Partners σ) (world : σ) (m : Inbound)
    (id : String) : e'.exchange p world m now id = e.exchange p world m now id := by
  obtain ⟨ha, -⟩ := h.handle p world m id
  unfold exchange
  dsimp only
  rw [h.live?_eq, ha.reply, ha.trail]

end Trimmed

/-! ### Runs -/

/-- What a run and the same run without its sweeps have in common: all exchanges, the partners
afterwards, and all of the engines but sessions that are idle at the last time of the run. -/
structure SameUnswept (e : Engine) (p : Partners σ) (world : σ) (events : List Event) : Prop where
  log_eq : e.log p world events = e.log p world (events.filter (!·.isSweep))
  world_eq : (e.run p world events).2 = (e.run p world (events.filter (!·.isSweep))).2
  trimmed : Trimmed (times events).getLast? (e.run p world (events.filter (!·.isSweep))).1
    (e.run p world events).1

/-- Two engines of which the second lacks idle sessions have runs with the same log when the second
is swept as well; `past` are the times before the runs. -/
theorem Trimmed.run {past : List Moment} {e e' : Engine} (h : Trimmed past.getLast? e e')
    (p : Partners σ) (world : σ) {events : List Event}
    (ho : (past ++ times events).Pairwise fun t u => t.le u = true) :
    e'.log p world events = e.log p world (events.filter (!·.isSweep)) ∧
      (e'.run p world events).2 = (e.run p world (events.filter (!·.isSweep))).2 ∧
      Trimmed (past ++ times events).getLast? (e.run p world (events.filter (!·.isSweep))).1
        (e'.run p world events).1 := by
  induction events generalizing past e e' world with
  | nil =>
    rw [show times [] = [] from rfl, List.append_nil]
    exact ⟨rfl, rfl, h⟩
  | cons event more ih =>
    cases event with
    | register f => exact ih (h.registered (·.offer f)) world ho
    | remove tenant flow => exact ih (h.registered (·.remove tenant flow)) world ho
    | sweep now =>
      rw [append_times_cons past rfl] at ho ⊢
      have ht : Trimmed (past ++ [now]).getLast? e { e' with sessions := (e'.sessions.sweep now).2 } :=
        List.getLast?_concat.symm ▸ (h.reached ho).sweep
      exact ih ht world ho
    | message m now id =>
      rw [append_times_cons past rfl] at ho ⊢
      have ht := h.reached ho
      obtain ⟨ha, hafter⟩ := ht.handle p world m id
      have hx := ht.exchange_eq p world m id
      have hafter' : Trimmed (past ++ [now]).getLast? (e.handle p world m now id).engine
          (e'.handle p world m now id).engine := List.getLast?_concat.symm ▸ hafter
      obtain ⟨hlog, hworld, hrun⟩ := ih hafter' (e.handle p world m now id).world ho
      refine ⟨?_, ?_, ?_⟩
      · show e'.exchange p world m now id :: log (e'.handle p world m now id).engine p
          (e'.handle p world m now id).world more = _
        rw [hx, ← ha.world, hlog]
        rfl
      · show (Engine.run (e'.handle p world m now id).engine p (e'.handle p world m now id).world
          more).2 = _
        rw [← ha.world, hworld]
        rfl
      · show Trimmed _ _ (Engine.run (e'.handle p world m now id).engine p
          (e'.handle p world m now id).world more).1
        rw [← ha.world]
        exact hrun

/-- **Sweeps are not seen**: with and without them a run has the same exchanges, and the stores
differ only in sessions that are idle at the last time of the run. -/
theorem sweeps_unseen {e : Engine} (hs : Fields.Sorted e.sessions.store) (p : Partners σ)
    (world : σ) {events : List Event} (ho : InOrder events) : e.SameUnswept p world events := by
  have hstart : Trimmed ([] : List Moment).getLast? e e := Trimmed.refl hs
  obtain ⟨hlog, hworld, hrun⟩ := hstart.run p world ho
  exact ⟨hlog, hworld, hrun⟩

/-- What happens to a contact who is asked for a name, falls silent and is swept out. -/
def silence : List Event :=
  [.register (.askName "acme"), .message ⟨"acme", "555", "", "hola"⟩ ⟨0, 0⟩ "s", .sweep ⟨1900, 0⟩,
    .message ⟨"acme", "777", "", "hola"⟩ ⟨2000, 0⟩ "t"]

set_option maxRecDepth 10000 in
/-- The contact who fell silent is in the store that was not swept only. -/
theorem sweeps_unseen_of_silence :
    let e := ofSettings .usual
    let swept := (e.run .absent () silence).1.sessions
    let unswept := (e.run .absent () (silence.filter (!·.isSweep))).1.sessions
    Fields.Sorted e.sessions.store ∧ InOrder silence ∧
      (swept.get? "acme" "555").isSome = false ∧ (unswept.get? "acme" "555").isSome = true ∧
      e.SameUnswept .absent () silence := by
  have hs : Fields.Sorted (ofSettings .usual).sessions.store := .nil
  have ho : InOrder silence := by decide
  exact ⟨hs, ho, by decide +kernel, by decide +kernel, sweeps_unseen hs .absent () ho⟩

end Engine

end Dialogue
