import Dialogue.Proofs.Turn.Log

/-!
# What holds of every engine

Whatever happens to a new engine, its registry is lawful, it keeps its handlers and settings, and what
is stored of a contact is what a turn has left.

* `Engine.Lawful.run`: what holds of a new engine, `Engine.Lawful`, holds after every run.
* `Engine.exists_of_get?_handle`: what is stored after a message was left by a turn that waits.
-/

namespace Dialogue

namespace Engine

variable {σ : Type}

/-- What holds of an engine from its beginning on. An engine whose turns may not take a single step
never keeps a session. -/
structure Lawful (e : Engine) : Prop extends e.Sound where
  flows : e.registry.Lawful
  sorted : Fields.Sorted e.sessions.store
  usual : e.handlers = .usual
  impatient : e.settings.maxSteps = 0 → e.sessions.store = []

/-- A new engine is lawful. -/
theorem lawful_ofSettings (settings : Settings) : (ofSettings settings).Lawful where
  toSound := sound_ofSettings settings
  flows := Registry.lawful_empty
  sorted := .nil
  usual := rfl
  impatient _ := rfl

/-- Without a single step to take, a turn leaves an empty store empty. -/
theorem store_handle_of_impatient {e : Engine} (hmax : e.settings.maxSteps = 0)
    (hs : e.sessions.store = []) (p : Partners σ) (world : σ) (m : Inbound) (now : Moment)
    (id : String) : (e.handle p world m now id).engine.sessions.store = [] := by
  have hf : (e.forget m).sessions.store = [] := by
    show Fields.erase e.sessions.store _ = []
    rw [hs]
    rfl
  have hcut : ∀ {e' : Engine} (f : Flow) (s : Session), e' = e ∨ e' = e.forget m →
      (e'.converse p world f s m now).engine.sessions.store = [] := by
    intro e' f s he
    have hm : e'.settings.maxSteps = 0 := by rcases he with rfl | rfl <;> exact hmax
    have hs' : e'.sessions.store = [] := by rcases he with rfl | rfl <;> assumption
    rw [converse_eq, Setting.turn_eq]
    dsimp only
    rw [hm, Setting.walkFrom_zero]
    show Fields.erase e'.sessions.store _ = []
    rw [hs']
    rfl
  have ht := e.handles_handle p world m now id
  generalize e.handle p world m now id = t at ht ⊢
  cases ht with
  | abandons _ _ => exact hf
  | ignores _ => exact hf
  | converses _ he => exact hcut _ _ he

/-- A lawful engine stays so. -/
theorem Lawful.after {e : Engine} (h : e.Lawful) (p : Partners σ) (world : σ) (event : Event) :
    (e.after p world event).1.Lawful := by
  refine ⟨⟨built_after h.built p world event, keyed_after h.keyed p world event⟩, ?_,
    sorted_after h.sorted p world event, ?_, ?_⟩
  · cases event with
    | message m now id =>
      rw [Engine.after, registry_handle]
      exact h.flows
    | register f => exact h.flows.offer f
    | remove tenant flow => exact h.flows.remove tenant flow
    | sweep now => exact h.flows
  · cases event with
    | message m now id =>
      obtain ⟨store, ht⟩ := e.engine_handle p world m now id
      rw [Engine.after, ht]
      exact h.usual
    | _ => exact h.usual
  · cases event with
    | message m now id =>
      intro hmax
      obtain ⟨store, ht⟩ := e.engine_handle p world m now id
      rw [Engine.after, ht] at hmax
      have hmax : e.settings.maxSteps = 0 := hmax
      exact store_handle_of_impatient hmax (h.impatient hmax) p world m now id
    | sweep now =>
      intro hmax
      show e.sessions.store.filter _ = []
      rw [h.impatient hmax]
      rfl
    | register f => exact h.impatient
    | remove tenant flow => exact h.impatient

/-- A lawful engine stays so, whatever happens. -/
theorem Lawful.run {e : Engine} (h : e.Lawful) (p : Partners σ) (world : σ) (events : List Event) :
    (e.run p world events).1.Lawful :=
  run_induct Lawful (fun _ world event h => h.after p world event) h world events

/-- What is stored of a contact after a message was left by the turn, which waits. -/
theorem exists_of_get?_handle {e : Engine} (h : e.sessions.Keyed) {p : Partners σ} {world : σ}
    {m : Inbound} {now : Moment} {id : String} {t : Session}
    (ht : (e.handle p world m now id).engine.sessions.get? m.tenant m.contact = some t) :
    ∃ f s, e.opening? m now id = some (f, s) ∧
      (Setting.turn ⟨f, e.settings, e.handlers, p, now⟩ s m.text world).1 = .awaiting ∧
      (Setting.turn ⟨f, e.settings, e.handlers, p, now⟩ s m.text world).2.session = t := by
  have hforget : ∀ e' : Engine, (e'.forget m).sessions.get? m.tenant m.contact ≠ some t := by
    intro e' he
    rw [get?_forget] at he
    cases he
  have hh := e.handles_handle p world m now id
  generalize e.handle p world m now id = turn at hh ht
  revert ht
  cases hh with
  | abandons _ _ => exact fun ht => absurd ht (hforget e)
  | ignores _ => exact fun ht => absurd ht (hforget e)
  | @converses f s e' ho he =>
    have hset : (⟨f, e'.settings, e'.handlers, p, now⟩ : Setting σ) =
        ⟨f, e.settings, e.handlers, p, now⟩ := by
      rcases he with rfl | rfl <;> rfl
    have hframe := Setting.frame_turn ⟨f, e.settings, e.handlers, p, now⟩ s m.text world
    rw [converse_eq, hset]
    intro ht
    refine ⟨f, s, ho, ?_⟩
    generalize Setting.turn _ s m.text world = ended at hframe ht ⊢
    obtain ⟨how, w⟩ := ended
    cases how with
    | completed => exact absurd ht (hforget e')
    | failed _ => exact absurd ht (hforget e')
    | awaiting =>
      have hw : w.session.key = Session.keyOf m.tenant m.contact := by
        rw [Session.key_eq_of_frame hframe, Session.key_hear, key_of_opening? h ho]
      rw [get?_conclude hw] at ht
      exact ⟨rfl, Option.some.inj ht⟩

end Engine

end Dialogue
