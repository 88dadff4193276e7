import Dialogue.Proofs.Flow.Registered
import Dialogue.Proofs.Turn.Store

/-!
# Runs of an engine

In the course of time an engine handles messages, takes flows in and gives them up, and sweeps out
idle sessions, in any order. A run is a list of such events.

* `Engine.Sound.run`: an engine that is sound stays so.
* `Engine.sound_ofSettings`: a new engine is sound.
-/

namespace Dialogue

/-- What happens to an engine. A message comes with its time, and with the name of the session that
may begin. -/
inductive Event where
  | message (m : Inbound) (now : Moment) (id : String)
  | register (f : Flow)
  | remove (tenant flow : String)
  | sweep (now : Moment)

namespace Engine

variable {σ : Type}

/-- The engine and the partners after an event. -/
def after (e : Engine) (p : Partners σ) (world : σ) : Event → Engine × σ
  | .message m now id =>
    let t := e.handle p world m now id
    (t.engine, t.world)
  | .register f => ({ e with registry := e.registry.offer f }, world)
  | .remove tenant flow => ({ e with registry := e.registry.remove tenant flow }, world)
  | .sweep now => ({ e with sessions := (e.sessions.sweep now).2 }, world)

/-- The engine and the partners after events, one after the other. -/
def run (e : Engine) (p : Partners σ) (world : σ) : List Event → Engine × σ
  | [] => (e, world)
  | event :: more => run (e.after p world event).1 p (e.after p world event).2 more

/-- What every event keeps holds after every run. -/
theorem run_induct (inv : Engine → Prop) {p : Partners σ}
    (keeps : ∀ e world event, inv e → inv (Engine.after e p world event).1) {e : Engine}
    (he : inv e) (world : σ) (events : List Event) : inv (e.run p world events).1 := by
  induction events generalizing e world with
  | nil => exact he
  | cons event more ih => exact ih (keeps e world event he) _

/-! ### What holds of an engine from its beginning on -/

/-- An engine is sound when each flow was built before it was registered and each session stands
under its own key. -/
structure Sound (e : Engine) : Prop where
  built : e.registry.Built
  keyed : e.sessions.Keyed

/-- The flow of a turn was built. -/
theorem Sound.build_of_opening? {e : Engine} (he : e.Sound) {m : Inbound} {now : Moment}
    {id : String} {f : Flow} {s : Session} (h : e.opening? m now id = some (f, s)) :
    f.build = f := by
  rcases opening?_eq_some h with h | ⟨h, -⟩
  · exact he.built.of_flow? (live?_eq_some h).2.2
  · exact he.built.of_select h

/-- A new engine is sound. -/
theorem sound_ofSettings (settings : Settings) : (ofSettings settings).Sound :=
  ⟨fun _ h => absurd h List.not_mem_nil, Sessions.keyed_empty _ _⟩

/-- A turn keeps each session under its own key. -/
theorem keyed_handle {e : Engine} (h : e.sessions.Keyed) (p : Partners σ) (world : σ) (m : Inbound)
    (now : Moment) (id : String) : (e.handle p world m now id).engine.sessions.Keyed :=
  handle_induct (·.sessions.Keyed) h (fun _ h => h.delete m.tenant m.contact)
    (fun _ s h => h.save s) p world now id

theorem registry_conclude (e : Engine) (f : Flow) (m : Inbound) (ended : WalkEnd × Walk σ) :
    (e.conclude f m ended).engine.registry = e.registry := by
  obtain ⟨how, w⟩ := ended
  cases how <;> rfl

/-- A turn leaves the registered flows alone. -/
theorem registry_handle (e : Engine) (p : Partners σ) (world : σ) (m : Inbound) (now : Moment)
    (id : String) : (e.handle p world m now id).engine.registry = e.registry :=
  handle_induct (·.registry = e.registry) rfl (fun _ h => h) (fun _ _ h => h) p world now id

theorem built_after {e : Engine} (h : e.registry.Built) (p : Partners σ) (world : σ)
    (event : Event) : (e.after p world event).1.registry.Built := by
  cases event with
  | message m now id =>
    rw [after, registry_handle]
    exact h
  | register f => exact h.offer f
  | remove tenant flow => exact h.remove tenant flow
  | sweep now => exact h

theorem keyed_after {e : Engine} (h : e.sessions.Keyed) (p : Partners σ) (world : σ)
    (event : Event) : (e.after p world event).1.sessions.Keyed := by
  cases event with
  | message m now id => exact keyed_handle h p world m now id
  | register f => exact h
  | remove tenant flow => exact h
  | sweep now => exact h.sweep now

/-- Each session stays under its own key, whatever happens. -/
theorem keyed_run {e : Engine} (h : e.sessions.Keyed) (p : Partners σ) (world : σ)
    (events : List Event) : (e.run p world events).1.sessions.Keyed :=
  run_induct (fun e => e.sessions.Keyed) (fun _ world event h => keyed_after h p world event) h
    world events

/-- A sound engine stays so, whatever happens. -/
theorem Sound.run {e : Engine} (h : e.Sound) (p : Partners σ) (world : σ) (events : List Event) :
    (e.run p world events).1.Sound :=
  run_induct Sound (fun _ world event h =>
    ⟨built_after h.built p world event, keyed_after h.keyed p world event⟩) h world events

end Engine

/-! ### A small flow -/

/-- A flow that asks every new contact of a tenant for a name. -/
def Flow.askName (tenant : String) : Flow :=
  { Flow.new tenant "alta" "Alta" "nombre" with
    triggers := ⟨[], 0, .always⟩
    nodes := [.of "nombre" (.input (.named "nombre"))] }

/-- The check does not look at whose the flow is. -/
theorem Flow.isValid_askName (tenant : String) : (askName tenant).build.check.isValid = true := by
  have h : (askName "").build.check.isValid = true := by decide +kernel
  exact h

/-- Partners that nobody reaches. -/
def Partners.absent : Partners Unit :=
  ⟨fun _ world => (.error .noModelKey, world), fun _ world => (.error .noModelKey, world)⟩

end Dialogue
