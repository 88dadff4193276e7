import Dialogue.Turn.Engine

/-!
# What a walk can do

A step of a walk ends it in one of six ways or leads on to another node. `Setting.Steps` lists these
ways with all that holds in each of them, so that nothing below opens the definition of a step
again.

* `Setting.step_of_node`: a step from a node, in terms of what came of visiting it.
* `Setting.steps_step`: a step is one of those listed.
* `Setting.walkFrom_induct`: what each step keeps holds throughout a walk, and what each last step
  makes of it holds at its end. `Setting.turn_induct` is the case in which all steps keep the same.
* `Setting.frame_turn`: a turn leaves alone whose a session is and when it runs out.
* `Setting.settled_turn`: a turn that waits does so on a node of its flow.
-/

namespace Dialogue

/-! ### The part of a session that no walk changes -/

/-- What a session is from its beginning to its end, apart from its times of activity, which belong
to a whole turn. -/
structure Frame where
  id : String
  tenant : String
  contact : String
  flow : String
  entry : String
  window : Nat
  created : Moment
  lastActive : Moment
  deadline : Moment
  idleSeconds : Int

namespace Session

/-- The frame of a session. -/
def frame (s : Session) : Frame :=
  ⟨s.id, s.tenant, s.contact, s.flow, s.entry, s.window, s.created, s.lastActive, s.deadline,
    s.idleSeconds⟩

variable (s : Session)

@[simp] theorem frame_say (party : Party) (text : String) (now : Moment) :
    (s.say party text now).frame = s.frame := rfl

@[simp] theorem frame_merge (node : String) (values : Fields Value) (exports : List String) :
    (s.merge node values exports).frame = s.frame := rfl

@[simp] theorem frame_setRefused (node : String) (count : Option Nat) :
    (s.setRefused node count).frame = s.frame := by
  cases count <;> rfl

@[simp] theorem current_say (party : Party) (text : String) (now : Moment) :
    (s.say party text now).current = s.current := rfl

@[simp] theorem current_setRefused (node : String) (count : Option Nat) :
    (s.setRefused node count).current = s.current := by
  cases count <;> rfl

theorem frame_foldl_say (messages : List String) (now : Moment) :
    (messages.foldl (fun s m => s.say .bot m now) s).frame = s.frame := by
  induction messages generalizing s with
  | nil => rfl
  | cons m messages ih => rw [List.foldl_cons, ih, frame_say]

theorem current_foldl_say (messages : List String) (now : Moment) :
    (messages.foldl (fun s m => s.say .bot m now) s).current = s.current := by
  induction messages generalizing s with
  | nil => rfl
  | cons m messages ih => rw [List.foldl_cons, ih, current_say]

@[simp] theorem frame_apply (node : String) (o : Outcome) (now : Moment) :
    (s.apply node o now).frame = s.frame := by
  unfold apply
  rw [frame_foldl_say, frame_setRefused]
  split <;> simp

/-- What a node produces does not move the conversation. -/
@[simp] theorem current_apply (node : String) (o : Outcome) (now : Moment) :
    (s.apply node o now).current = s.current := by
  unfold apply
  rw [current_foldl_say, current_setRefused]
  split <;> rfl

theorem key_eq_of_frame {s t : Session} (h : s.frame = t.frame) : s.key = t.key := by
  have ht : s.tenant = t.tenant := congrArg Frame.tenant h
  have hc : s.contact = t.contact := congrArg Frame.contact h
  rw [key, key, ht, hc]

end Session

/-! ### Steps -/

/-- The walk as it stands at another node. -/
def Walk.moved {σ : Type} (w : Walk σ) (target : String) (awaiting : Bool) : Walk σ :=
  { w with session := { w.session with current := target, awaiting } }

/-- The walk that a step makes, whether it ends there or not. -/
def Progress.walk {σ : Type} : Progress σ → Walk σ
  | .ended _ w => w
  | .onward w => w

namespace Setting

variable {σ : Type}

/-- What comes of visiting a node, and the partners afterwards. -/
def result (e : Setting σ) (w : Walk σ) (n : Node) : NodeResult × σ :=
  (e.handlers.visit (e.context w) n).run e.partners w.world

/-- The walk after a visit, whatever came of it. -/
def seen (e : Setting σ) (w : Walk σ) (n : Node) : Walk σ :=
  { w with
    inbound := none
    steps := w.steps + 1
    trail := w.trail ++ [⟨e.context w, n, (e.handlers.visit (e.context w) n).request?⟩]
    world := (e.result w n).2 }

/-- The walk after a visit with an outcome, before it goes where the outcome leads. -/
def absorbed (e : Setting σ) (w : Walk σ) (n : Node) (o : Outcome) : Walk σ :=
  { e.seen w n with
    session := w.session.apply n.id o e.now
    messages := w.messages ++ o.messages }

/-- Whether an outcome leads from a node to a target, by name or along the first open edge. -/
def LeadsTo (e : Setting σ) (s : Session) (n : Node) (o : Outcome) (target : String) : Prop :=
  o.next = .node target ∨
    o.next = .edges ∧ ∃ edge, Edge.choose (s.scope e.flow.constants) n.edges = some edge ∧
      edge.target = target

/-- Whether an outcome leads nowhere. -/
def LeadsNowhere (e : Setting σ) (s : Session) (n : Node) (o : Outcome) : Prop :=
  o.next = .finish ∨ o.next = .edges ∧ Edge.choose (s.scope e.flow.constants) n.edges = none

/-- The visit to the current node had this outcome. -/
structure Visits (e : Setting σ) (w : Walk σ) (n : Node) (o : Outcome) : Prop where
  node : e.flow.node? w.session.current = some n
  outcome : (e.result w n).1 = .ok o

/-- The ways in which a step can go. -/
inductive Steps (e : Setting σ) (w : Walk σ) : Progress σ → Prop
  | lost (hn : e.flow.node? w.session.current = none) :
    Steps e w (.ended (.failed (.defect (.unknownNode w.session.current)))
      { w with steps := w.steps + 1 })
  | broken {n : Node} {f : NodeFault} (hn : e.flow.node? w.session.current = some n)
    (hf : (e.result w n).1 = .error f) : Steps e w (.ended (.failed f) (e.seen w n))
  | stays {n : Node} {o : Outcome} (hv : e.Visits w n o) (ho : o.next = .stay) :
    Steps e w (.ended .awaiting ((e.absorbed w n o).moved w.session.current true))
  | finishes {n : Node} {o : Outcome} (hv : e.Visits w n o)
    (ho : e.LeadsNowhere (e.absorbed w n o).session n o) :
    Steps e w (.ended .completed (e.absorbed w n o))
  | strays {n : Node} {o : Outcome} {target : String} (hv : e.Visits w n o)
    (ho : e.LeadsTo (e.absorbed w n o).session n o target) (ht : e.flow.node? target = none) :
    Steps e w (.ended (.failed (.defect (.unknownNode target))) (e.absorbed w n o))
  | parks {n : Node} {o : Outcome} {target : String} (hv : e.Visits w n o)
    (ho : e.LeadsTo (e.absorbed w n o).session n o target)
    (ht : (e.flow.node? target).isSome) (ha : o.awaiting = true) :
    Steps e w (.ended .awaiting ((e.absorbed w n o).moved target true))
  | moves {n : Node} {o : Outcome} {target : String} (hv : e.Visits w n o)
    (ho : e.LeadsTo (e.absorbed w n o).session n o target)
    (ht : (e.flow.node? target).isSome) (ha : o.awaiting = false) :
    Steps e w (.onward ((e.absorbed w n o).moved target false))

theorem steps_goTo {e : Setting σ} {w : Walk σ} {n : Node} {o : Outcome} {target : String}
    (hv : e.Visits w n o) (ho : e.LeadsTo (e.absorbed w n o).session n o target) :
    e.Steps w (e.goTo target o.awaiting (e.absorbed w n o)) := by
  unfold goTo
  split
  · rename_i ht
    exact .strays hv ho (Option.isNone_iff_eq_none.1 ht)
  · rename_i ht
    have hs : (e.flow.node? target).isSome := by simpa [Option.isSome_iff_ne_none] using ht
    cases ha : o.awaiting with
    | true => exact .parks hv ho hs ha
    | false => exact .moves hv ho hs ha

theorem steps_proceed {e : Setting σ} {w : Walk σ} {n : Node} {o : Outcome}
    (hv : e.Visits w n o) : e.Steps w (e.proceed n o (e.absorbed w n o)) := by
  unfold proceed
  split
  · rename_i ho
    have h := Steps.stays hv ho
    have hc : (e.absorbed w n o).session.current = w.session.current :=
      Session.current_apply w.session n.id o e.now
    rw [← hc] at h
    exact h
  · rename_i ho
    exact .finishes hv (.inl ho)
  · rename_i target ho
    exact steps_goTo hv (.inl ho)
  · rename_i ho
    split
    · rename_i edge he
      exact steps_goTo hv (.inr ⟨ho, edge, he, rfl⟩)
    · rename_i he
      exact .finishes hv (.inr ⟨ho, he⟩)

/-- A step from nowhere ends the walk. -/
theorem step_of_lost {e : Setting σ} {w : Walk σ} (hn : e.flow.node? w.session.current = none) :
    e.step w = .ended (.failed (.defect (.unknownNode w.session.current)))
      { w with steps := w.steps + 1 } := by
  unfold step
  dsimp only
  rw [hn]

/-- A step from a node goes on from what came of visiting it. -/
theorem step_of_node {e : Setting σ} {w : Walk σ} {n : Node}
    (hn : e.flow.node? w.session.current = some n) :
    e.step w = match (e.result w n).1 with
      | .error f => .ended (.failed f) (e.seen w n)
      | .ok o => e.proceed n o (e.absorbed w n o) := by
  unfold step absorbed seen result
  dsimp only
  rw [hn]
  rfl

/-- A step goes in one of the listed ways. -/
theorem steps_step (e : Setting σ) (w : Walk σ) : e.Steps w (e.step w) := by
  cases hn : e.flow.node? w.session.current with
  | none =>
    rw [step_of_lost hn]
    exact .lost hn
  | some n =>
    rw [step_of_node hn]
    cases hr : (e.result w n).1 with
    | error f => exact .broken hn hr
    | ok o => exact steps_proceed ⟨hn, hr⟩

/-! ### What a step keeps -/

variable {e : Setting σ} {w : Walk σ} {p : Progress σ}

/-- A visit has one outcome only. -/
theorem Visits.unique {n m : Node} {o u : Outcome} (h : e.Visits w n o) (h' : e.Visits w m u) :
    m = n ∧ u = o := by
  obtain rfl : m = n := Option.some.inj (h'.node.symm.trans h.node)
  exact ⟨rfl, Except.ok.inj (h'.outcome.symm.trans h.outcome)⟩

/-- After a step the session is as the visit has left it, wherever it stands now. Without an outcome it
is as it was. -/
theorem Steps.session_eq (h : e.Steps w p) :
    (p.walk.session = w.session ∧ ∀ n o, ¬e.Visits w n o) ∨
      ∃ n o, e.Visits w n o ∧ ∃ current awaiting,
        p.walk.session = { w.session.apply n.id o e.now with current, awaiting } := by
  cases h with
  | lost hn => exact .inl ⟨rfl, fun n o hv => by cases hv.node.symm.trans hn⟩
  | @broken n f hn hf =>
    refine .inl ⟨rfl, fun m o hv => ?_⟩
    obtain rfl : m = n := Option.some.inj (hv.node.symm.trans hn)
    cases hv.outcome.symm.trans hf
  | stays hv _ => exact .inr ⟨_, _, hv, _, _, rfl⟩
  | finishes hv _ => exact .inr ⟨_, _, hv, _, _, rfl⟩
  | strays hv _ _ => exact .inr ⟨_, _, hv, _, _, rfl⟩
  | parks hv _ _ _ => exact .inr ⟨_, _, hv, _, _, rfl⟩
  | moves hv _ _ _ => exact .inr ⟨_, _, hv, _, _, rfl⟩

theorem Steps.frame (h : e.Steps w p) : p.walk.session.frame = w.session.frame := by
  have ha : ∀ n o, (e.absorbed w n o).session.frame = w.session.frame := fun n o =>
    Session.frame_apply w.session n.id o e.now
  cases h with
  | lost _ => rfl
  | broken _ _ => rfl
  | stays hv _ => exact ha _ _
  | finishes hv _ => exact ha _ _
  | strays hv _ _ => exact ha _ _
  | parks hv _ _ _ => exact ha _ _
  | moves hv _ _ _ => exact ha _ _

/-- A step counts as one, however it goes. -/
theorem Steps.steps_eq (h : e.Steps w p) : p.walk.steps = w.steps + 1 := by
  cases h <;> rfl

/-- The stop that a visit to the current node makes. -/
def stopAt (e : Setting σ) (w : Walk σ) (n : Node) : Stop :=
  ⟨e.context w, n, (e.handlers.visit (e.context w) n).request?⟩

/-- A step makes at most one stop, at the current node. -/
theorem Steps.trail_eq (h : e.Steps w p) :
    p.walk.trail = w.trail ∨ ∃ n, e.flow.node? w.session.current = some n ∧
      p.walk.trail = w.trail ++ [e.stopAt w n] := by
  cases h with
  | lost _ => exact .inl rfl
  | @broken n _ hn _ => exact .inr ⟨n, hn, rfl⟩
  | @stays n _ hv _ => exact .inr ⟨n, hv.node, rfl⟩
  | @finishes n _ hv _ => exact .inr ⟨n, hv.node, rfl⟩
  | @strays n _ _ hv _ _ => exact .inr ⟨n, hv.node, rfl⟩
  | @parks n _ _ hv _ _ _ => exact .inr ⟨n, hv.node, rfl⟩
  | @moves n _ _ hv _ _ _ => exact .inr ⟨n, hv.node, rfl⟩

/-- After a step nobody sees the text of the contact. -/
theorem Steps.inbound_onward {v : Walk σ} (h : e.Steps w (.onward v)) : v.inbound = none := by
  cases h with
  | moves _ _ _ _ => rfl

/-- A step adds at most the stop at the current node to the trail. -/
theorem Steps.mem_trail (h : e.Steps w p) {stop : Stop} (hs : stop ∈ p.walk.trail) :
    stop ∈ w.trail ∨
      stop.context = e.context w ∧ e.flow.node? w.session.current = some stop.node := by
  rcases h.trail_eq with ht | ⟨n, hn, ht⟩
  · exact .inl (ht ▸ hs)
  · rw [ht] at hs
    rcases List.mem_append.1 hs with hs | hs
    · exact .inl hs
    · rw [List.mem_singleton.1 hs]
      exact .inr ⟨rfl, hn⟩

/-- A step that ends in waiting leaves the session waiting on a node of the flow. -/
theorem Steps.settled {v : Walk σ} (h : e.Steps w (.ended .awaiting v)) :
    v.session.awaiting = true ∧ (e.flow.node? v.session.current).isSome := by
  cases h with
  | stays hv _ => exact ⟨rfl, by rw [Walk.moved, hv.node]; rfl⟩
  | parks _ _ ht _ => exact ⟨rfl, ht⟩

/-- A step that leads on leads to a node of the flow. -/
theorem Steps.onward {v : Walk σ} (h : e.Steps w (.onward v)) :
    (e.flow.node? v.session.current).isSome := by
  cases h with
  | moves _ _ ht _ => exact ht

/-! ### Whole walks -/

/-- What every step keeps holds throughout a walk; what the last step, or the end of patience, makes
of it holds in the end. -/
theorem walkFrom_induct (inv : Walk σ → Prop) (post : WalkEnd → Walk σ → Prop)
    (onward : ∀ w v, inv w → e.Steps w (.onward v) → inv v)
    (ended : ∀ w how v, inv w → e.Steps w (.ended how v) → post how v)
    (cut : ∀ w, inv w → post (.failed (.defect (.tooManySteps e.settings.maxSteps))) w)
    (left : Nat) {w : Walk σ} (hw : inv w) :
    post (e.walkFrom left w).1 (e.walkFrom left w).2 := by
  induction left generalizing w with
  | zero => exact cut w hw
  | succ left ih =>
    have hs := e.steps_step w
    rw [walkFrom_succ]
    cases hp : e.step w with
    | ended how v => exact ended w how v hw (hp ▸ hs)
    | onward v => exact ih (onward w v hw (hp ▸ hs))

end Setting

/-- A session that has heard what its contact says. -/
def Session.hear (s : Session) (text : String) (now : Moment) : Session :=
  (s.say .contact text now).touch now

@[simp] theorem Session.key_hear (s : Session) (text : String) (now : Moment) :
    (s.hear text now).key = s.key := rfl

namespace Setting

variable {σ : Type}

/-- The walk on which a session hears a text. -/
def start (s : Session) (text : String) (world : σ) : Walk σ :=
  { session := s, inbound := if s.awaiting then some text else none, messages := [], steps := 0,
    trail := [], world }

/-- The walk of a whole turn: the session hears the text and then walks. -/
def turn (e : Setting σ) (s : Session) (text : String) (world : σ) : WalkEnd × Walk σ :=
  e.walk (s.hear text e.now) text world

theorem turn_eq (e : Setting σ) (s : Session) (text : String) (world : σ) :
    e.turn s text world = e.walkFrom e.settings.maxSteps (start (s.hear text e.now) text world) :=
  rfl

variable (e : Setting σ) (s : Session) (text : String) (world : σ)

/-- What holds of a turn from its start on, and is kept by each step however it goes, holds in the
end. -/
theorem turn_induct (inv : Walk σ → Prop) (keeps : ∀ w p, inv w → e.Steps w p → inv p.walk)
    (hw : inv (start (s.hear text e.now) text world)) : inv (e.turn s text world).2 := by
  rw [turn_eq]
  exact walkFrom_induct (e := e) inv (fun _ w => inv w) (fun w v hw hs => keeps w _ hw hs)
    (fun w how v hw hs => keeps w _ hw hs) (fun w hw => hw) _ hw

/-- A turn leaves the frame of its session as hearing the text has made it. -/
theorem frame_turn : (e.turn s text world).2.session.frame = (s.hear text e.now).frame :=
  e.turn_induct s text world (fun w => w.session.frame = (s.hear text e.now).frame)
    (fun _ _ hw hs => hs.frame.trans hw) rfl

/-- Each stop of a turn is made with the session of the turn, in its flow, at the node on which the
session then stands. -/
theorem stops_turn {stop : Stop} (h : stop ∈ (e.turn s text world).2.trail) :
    stop.context.flow = e.flow ∧ stop.context.session.frame = (s.hear text e.now).frame ∧
      e.flow.node? stop.context.session.current = some stop.node := by
  let inv : Walk σ → Prop := fun w =>
    w.session.frame = (s.hear text e.now).frame ∧ ∀ stop ∈ w.trail,
      stop.context.flow = e.flow ∧ stop.context.session.frame = (s.hear text e.now).frame ∧
        e.flow.node? stop.context.session.current = some stop.node
  have hinv : inv (e.turn s text world).2 := by
    refine e.turn_induct s text world inv (fun w p hw hs => ?_)
      ⟨rfl, fun _ hm => absurd hm List.not_mem_nil⟩
    refine ⟨hs.frame.trans hw.1, fun stop hm => ?_⟩
    rcases hs.mem_trail hm with hm | ⟨hc, hn⟩
    · exact hw.2 stop hm
    · rw [hc]
      exact ⟨rfl, hw.1, hn⟩
  exact hinv.2 stop h

/-- A turn that waits leaves its session waiting on a node of the flow. -/
theorem settled_turn (h : (e.turn s text world).1 = .awaiting) :
    (e.turn s text world).2.session.awaiting = true ∧
      (e.flow.node? (e.turn s text world).2.session.current).isSome := by
  rw [turn_eq] at h ⊢
  refine walkFrom_induct (e := e) (fun _ => True)
    (fun how w => how = .awaiting → w.session.awaiting = true ∧
      (e.flow.node? w.session.current).isSome)
    (fun _ _ _ _ => trivial) ?_ ?_ _ trivial h
  · intro w how v _ hs hh
    rw [hh] at hs
    exact hs.settled
  · intro w _ hh
    cases hh

end Setting

namespace Engine

variable {σ : Type}

/-- To go on with a conversation is to conclude its turn. -/
theorem converse_eq (e : Engine) (p : Partners σ) (world : σ) (f : Flow) (s : Session) (m : Inbound)
    (now : Moment) :
    e.converse p world f s m now =
      e.conclude f m (Setting.turn ⟨f, e.settings, e.handlers, p, now⟩ s m.text world) := rfl

end Engine

end Dialogue
