import Dialogue.Proofs.Session.Scope
import Dialogue.Proofs.Turn.Asked
import Dialogue.Proofs.Turn.Limit
import Dialogue.Proofs.Turn.Transcript

/-!
# What nodes still know of the text that started a turn

Nodes find the text of the contact in the history of the session, which is a window. Each message
that is said during the turn pushes the text towards the end of that window, and with as many
messages as the window is long it falls out.

* `Session.lastMessage?_of_recalls`: what the contact said last, as far as the window reaches.
* `Setting.Retraces`: each stop of a walk is made where the walk stood by then.
* `Engine.visible_handle`: what each node of a turn sees of the text.
-/

namespace Dialogue

namespace Session

/-- What the contact said last is the text of the turn, and is nothing once the window is full of
what followed it. -/
theorem lastMessage?_of_recalls {s : Session} {window : Nat} {before : List Utterance}
    {text : String} {said : List String} {now : Moment}
    (h : s.Recalls window (before ++ spoken text said now)) :
    s.lastMessage? = if said.length < window then some text else none := by
  let replies := said.map fun m => (Utterance.mk .bot m now)
  have hlength : replies.length = said.length := List.length_map _
  -- Nothing that the bot says counts as said by the contact.
  have hnone : ∀ us : List Utterance, us <:+ replies →
      us.reverse.find? (·.party == .contact) = none := by
    intro us hs
    refine List.find?_eq_none.2 fun u hu => ?_
    obtain ⟨m, -, rfl⟩ := List.mem_map.1 (hs.subset (List.mem_reverse.1 hu))
    simp
  rw [lastMessage?, h.history_eq,
    show before ++ spoken text said now = (before ++ [Utterance.mk .contact text now]) ++ replies by
      simp [spoken, replies]]
  split
  · rename_i hlt
    have hle : (before ++ ([Utterance.mk .contact text now] ++ replies)).length - window ≤
        before.length := by
      simp only [List.length_append, List.length_singleton, hlength]
      omega
    rw [lastOf, List.append_assoc, List.drop_append_of_le_length hle, List.reverse_append,
      List.reverse_append, List.find?_append, List.find?_append, hnone _ (List.suffix_refl _)]
    rfl
  · rename_i hge
    have hdrop : (before ++ [Utterance.mk .contact text now]).length ≤
        (before ++ [Utterance.mk .contact text now] ++ replies).length - window := by
      simp only [List.length_append, List.length_singleton, hlength]
      omega
    rw [lastOf, List.drop_append, List.drop_eq_nil_of_le hdrop, List.nil_append,
      hnone _ (List.drop_suffix _ _)]
    rfl

/-- The last message of the contact has a reserved name, which nothing hides. -/
theorem field?_last_message (s : Session) (constants : Fields Value) :
    (s.scope constants).field? "last_message" =
      some ((s.lastMessage?.map Value.text).getD .null) := by
  have hn : ((s.reserved constants).map (·.1)).Nodup := by
    show reservedNames.Nodup
    decide
  show Fields.get? (s.scopeFields constants) "last_message" = _
  rw [scopeFields, Fields.get?_merge hn]
  rfl

end Session

/-! ### Stops and the walks that lead to them -/

namespace Setting

variable {σ : Type} {e : Setting σ} {w v first : Walk σ} {k : Nat} {stop : Stop}

theorem onward?_concat (h : e.onward? k first = some w) (hs : e.step w = .onward v) :
    e.onward? (k + 1) first = some v := by
  induction k generalizing first with
  | zero =>
    cases h
    exact onward?_succ hs 0
  | succ k ih =>
    rw [onward?] at h ⊢
    cases hp : e.step first with
    | ended how u => rw [hp] at h; cases h
    | onward u => exact ih (by rwa [hp] at h)

/-- Each stop of a walk was made where the walk stood after as many steps as there are stops before
it. -/
def Retraces (e : Setting σ) (first w : Walk σ) : Prop :=
  ∀ k stop, w.trail[k]? = some stop →
    ∃ v, e.onward? k first = some v ∧ stop = e.stopAt v stop.node

/-- The stop of a step is made where the walk stands. -/
theorem Retraces.step (h : e.Retraces first w) (hw : e.onward? w.trail.length first = some w)
    {p : Progress σ} (hs : e.Steps w p) : e.Retraces first p.walk := by
  intro k stop hk
  rcases hs.trail_eq with ht | ⟨n, -, ht⟩
  · exact h k stop (ht ▸ hk)
  · rw [ht] at hk
    rcases Nat.lt_trichotomy k w.trail.length with hlt | rfl | hlt
    · exact h k stop (by rwa [List.getElem?_append_left hlt] at hk)
    · obtain rfl : e.stopAt w n = stop := by simpa using hk
      exact ⟨w, hw, rfl⟩
    · rw [List.getElem?_eq_none (by simp; omega)] at hk
      cases hk

theorem retraces_start (e : Setting σ) (s : Session) (text : String) (world : σ) :
    e.Retraces (start s text world) (start s text world) := fun k stop hk => by
  simp [start] at hk

/-- A walk that retraces its stops goes on to do so. -/
theorem Retraces.walkFrom (h : e.Retraces first w)
    (hw : e.onward? w.trail.length first = some w) (left : Nat) :
    e.Retraces first (e.walkFrom left w).2 := by
  induction left generalizing w with
  | zero => exact h
  | succ left ih =>
    have hs := e.steps_step w
    rw [walkFrom_succ]
    cases hp : e.step w with
    | ended how v =>
      rw [hp] at hs
      exact h.step hw hs
    | onward v =>
      rw [hp] at hs
      have hv := onward?_concat hw hp
      have hlength : v.trail.length = w.trail.length + 1 := by
        have := length_trail_onward? hw
        have := length_trail_onward? hv
        omega
      exact ih (h.step hw hs) (by rw [hlength]; exact hv)

/-- The session of a turn remembers the text and what was said since, at each step. -/
theorem recalls_onward? {s : Session} {text : String} {world : σ}
    (h : e.onward? k (start (s.hear text e.now) text world) = some w) :
    w.session.Recalls s.window (s.history ++ Session.spoken text w.messages e.now) := by
  suffices hall : ∀ v : Walk σ,
      v.session.Recalls s.window (s.history ++ Session.spoken text v.messages e.now) →
        e.onward? k v = some w →
        w.session.Recalls s.window (s.history ++ Session.spoken text w.messages e.now) from
    hall _ ⟨rfl, rfl⟩ h
  clear h
  induction k with
  | zero =>
    intro v hv h
    cases h
    exact hv
  | succ k ih =>
    intro v hv h
    rw [onward?] at h
    have hs := e.steps_step v
    cases hp : e.step v with
    | ended how u => rw [hp] at h; cases h
    | onward u =>
      rw [hp] at h hs
      obtain ⟨more, hm, hr⟩ := hs.said
      refine ih u ?_ h
      rw [show u.messages = v.messages ++ more from hm, Session.spoken_append, ← List.append_assoc]
      exact hr _ _ hv

end Setting

/-! ### What nodes see -/

namespace Model

variable {m : Model} {c : Context} {n : Node} {hs : Handlers}

/-- What an extractor or classifier asks: its instructions, and the text that it works on. -/
theorem messages_of_subject? (hh : hs .model = Handlers.usual .model) (hn : n.task = .model m)
    (hm : m.role ≠ .conversational) {r : ModelRequest}
    (hr : (hs.visit c n).request? = some (.ask r)) :
    ∃ prompt, r.messages = [.of .system prompt, .of .user ((subject? c).getD "")] := by
  rw [Handlers.visit_of_model hh hn, visit] at hr
  cases hrole : m.role with
  | conversational => exact absurd hrole hm
  | extractor =>
    rw [hrole] at hr
    dsimp only at hr
    split at hr
    · cases hr
    · split at hr
      · cases hr
      · rename_i text hs
        cases hr
        exact ⟨_, by rw [hs]; rfl⟩
  | classifier =>
    rw [hrole] at hr
    cases hr
    exact ⟨_, rfl⟩

end Model

/-- What is seen at a stop of the text of a turn, after some messages: the text under its name and as
what extractors and classifiers work on, as long as the window is longer than the messages are many,
and nothing afterwards. -/
structure Stop.Sees (stop : Stop) (handlers : Handlers) (window : Nat) (text : String)
    (said : List String) : Prop where
  last_message : stop.context.scope.field? "last_message" =
    some (if said.length < window then .text text else .null)
  subject : stop.context.inbound = none →
    Model.subject? stop.context = if said.length < window then some text else none
  asked : handlers .model = Handlers.usual .model → stop.context.inbound = none →
    ∀ m r, stop.node.task = .model m → m.role ≠ .conversational → stop.request = some (.ask r) →
      ∃ prompt, r.messages =
        [.of .system prompt, .of .user (if said.length < window then text else "")]

namespace Setting

variable {σ : Type} {e : Setting σ} {k : Nat}

theorem sees_stopAt {s : Session} {text : String} {world : σ} {w : Walk σ}
    (h : e.onward? k (start (s.hear text e.now) text world) = some w) (n : Node) :
    (e.stopAt w n).Sees e.handlers s.window text w.messages := by
  have hlast := Session.lastMessage?_of_recalls (recalls_onward? h)
  have hsubject : (e.stopAt w n).context.inbound = none →
      Model.subject? (e.stopAt w n).context =
        if w.messages.length < s.window then some text else none := by
    intro hi
    rw [Model.subject?, hi]
    exact hlast
  refine ⟨?_, hsubject, fun hh hi m r hn hm hr => ?_⟩
  · show (w.session.scope e.flow.constants).field? "last_message" = _
    rw [Session.field?_last_message, hlast]
    split <;> rfl
  · obtain ⟨prompt, hp⟩ := Model.messages_of_subject? hh hn hm hr
    refine ⟨prompt, ?_⟩
    rw [hp, show Model.subject? (e.context w) = _ from hsubject hi]
    split <;> rfl

end Setting

namespace Engine

variable {σ : Type} {e : Engine} {m : Inbound} {now : Moment} {id : String}

theorem trail_conclude (e : Engine) (f : Flow) (m : Inbound) (ended : WalkEnd × Walk σ) :
    (e.conclude f m ended).trail = ended.2.trail := by
  obtain ⟨how, w⟩ := ended
  cases how <;> rfl

/-- **A node sees the text that started the turn as long as fewer messages have been said since than
the window is long**, and afterwards sees nothing of it. The walk that led to the node holds what has
been said. -/
theorem visible_handle {f : Flow} {s : Session} (ho : e.opening? m now id = some (f, s))
    (p : Partners σ) (world : σ) {k : Nat} {stop : Stop}
    (hk : (e.handle p world m now id).trail[k]? = some stop) :
    ∃ w, (⟨f, e.settings, e.handlers, p, now⟩ : Setting σ).onward? k
        (Setting.start (s.hear m.text now) m.text world) = some w ∧
      stop.context = ⟨w.session, f, w.inbound, e.settings⟩ ∧
      stop.Sees e.handlers s.window m.text w.messages := by
  have ht := e.handles_handle p world m now id
  generalize e.handle p world m now id = t at ht hk
  cases ht with
  | abandons _ _ => cases hk
  | ignores _ => cases hk
  | @converses f' s' e' ho' he =>
    cases ho.symm.trans ho'
    have hsame : (⟨f, e'.settings, e'.handlers, p, now⟩ : Setting σ) =
        ⟨f, e.settings, e.handlers, p, now⟩ := by
      rcases he with rfl | rfl <;> rfl
    rw [converse_eq, hsame, trail_conclude, Setting.turn_eq] at hk
    obtain ⟨w, hw, hstop⟩ :=
      (Setting.retraces_start _ (s.hear m.text now) m.text world).walkFrom rfl _ k stop hk
    rw [hstop]
    exact ⟨w, hw, rfl, Setting.sees_stopAt hw stop.node⟩

end Engine

/-- A flow that asks for patience before a model sorts what the contact wants. -/
def Flow.patience : Flow :=
  { Flow.new "acme" "espera" "Espera" "espera" with
    triggers := ⟨[], 0, .always⟩
    nodes := [
      { Node.of "espera" (.message ⟨false⟩) with
        template := "Un momento", edges := [.toward "motivo"] },
      .of "motivo" (.model { Model.inRole .classifier with labels := ["queja", "compra"] })] }

/-- An engine with the flow that asks for patience and a window of so many utterances. -/
def Engine.patient (window : Nat) : Engine :=
  ((ofSettings { Settings.usual with window := window }).run .complaint () [.register .patience]).1

/-- The turn of a new contact with such an engine. -/
def Engine.patientTurn (window : Nat) : Turn Unit :=
  (patient window).handle .complaint () ⟨"acme", "555", "", "no funciona"⟩ ⟨0, 0⟩ "s"

/-- The texts that models are given to work on. -/
def Stop.given (stop : Stop) : List String :=
  match stop.request with
  | some (.ask r) => (r.messages.filter (·.speaker == Speaker.user.name)).map (·.content)
  | _ => []

namespace Engine

set_option maxRecDepth 10000 in
/-- With a window of two utterances the model still works on the text, after one message. -/
theorem visible_handle_of_patience :
    ∃ f s stop, (patient 2).opening? ⟨"acme", "555", "", "no funciona"⟩ ⟨0, 0⟩ "s" = some (f, s) ∧
      (patientTurn 2).trail[1]? = some stop ∧
      (patientTurn 2).trail.map (·.given) = [[], ["no funciona"]] ∧
      ∃ w, (⟨f, (patient 2).settings, (patient 2).handlers, .complaint, ⟨0, 0⟩⟩ :
          Setting Unit).onward? 1
          (Setting.start (s.hear "no funciona" ⟨0, 0⟩) "no funciona" ()) = some w ∧
        stop.context = ⟨w.session, f, w.inbound, (patient 2).settings⟩ ∧
        stop.Sees (patient 2).handlers s.window "no funciona" w.messages := by
  obtain ⟨⟨f, s⟩, ho⟩ := Option.isSome_iff_exists.1
    (show ((patient 2).opening? ⟨"acme", "555", "", "no funciona"⟩ ⟨0, 0⟩ "s").isSome = true by
      decide +kernel)
  obtain ⟨stop, hk⟩ := Option.isSome_iff_exists.1
    (show ((patientTurn 2).trail[1]?).isSome = true by decide +kernel)
  exact ⟨f, s, stop, ho, hk, by decide +kernel, visible_handle ho .complaint () hk⟩

set_option maxRecDepth 10000 in
/-- With a window of a single utterance the message has already pushed the text out of it, and the
model works on nothing. -/
theorem not_visible_of_patience :
    (patientTurn 1).reply.messages = ["Un momento"] ∧
      (patientTurn 1).trail.map (·.given) = [[], [""]] ∧
      ∃ stop ∈ (patientTurn 1).trail, stop.context.inbound = none ∧
        stop.context.scope.field? "last_message" ≠ some (.text "no funciona") ∧
        Model.subject? stop.context ≠ some "no funciona" := by
  have hn : (patientTurn 1).trail.any (fun stop => stop.context.inbound.isNone &&
      (stop.context.scope.field? "last_message" != some (.text "no funciona") &&
        Model.subject? stop.context != some "no funciona")) = true := by decide +kernel
  obtain ⟨stop, hs, h⟩ := List.any_eq_true.1 hn
  simp only [Bool.and_eq_true, Option.isNone_iff_eq_none, bne_iff_ne] at h
  exact ⟨by decide +kernel, by decide +kernel, stop, hs, h.1, h.2.1, h.2.2⟩

end Engine

end Dialogue
