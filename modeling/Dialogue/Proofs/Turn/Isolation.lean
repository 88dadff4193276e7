import Dialogue.Proofs.Node.Visits
import Dialogue.Proofs.Text.Joined
import Dialogue.Proofs.Turn.Run

/-!
# Whose session a turn touches

The sessions of all tenants stand under one text each: tenant, colon, contact. The names may hold
colons themselves, so that two contacts can have the same key; then each takes the session of the
other for its own.

* `Session.keyOf_eq_keyOf_iff`: two contacts have the same key exactly when they are the same or
  overlap.
* `Engine.isolated_iff`: the turns of a contact leave the session of another alone exactly when the
  two do not overlap.
-/

namespace Dialogue

namespace Session

/-- The names of one contact are those of another with the boundary between tenant and contact moved
to another colon. -/
def Overlap (tenant contact tenant' contact' : String) : Prop :=
  ∃ middle,
    tenant' = tenant ++ ":" ++ middle ∧ contact = middle ++ ":" ++ contact' ∨
      tenant = tenant' ++ ":" ++ middle ∧ contact' = middle ++ ":" ++ contact

variable {tenant contact tenant' contact' : String}

/-- Two contacts have the same key exactly when they are the same or overlap. -/
theorem keyOf_eq_keyOf_iff :
    keyOf tenant contact = keyOf tenant' contact' ↔
      (tenant = tenant' ∧ contact = contact') ∨ Overlap tenant contact tenant' contact' := by
  unfold keyOf
  exact Text.joined_eq_joined_iff (c := ':') rfl

/-- Only tenants with a colon in their names have contacts that overlap with others. -/
theorem Overlap.colon_mem (h : Overlap tenant contact tenant' contact') :
    ':' ∈ tenant.toList ∨ ':' ∈ tenant'.toList :=
  Text.Overlap.mem_left (c := ':') rfl h

end Session

/-! ### Turns that go the same way -/

/-- Two turns on a message that go the same way and leave the same session to its contact. -/
structure Turn.Alike {σ : Type} (m : Inbound) (t t' : Turn σ) : Prop where
  reply : t.reply = t'.reply
  world : t.world = t'.world
  steps : t.steps = t'.steps
  trail : t.trail = t'.trail
  session : t.engine.sessions.get? m.tenant m.contact = t'.engine.sessions.get? m.tenant m.contact

namespace Engine

variable {σ : Type}

/-- An engine with other sessions in its store. -/
def withStore (e : Engine) (store : SessionStore) : Engine :=
  { e with sessions := { e.sessions with store } }

theorem alike_conclude {e e' : Engine} {f : Flow} {m : Inbound}
    (hm : e.sessions.get? m.tenant m.contact = e'.sessions.get? m.tenant m.contact)
    (hs : e.settings = e'.settings) (ended : WalkEnd × Walk σ) :
    Turn.Alike m (e.conclude f m ended) (e'.conclude f m ended) := by
  obtain ⟨how, w⟩ := ended
  have hf : (e.forget m).sessions.get? m.tenant m.contact =
      (e'.forget m).sessions.get? m.tenant m.contact :=
    (e.get?_forget m).trans (e'.get?_forget m).symm
  cases how with
  | completed => exact ⟨rfl, rfl, rfl, rfl, hf⟩
  | failed fault => exact ⟨by rw [conclude, conclude, apology, apology, hs], rfl, rfl, rfl, hf⟩
  | awaiting =>
    refine ⟨rfl, rfl, rfl, rfl, ?_⟩
    show Fields.get? (e.sessions.save w.session).store _ =
      Fields.get? (e'.sessions.save w.session).store _
    by_cases hk : Session.keyOf m.tenant m.contact = w.session.key
    · rw [hk, Sessions.get?_save, Sessions.get?_save]
    · rw [Sessions.get?_save_of_ne _ hk, Sessions.get?_save_of_ne _ hk]
      exact hm

theorem alike_converse {e e' : Engine} {m : Inbound}
    (hm : e.sessions.get? m.tenant m.contact = e'.sessions.get? m.tenant m.contact)
    (hs : e.settings = e'.settings) (hh : e.handlers = e'.handlers) (p : Partners σ) (world : σ)
    (f : Flow) (s : Session) (now : Moment) :
    Turn.Alike m (e.converse p world f s m now) (e'.converse p world f s m now) := by
  rw [converse_eq, converse_eq, hs, hh]
  exact alike_conclude hm hs _

/-- A turn reads nothing of the store but what stands under the key of its own contact. -/
theorem alike_withStore {e : Engine} {store : SessionStore} {m : Inbound}
    (h : Fields.get? store (Session.keyOf m.tenant m.contact) = e.sessions.get? m.tenant m.contact)
    (p : Partners σ) (world : σ) (now : Moment) (id : String) :
    Turn.Alike m (e.handle p world m now id) ((e.withStore store).handle p world m now id) := by
  have hm : e.sessions.get? m.tenant m.contact =
      (e.withStore store).sessions.get? m.tenant m.contact := h.symm
  have hl : (e.withStore store).live? m now = e.live? m now := by
    unfold live? Sessions.get?
    rw [show Fields.get? (e.withStore store).sessions.store _ = _ from h]
    rfl
  have hf : (e.forget m).sessions.get? m.tenant m.contact =
      ((e.withStore store).forget m).sessions.get? m.tenant m.contact :=
    (e.get?_forget m).trans ((e.withStore store).get?_forget m).symm
  rw [handle_eq, handle_eq, hl, show (e.withStore store).registry = e.registry from rfl]
  cases e.live? m now with
  | some opened =>
    obtain ⟨f, s⟩ := opened
    dsimp only
    rw [show (e.withStore store).givesUp f m.text = e.givesUp f m.text from rfl]
    split
    · exact ⟨rfl, rfl, rfl, rfl, hf⟩
    · exact alike_converse hm rfl rfl p world f s now
  | none =>
    cases e.registry.select m.tenant m.text with
    | some f => exact alike_converse hf rfl rfl p world f (e.fresh m f now id) now
    | none => exact ⟨rfl, rfl, rfl, rfl, hf⟩

/-! ### Isolation -/

/-- A turn leaves the session of another contact alone: it does not change it, does not go on with
it and does not depend on it. -/
structure Spares (e : Engine) (p : Partners σ) (world : σ) (m : Inbound) (now : Moment)
    (id tenant contact : String) : Prop where
  kept : (e.handle p world m now id).engine.sessions.get? tenant contact =
    e.sessions.get? tenant contact
  loaded : ∀ later, ((e.handle p world m now id).engine.sessions.load tenant contact later).1 =
    (e.sessions.load tenant contact later).1
  notResumed : ∀ f s, e.opening? m now id = some (f, s) → ¬(s.tenant = tenant ∧ s.contact = contact)
  notVisited : ∀ stop ∈ (e.handle p world m now id).trail,
    ¬(stop.context.session.tenant = tenant ∧ stop.context.session.contact = contact)
  notRead : ∀ store : SessionStore, (∀ key, key ≠ Session.keyOf tenant contact →
      Fields.get? store key = Fields.get? e.sessions.store key) →
    Turn.Alike m (e.handle p world m now id) ((e.withStore store).handle p world m now id)

theorem load_eq_load {ss ss' : Sessions} {tenant contact : String}
    (h : ss.get? tenant contact = ss'.get? tenant contact) (now : Moment) :
    (ss.load tenant contact now).1 = (ss'.load tenant contact now).1 := by
  unfold Sessions.load
  rw [h]
  cases ss'.get? tenant contact with
  | none => rfl
  | some s => cases hx : s.expiry? now <;> simp [hx]

/-- A turn leaves the sessions under other keys alone. -/
theorem spares_of_ne {e : Engine} (he : e.sessions.Keyed) (p : Partners σ) (world : σ) {m : Inbound}
    (now : Moment) (id : String) {tenant contact : String}
    (hk : Session.keyOf m.tenant m.contact ≠ Session.keyOf tenant contact) :
    e.Spares p world m now id tenant contact := by
  have hkept : (e.handle p world m now id).engine.sessions.get? tenant contact =
      e.sessions.get? tenant contact := get?_handle_of_ne he p world (Ne.symm hk)
  have hown : ∀ {f s}, e.opening? m now id = some (f, s) →
      ¬(s.tenant = tenant ∧ s.contact = contact) := by
    rintro f s ho ⟨rfl, rfl⟩
    exact hk (key_of_opening? he ho).symm
  refine ⟨hkept, load_eq_load hkept, fun f s => hown, fun stop hm => ?_, fun store hs => ?_⟩
  · obtain ⟨f, s, ho, -, hf⟩ := stops_handle p world hm
    have ht : stop.context.session.tenant = s.tenant := congrArg Frame.tenant hf
    have hc : stop.context.session.contact = s.contact := congrArg Frame.contact hf
    rw [ht, hc]
    exact hown ho
  · exact alike_withStore (hs _ hk) p world now id

/-- No turn of one contact, in any run from a store without sessions, touches the session of
another. -/
def Isolated (tenant contact tenant' contact' : String) : Prop :=
  ∀ (σ : Type) (e : Engine) (p : Partners σ) (world : σ) (events : List Event) (m : Inbound)
    (now : Moment) (id : String), e.sessions.store = [] → m.tenant = tenant → m.contact = contact →
      (e.run p world events).1.Spares p (e.run p world events).2 m now id tenant' contact'

variable {tenant contact tenant' contact' : String}

/-- Contacts with different keys are isolated. -/
theorem isolated_of_ne (hk : Session.keyOf tenant contact ≠ Session.keyOf tenant' contact') :
    Isolated tenant contact tenant' contact' := by
  rintro σ e p world events m now id hs rfl rfl
  have he : e.sessions.Keyed := by
    intro entry hm
    rw [hs] at hm
    exact absurd hm List.not_mem_nil
  exact spares_of_ne (keyed_run he p world events) p _ now id hk

/-! ### Contacts with one key -/

/-- A session that comes to a question waits there. -/
theorem awaiting_turn_of_input {e : Setting σ} {s : Session} {n : Node} {q : Question}
    (hh : e.handlers = .usual) (hm : e.settings.maxSteps ≠ 0)
    (hn : e.flow.node? s.current = some n) (hq : n.task = .input q) (ha : s.awaiting = false)
    (text : String) (world : σ) : (e.turn s text world).1 = .awaiting := by
  obtain ⟨w, hw⟩ : ∃ w, w = Setting.start (s.hear text e.now) text world := ⟨_, rfl⟩
  have hi : (e.context w).inbound = none := by
    rw [hw]
    show (if s.awaiting then some text else none) = none
    rw [ha]
    rfl
  have hr : (e.result w n).1 = .ok (.wait (n.prompt (e.context w).scope)) := by
    rw [Setting.result, hh, Handlers.usual_visit, hq]
    show q.visit (e.context w) n = _
    rw [Question.visit, hi]
  obtain ⟨left, hl⟩ := Nat.exists_eq_succ_of_ne_zero hm
  have hc : e.flow.node? w.session.current = some n := by
    rw [hw]
    exact hn
  rw [Setting.turn_eq, hl, ← hw, Setting.walkFrom_succ]
  have hstay : ∀ {n' o}, e.Visits w n' o → o.next = .stay := by
    intro n' o hv
    cases hc.symm.trans hv.node
    cases hr.symm.trans hv.outcome
    exact Outcome.next_wait _
  have hs := e.steps_step w
  generalize e.step w = progress at hs ⊢
  cases hs with
  | lost hn' => cases hc.symm.trans hn'
  | broken hn' hf =>
    cases hc.symm.trans hn'
    cases hr.symm.trans hf
  | stays _ _ => rfl
  | parks _ _ _ _ => rfl
  | finishes hv ho =>
    rcases ho with ho | ⟨ho, -⟩ <;> cases (hstay hv).symm.trans ho
  | strays hv ho _ =>
    rcases ho with ho | ⟨ho, -⟩ <;> cases (hstay hv).symm.trans ho
  | moves hv ho _ _ =>
    rcases ho with ho | ⟨ho, -⟩ <;> cases (hstay hv).symm.trans ho

/-- The registry of a tenant whose only flow asks for a name. -/
def askNameOnly (tenant : String) : Registry :=
  [((Flow.askName tenant).key, (Flow.askName tenant).build)]

theorem offer_askName (tenant : String) :
    Registry.offer [] (.askName tenant) = askNameOnly tenant := by
  rw [Registry.offer, Registry.register_of_isValid (Flow.isValid_askName tenant)]
  rfl

theorem select_askNameOnly (tenant text : String) :
    (askNameOnly tenant).select tenant text = some (Flow.askName tenant).build := by
  have ht : ((Flow.askName tenant).build.tenant == tenant) = true := beq_self_eq_true tenant
  simp only [Registry.select, Registry.ofTenant, askNameOnly, List.map_cons, List.map_nil,
    List.filter_cons, ht, if_true, List.filter_nil, List.mergeSort_singleton]
  rfl

theorem select_askNameOnly_of_ne {tenant tenant' : String} (h : tenant' ≠ tenant) (text : String) :
    (askNameOnly tenant').select tenant text = none := by
  have ht : ((Flow.askName tenant').build.tenant == tenant) = false := beq_false_of_ne h
  simp only [Registry.select, Registry.ofTenant, askNameOnly, List.map_cons, List.map_nil,
    List.filter_cons, ht, Bool.false_eq_true, if_false, List.filter_nil, List.mergeSort_nil]
  rfl

theorem flow?_askNameOnly_of_ne {tenant tenant' : String} (h : tenant' ≠ tenant) :
    (askNameOnly tenant').flow? tenant "alta" = none := by
  have hk : Flow.keyOf tenant' "alta" ≠ Flow.keyOf tenant "alta" := by
    intro hk
    unfold Flow.keyOf at hk
    exact h (by simpa [String.append_assoc] using hk)
  have hf : (Flow.keyOf tenant' "alta" == Flow.keyOf tenant "alta") = false := beq_false_of_ne hk
  show ((askNameOnly tenant').find? fun entry => entry.1 == Flow.keyOf tenant "alta").map _ = none
  rw [askNameOnly, List.find?_cons_of_neg (by exact Bool.eq_false_iff.1 hf)]
  rfl

/-- An engine in which a contact was asked for a name. -/
def asking (tenant contact : String) : Engine :=
  ((ofSettings .usual).run .absent () [.register (.askName tenant),
    .message ⟨tenant, contact, "", ""⟩ ⟨0, 0⟩ "s"]).1

/-- The session that waits for the name is kept. -/
theorem asking_eq (tenant contact : String) :
    (asking tenant contact).registry = askNameOnly tenant ∧ ∃ s : Session,
      (asking tenant contact).sessions.get? tenant contact = some s ∧ s.flow = "alta" ∧
      s.isIdle ⟨0, 0⟩ = false := by
  let e : Engine := { ofSettings .usual with registry := askNameOnly tenant }
  let m : Inbound := ⟨tenant, contact, "", ""⟩
  let f := (Flow.askName tenant).build
  let s := e.fresh m f ⟨0, 0⟩ "s"
  let setting : Setting Unit := ⟨f, e.settings, e.handlers, .absent, ⟨0, 0⟩⟩
  have hrun : asking tenant contact = (e.handle .absent () m ⟨0, 0⟩ "s").engine := by
    show (Engine.handle { ofSettings .usual with registry := Registry.offer [] (.askName tenant) }
      .absent () m ⟨0, 0⟩ "s").engine = _
    rw [offer_askName]
  have hturn : (setting.turn s m.text ()).1 = .awaiting :=
    awaiting_turn_of_input rfl (show Settings.usual.maxSteps ≠ 0 by decide)
      (show f.node? "nombre" = some (.of "nombre" (.input (.named "nombre"))) from rfl) rfl rfl _ _
  have hframe := setting.frame_turn s m.text ()
  have hconverse : e.handle .absent () m ⟨0, 0⟩ "s" =
      (e.forget m).conclude f m (setting.turn s m.text ()) := by
    rw [handle_eq, show e.live? m ⟨0, 0⟩ = none from rfl]
    dsimp only
    rw [show e.registry.select m.tenant m.text = some f from select_askNameOnly tenant ""]
    rfl
  rw [hrun, hconverse, registry_conclude]
  -- From here on only the frame of the session counts, not what the walk has done.
  generalize setting.turn s m.text () = ended at hturn hframe ⊢
  obtain ⟨how, w⟩ := ended
  cases hturn
  have hk : w.session.key = Session.keyOf tenant contact := Session.key_eq_of_frame hframe
  refine ⟨rfl, w.session, get?_conclude (m := m) hk, congrArg Frame.flow hframe, ?_⟩
  have hd : w.session.deadline = (s.hear m.text ⟨0, 0⟩).deadline := congrArg Frame.deadline hframe
  rw [Session.isIdle, hd]
  -- The deadline does not depend on the names, so that it can be computed for any.
  exact (by decide +kernel :
    (((ofSettings .usual).fresh ⟨"", "", "", ""⟩ (Flow.askName "").build ⟨0, 0⟩ "s").hear ""
      ⟨0, 0⟩).isIdle ⟨0, 0⟩ = false)

/-- What was asked of one contact is forgotten when another contact with the same key speaks. -/
theorem get?_handle_asking (hk : Session.keyOf tenant contact = Session.keyOf tenant' contact')
    (ht : tenant' ≠ tenant) :
    let t := (asking tenant' contact').handle .absent () ⟨tenant, contact, "", ""⟩ ⟨0, 0⟩ "s"
    t.engine.sessions.get? tenant' contact' = none := by
  dsimp only
  obtain ⟨hr, s, hs, hf, hi⟩ := asking_eq tenant' contact'
  have hl : (asking tenant' contact').live? ⟨tenant, contact, "", ""⟩ ⟨0, 0⟩ = none := by
    have hs' : (asking tenant' contact').sessions.get? tenant contact = some s := by
      rw [Sessions.get?, hk]
      exact hs
    -- The session is found under the key, but the tenant of the message has no such flow.
    rw [live?, hs']
    dsimp only
    rw [if_neg (by simp [hi]), hr, hf, flow?_askNameOnly_of_ne ht]
    rfl
  rw [handle_eq, hl, hr, select_askNameOnly_of_ne ht]
  rw [Sessions.get?, ← hk]
  exact get?_forget _ ⟨tenant, contact, "", ""⟩

/-- A contact loses the session to any other contact with the same key. -/
theorem not_isolated (hk : Session.keyOf tenant contact = Session.keyOf tenant' contact')
    (ht : tenant' ≠ tenant) : ¬Isolated tenant contact tenant' contact' := by
  intro hi
  have hspares := hi Unit (ofSettings .usual) .absent ()
    [.register (.askName tenant'), .message ⟨tenant', contact', "", ""⟩ ⟨0, 0⟩ "s"]
    ⟨tenant, contact, "", ""⟩ ⟨0, 0⟩ "s" rfl rfl rfl
  have hkept : (asking tenant' contact').sessions.get? tenant' contact' = none :=
    hspares.kept.symm.trans (get?_handle_asking hk ht)
  obtain ⟨-, s, hs, -⟩ := asking_eq tenant' contact'
  cases hs.symm.trans hkept

/-- **The turns of a contact leave the session of another contact alone exactly when the two do not
overlap.** -/
theorem isolated_iff (h : (tenant, contact) ≠ (tenant', contact')) :
    Isolated tenant contact tenant' contact' ↔
      ¬Session.Overlap tenant contact tenant' contact' := by
  constructor
  · intro hi ho
    have hk : Session.keyOf tenant contact = Session.keyOf tenant' contact' :=
      Session.keyOf_eq_keyOf_iff.2 (.inr ho)
    refine not_isolated hk ?_ hi
    rintro rfl
    have hc : contact = contact' := by simpa [Session.keyOf] using hk
    exact h (by rw [hc])
  · intro ho
    refine isolated_of_ne fun hk => ?_
    rcases Session.keyOf_eq_keyOf_iff.1 hk with ⟨rfl, rfl⟩ | hk
    · exact h rfl
    · exact ho hk

/-- Contacts of one tenant whose name has no colon are isolated. -/
theorem isolated_iff_of_acme :
    ("acme", "555") ≠ ("acme", "5:55") ∧ Isolated "acme" "555" "acme" "5:55" := by
  have hne : ("acme", "555") ≠ ("acme", "5:55") := by decide
  refine ⟨hne, (isolated_iff hne).2 fun ho => ?_⟩
  rcases ho.colon_mem with h | h <;> exact absurd h (by decide)

/-- The key does not tell the contact `b:c` of `a` from the contact `c` of `a:b`. -/
theorem not_isolated_of_colon :
    ("a", "b:c") ≠ ("a:b", "c") ∧ ¬Isolated "a" "b:c" "a:b" "c" :=
  ⟨by decide, not_isolated (by decide) (by decide)⟩

end Engine

end Dialogue
