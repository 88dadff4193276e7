import Dialogue.Proofs.Turn.Attempts
import Dialogue.Proofs.Turn.Lawful

/-!
# Attempts over whole runs

A contact whose session waits at a node with an inquiry has the attempts that the inquiry allows: all
refused answers but the last one lead to another prompt, and with the last one the node is left. The
count is kept in the session; it grows with refused answers only, and is gone when the node is left.

* `Engine.Decides`: how the turn goes on an answer, when so many were refused before.
* `Engine.Refusals.parked`: refused answers are counted one by one, whatever else happens meanwhile.
* `Engine.Serves.tallied`: no stored count ever reaches the number of attempts.
* `Engine.boundsAttempts_run`: both of these, of every run and every visit to the node.
-/

namespace Dialogue

/-- Whether an event is about other contacts than one, and about other flows than that under a key. -/
def Event.Aside (tenant contact key : String) : Event → Prop
  | .message m _ _ => Session.keyOf m.tenant m.contact ≠ Session.keyOf tenant contact
  | .register f => f.key ≠ key
  | .remove owner id => Flow.keyOf owner id ≠ key
  | .sweep _ => True

namespace Engine

variable {σ : Type} {e : Engine} {p : Partners σ} {world : σ} {tenant contact : String} {f : Flow}
  {n : Node} {q : Inquiry} {s : Session} {count : Nat} {m : Inbound} {now : Moment} {id : String}

/-! ### Events about others -/

/-- An event about others leaves the session of a contact alone, unless a sweep removes it. -/
theorem get?_after_of_aside (he : e.Lawful) {key : String} {event : Event}
    (ha : event.Aside tenant contact key)
    (hs : (e.after p world event).1.sessions.get? tenant contact = some s) :
    e.sessions.get? tenant contact = some s := by
  cases event with
  | register g => exact hs
  | remove owner id => exact hs
  | message m now id => exact (get?_handle_of_ne he.keyed p world (Ne.symm ha)).symm.trans hs
  | sweep now =>
    have hs : Fields.get? (e.sessions.store.filter _) _ = some s := hs
    rw [he.sorted.get?_filter] at hs
    exact (Option.filter_eq_some_iff.1 hs).1

/-- An event about others leaves the flow under a key alone. -/
theorem get?_registry_after_of_aside {key : String} {event : Event}
    (ha : event.Aside tenant contact key) :
    Fields.get? (e.after p world event).1.registry key = Fields.get? e.registry key := by
  cases event with
  | sweep now => rfl
  | message m now id => rw [after, registry_handle]
  | remove owner id => exact Fields.get?_erase_of_ne (Ne.symm ha) e.registry
  | register g =>
    show Fields.get? (e.registry.offer g) key = _
    rw [Registry.offer_eq]
    split
    · exact Fields.get?_insert_of_ne (Ne.symm ha) g.build e.registry
    · rfl

/-! ### An answer -/

/-- The setting of a turn in a flow. -/
def setting (e : Engine) (f : Flow) (p : Partners σ) (now : Moment) : Setting σ :=
  ⟨f, e.settings, e.handlers, p, now⟩

/-- The session of a contact waits at a node of a flow, which has refused so many answers. -/
structure Parked (e : Engine) (tenant contact : String) (f : Flow) (n : Node) (count : Nat)
    (s : Session) : Prop where
  stored : e.sessions.get? tenant contact = some s
  flow : e.registry.flow? tenant s.flow = some f
  node : f.node? s.current = some n
  awaiting : s.awaiting = true
  refused : s.refused n.id = count

/-- How the turn goes on an answer of a contact whose session waits at a node that has refused so
many answers. With attempts left the node asks again. With the last attempt it is left for the
fallback, or else the turn fails and the session is over. An accepted answer is kept, and the turn
goes on from there. Once the node is left nothing is counted of it. -/
structure Decides (e : Engine) (p : Partners σ) (world : σ) (f : Flow) (n : Node) (q : Inquiry)
    (count : Nat) (s : Session) (m : Inbound) (now : Moment) (id : String) : Prop where
  again : q.refuses m.text = true → count + 1 < q.maxAttempts →
    (e.handle p world m now id).reply.ending = .awaiting ∧
    (e.handle p world m now id).reply.current = some n.id ∧
    ∃ t, (e.handle p world m now id).engine.Parked m.tenant m.contact f n (count + 1) t
  leaves : q.refuses m.text = true → count + 1 = q.maxAttempts →
    ∀ target, q.fallback = some target →
      e.handle p world m now id = e.conclude f m
        ((e.setting f p now).walkFrom (e.settings.maxSteps - 1)
          (((e.setting f p now).absorbed (Setting.start (s.hear m.text now) m.text world) n
            (.goto target)).moved target false))
  fails : q.refuses m.text = true → count + 1 = q.maxAttempts → q.fallback = none →
    (e.handle p world m now id).reply.ending = .failed (NodeFault.exhausted n.id).message ∧
    (e.handle p world m now id).engine.sessions.get? m.tenant m.contact = none
  accepts : ∀ value, q.judge m.text = .ok value → ∃ ended,
    e.handle p world m now id = e.conclude f m ended ∧
    ((e.setting f p now).absorbed (Setting.start (s.hear m.text now) m.text world) n
      (q.accepted value)).session.Keeps n.id q value ∧
    (e.setting f p now).GoesOn (Setting.start (s.hear m.text now) m.text world) n
      (q.accepted value) (e.settings.maxSteps - 1) ended ∧
    ended.2.session.get? q.name (.node n.id) = some value
  cleared : q.refuses m.text = false ∨ count + 1 = q.maxAttempts →
    ∀ t, (e.handle p world m now id).engine.sessions.get? m.tenant m.contact = some t →
      t.refused n.id = 0

namespace Parked

theorem hears (h : e.Parked tenant contact f n count s) (he : e.Lawful)
    (hq : n.inquiry? = some q) (p : Partners σ) (now : Moment) :
    (e.setting f p now).Hears s n q where
  usual := he.usual
  built := he.built.of_flow? h.flow
  checked := Flow.checked_of_isValid (he.flows.isValid_of_flow? h.flow)
  node := h.node
  inquiry := hq
  awaiting := h.awaiting
  steps := by
    refine Nat.pos_of_ne_zero fun hmax => ?_
    have hs := h.stored
    rw [Sessions.get?, he.impatient hmax] at hs
    cases hs

theorem live? (h : e.Parked m.tenant m.contact f n count s) (hi : s.isIdle now = false) :
    e.live? m now = some (f, s) := by
  unfold Engine.live?
  rw [h.stored]
  dsimp only
  rw [hi, if_neg Bool.false_ne_true, h.flow]
  rfl

/-- An answer in time leads to a turn from the node. -/
theorem handle_eq (h : e.Parked m.tenant m.contact f n count s) (hi : s.isIdle now = false)
    (hg : e.givesUp f m.text = false) (p : Partners σ) (world : σ) (id : String) :
    e.handle p world m now id =
      e.conclude f m ((e.setting f p now).turn s m.text world) := by
  rw [Engine.handle_eq, h.live? hi]
  dsimp only
  rw [hg, if_neg Bool.false_ne_true]
  exact e.converse_eq p world f s m now

/-- With attempts left, a refused answer leaves the session waiting where it is. -/
theorem again (h : e.Parked m.tenant m.contact f n count s) (he : e.Lawful)
    (hq : n.inquiry? = some q) (hi : s.isIdle now = false) (hg : e.givesUp f m.text = false)
    (hr : q.refuses m.text = true) (hlt : count + 1 < q.maxAttempts) :
    (e.handle p world m now id).reply.ending = .awaiting ∧
      (e.handle p world m now id).reply.current = some n.id ∧
      ∃ t, (e.handle p world m now id).engine.Parked m.tenant m.contact f n (count + 1) t := by
  have hh := h.hears he hq p now
  obtain ⟨w, hturn, hcurrent, hawaiting, hrefused⟩ := Setting.turn_of_lt hh hr
    (by rw [h.refused]; omega) world
  have hframe := (e.setting f p now).frame_turn s m.text world
  rw [h.handle_eq hi hg]
  rw [hturn] at hframe ⊢
  have hkey : w.session.key = Session.keyOf m.tenant m.contact := by
    rw [Session.key_eq_of_frame hframe, Session.key_hear, he.keyed.key_eq h.stored]
  have hflow : w.session.flow = s.flow := congrArg Frame.flow hframe
  refine ⟨rfl, congrArg some hcurrent, w.session, get?_conclude hkey, ?_, ?_, hawaiting, ?_⟩
  · rw [registry_conclude, hflow]
    exact h.flow
  · rw [hcurrent]
    exact hh.node?_id
  · rw [hrefused, h.refused]

end Parked

/-- What is stored after a turn counts one more refused answer of the node where the session has
waited, or nothing; and what counts below the number of attempts goes on to do so. -/
theorem Lawful.tallied (he : e.Lawful) (hf : Fields.get? e.registry f.key = some f)
    (hn : f.node? n.id = some n) (hq : n.inquiry? = some q)
    (hs : ∀ s, e.sessions.get? m.tenant m.contact = some s → Flow.keyOf m.tenant s.flow = f.key →
      s.Tallies n.id (max q.maxAttempts 1)) {t : Session}
    (ht : (e.handle p world m now id).engine.sessions.get? m.tenant m.contact = some t)
    (hk : Flow.keyOf m.tenant t.flow = f.key) :
    t.Tallies n.id (max q.maxAttempts 1) ∧ (t.refused n.id = 0 ∨ ∃ s count,
      e.Parked m.tenant m.contact f n count s ∧ q.refuses m.text = true ∧
        count + 1 < max q.maxAttempts 1 ∧ t.refused n.id = count + 1) := by
  obtain ⟨g, s, ho, hw, rfl⟩ := exists_of_get?_handle he.keyed ht
  have hflow : _ = s.flow := congrArg Frame.flow
    (Setting.frame_turn ⟨g, e.settings, e.handlers, p, now⟩ s m.text world)
  have hk : Flow.keyOf m.tenant s.flow = f.key := by
    rw [← hk]
    exact congrArg _ hflow.symm
  -- A session that has just begun counts nothing, one that was stored counts what it did.
  have hopen : e.registry.flow? m.tenant s.flow = some g ∧ s.Tallies n.id (max q.maxAttempts 1) ∧
      (s.awaiting = true → e.sessions.get? m.tenant m.contact = some s) := by
    rcases opening?_eq_some ho with hl | ⟨hsel, rfl⟩
    · obtain ⟨hstored, -, hg⟩ := live?_eq_some hl
      exact ⟨hg, hs s hstored hk, fun _ => hstored⟩
    · exact ⟨he.flows.flow?_of_select hsel, Session.tallies_of_refused (by omega) rfl,
        fun ha => absurd ha Bool.false_ne_true⟩
  obtain ⟨hg, htallies, hstored⟩ := hopen
  obtain rfl : g = f := by
    rw [Registry.flow?, hk, hf] at hg
    exact (Option.some.inj hg).symm
  have hp : Setting.Proper (⟨g, e.settings, e.handlers, p, now⟩ : Setting σ) :=
    ⟨he.usual, he.built.of_flow? hg, Flow.checked_of_isValid (he.flows.isValid_of_flow? hg)⟩
  refine ⟨Setting.tallies_turn hp hn hq htallies hw, ?_⟩
  rcases Setting.counts_or_rests hp hn hq htallies.here hw with hc | hzero
  · exact .inr ⟨s, s.refused n.id,
      ⟨hstored hc.hears.awaiting, hg, hc.hears.node, hc.hears.awaiting, rfl⟩, hc.refuses, hc.lt,
      hc.refused⟩
  · exact .inl hzero

/-- An answer in time, by which a contact does not give up, is decided on. -/
theorem Parked.decides (h : e.Parked m.tenant m.contact f n count s) (he : e.Lawful)
    (hq : n.inquiry? = some q) (hi : s.isIdle now = false) (hg : e.givesUp f m.text = false) :
    e.Decides p world f n q count s m now id := by
  have hh := h.hears he hq p now
  have hle : count + 1 = q.maxAttempts → max q.maxAttempts 1 ≤ s.refused n.id + 1 := fun hlast => by
    rw [h.refused]
    omega
  refine ⟨fun hr hlt => h.again he hq hi hg hr hlt, fun hr hlast target hf => ?_,
    fun hr hlast hf => ?_, fun value hv => ?_, fun hexit t ht => ?_⟩
  · rw [h.handle_eq hi hg, Setting.turn_of_fallback hh hr (hle hlast) hf]
    rfl
  · have hturn := Setting.turn_of_exhausted hh hr (hle hlast) hf world
    rw [h.handle_eq hi hg]
    generalize (e.setting f p now).turn s m.text world = ended at hturn ⊢
    obtain ⟨how, w⟩ := ended
    obtain rfl : how = .failed (.exhausted n.id) := hturn
    exact ⟨rfl, e.get?_forget m⟩
  · have hgoes := Setting.turn_of_accepted hh hv world
    have hrests := hgoes.rests hh (Setting.rests_absorbed _ _ n (q.refused_accepted value))
    refine ⟨_, h.handle_eq hi hg p world id, Session.keeps_apply _ n.id q value now, hgoes, ?_⟩
    rw [Session.get?_node, hrests.record, q.outputs_accepted]
    exact Fields.get?_insert_self _ _ _
  · obtain ⟨g, u, ho, hw, rfl⟩ := exists_of_get?_handle he.keyed ht
    rw [opening?, h.live? hi] at ho
    cases ho
    rcases Setting.Hears.counts_or_rests hh hw with hc | hzero
    · have hlt := hc.lt
      rw [h.refused] at hlt
      rcases hexit with hr | hlast
      · cases hr.symm.trans hc.refuses
      · omega
    · exact hzero

/-! ### Runs -/

/-- The engines that come of one while a contact has so many answers refused: each in time, and none
by which the contact gives up. Meanwhile anything may happen to others. -/
inductive Refusals (p : Partners σ) (tenant contact : String) (f : Flow) (q : Inquiry) (e : Engine)
    (world : σ) : Nat → Engine → σ → Prop
  | none : Refusals p tenant contact f q e world 0 e world
  | aside {count : Nat} {e' : Engine} {world' : σ}
    (h : Refusals p tenant contact f q e world count e' world') {event : Event}
    (ha : event.Aside tenant contact f.key)
    (hs : ((e'.after p world' event).1.sessions.get? tenant contact).isSome) :
    Refusals p tenant contact f q e world count (e'.after p world' event).1
      (e'.after p world' event).2
  | refused {count : Nat} {e' : Engine} {world' : σ}
    (h : Refusals p tenant contact f q e world count e' world') {m : Inbound} {now : Moment}
    {id : String} (hm : m.tenant = tenant ∧ m.contact = contact)
    (hi : ∀ s, e'.sessions.get? tenant contact = some s → s.isIdle now = false)
    (hg : e'.givesUp f m.text = false) (hr : q.refuses m.text = true) :
    Refusals p tenant contact f q e world (count + 1) (e'.after p world' (.message m now id)).1
      (e'.after p world' (.message m now id)).2

/-- The engines that come of one while it handles whatever a contact says, and anything happens to
others, as long as the flow under a key stays. -/
inductive Serves (p : Partners σ) (tenant contact key : String) (e : Engine) (world : σ) :
    Engine → σ → Prop
  | none : Serves p tenant contact key e world e world
  | aside {e' : Engine} {world' : σ} (h : Serves p tenant contact key e world e' world')
    {event : Event} (ha : event.Aside tenant contact key) :
    Serves p tenant contact key e world (e'.after p world' event).1 (e'.after p world' event).2
  | message {e' : Engine} {world' : σ} (h : Serves p tenant contact key e world e' world')
    {m : Inbound} {now : Moment} {id : String} (hm : m.tenant = tenant ∧ m.contact = contact) :
    Serves p tenant contact key e world (e'.after p world' (.message m now id)).1
      (e'.after p world' (.message m now id)).2

/-- An event about others leaves a session waiting that it does not remove. -/
theorem Parked.aside (h : e.Parked tenant contact f n count s) (he : e.Lawful) {event : Event}
    (ha : event.Aside tenant contact f.key)
    (hs : ((e.after p world event).1.sessions.get? tenant contact).isSome) :
    (e.after p world event).1.Parked tenant contact f n count s := by
  obtain ⟨t, ht⟩ := Option.isSome_iff_exists.1 hs
  obtain rfl : t = s := Option.some.inj ((get?_after_of_aside he ha ht).symm.trans h.stored)
  refine ⟨ht, ?_, h.node, h.awaiting, h.refused⟩
  rw [Registry.flow?, ← he.flows.key_of_flow? h.flow, get?_registry_after_of_aside ha,
    he.flows.key_of_flow? h.flow]
  exact h.flow

/-- **Refused answers are counted one by one**, and as long as attempts remain the session waits
where it is. -/
theorem Refusals.parked (he : e.Lawful) (hs : e.Parked tenant contact f n 0 s)
    (hq : n.inquiry? = some q) {e' : Engine} {world' : σ}
    (h : e.Refusals p tenant contact f q world count e' world') :
    e'.Lawful ∧ (count < q.maxAttempts → ∃ t, e'.Parked tenant contact f n count t) := by
  induction h with
  | none => exact ⟨he, fun _ => ⟨s, hs⟩⟩
  | aside h ha hstored ih =>
    obtain ⟨he', hp⟩ := ih
    refine ⟨he'.after _ _ _, fun hlt => ?_⟩
    obtain ⟨t, ht⟩ := hp hlt
    exact ⟨t, ht.aside he' ha hstored⟩
  | refused h hm hi hg hr ih =>
    obtain ⟨he', hp⟩ := ih
    obtain ⟨rfl, rfl⟩ := hm
    -- There are attempts left after this answer, so there were some before it.
    refine ⟨he'.after _ _ _, fun hlt => ?_⟩
    obtain ⟨t, ht⟩ := hp (by omega)
    exact (ht.again he' hq (hi t ht.stored) hg hr hlt).2.2

/-- What is known of an engine while the flow under a key stays. -/
structure Tallied (e : Engine) (tenant contact : String) (f : Flow) (n : Node) (q : Inquiry) :
    Prop extends e.Lawful where
  flow : Fields.get? e.registry f.key = some f
  tallies : ∀ s, e.sessions.get? tenant contact = some s → Flow.keyOf tenant s.flow = f.key →
    s.Tallies n.id (max q.maxAttempts 1)

/-- **No stored count ever reaches the number of attempts.** -/
theorem Serves.tallied (hn : f.node? n.id = some n) (hq : n.inquiry? = some q)
    (he : e.Tallied tenant contact f n q) {e' : Engine} {world' : σ}
    (h : e.Serves p tenant contact f.key world e' world') : e'.Tallied tenant contact f n q := by
  induction h with
  | none => exact he
  | aside h ha ih =>
    refine ⟨ih.toLawful.after _ _ _, ?_, fun s hs => ?_⟩
    · rw [get?_registry_after_of_aside ha]
      exact ih.flow
    · exact ih.tallies s (get?_after_of_aside ih.toLawful ha hs)
  | message h hm ih =>
    obtain ⟨rfl, rfl⟩ := hm
    refine ⟨ih.toLawful.after _ _ _, ?_, fun s hs hk => ?_⟩
    · rw [after, registry_handle]
      exact ih.flow
    · exact (ih.toLawful.tallied ih.flow hn hq ih.tallies hs hk).1

/-! ### Attempts -/

/-- The attempts of a contact at a node, in all that comes of an engine. Whenever the session waits
at the node and has no answer refused, it has the attempts that the inquiry allows, and each answer
is decided on as its number demands. No stored count reaches the number of attempts, some is stored
only while the session waits at the node, and it grows only with an answer that is refused there. -/
structure BoundsAttempts (e : Engine) (p : Partners σ) (tenant contact : String) (f : Flow)
    (n : Node) (q : Inquiry) : Prop where
  allowed : 1 ≤ q.maxAttempts
  attempts : ∀ world e₁ world₁ s, e.Serves p tenant contact f.key world e₁ world₁ →
    e₁.Parked tenant contact f n 0 s → ∀ count e₂ world₂,
      e₁.Refusals p tenant contact f q world₁ count e₂ world₂ → count < q.maxAttempts →
        ∃ t, e₂.Parked tenant contact f n count t ∧
          ∀ m now id, m.tenant = tenant ∧ m.contact = contact → t.isIdle now = false →
            e₂.givesUp f m.text = false → e₂.Decides p world₂ f n q count t m now id
  stored : ∀ world e₁ world₁, e.Serves p tenant contact f.key world e₁ world₁ →
    ∀ t, e₁.sessions.get? tenant contact = some t → e₁.registry.flow? tenant t.flow = some f →
      t.Tallies n.id (max q.maxAttempts 1)
  counted : ∀ world e₁ world₁, e.Serves p tenant contact f.key world e₁ world₁ →
    ∀ m now id, m.tenant = tenant ∧ m.contact = contact →
      ∀ t, (e₁.handle p world₁ m now id).engine.sessions.get? tenant contact = some t →
        e₁.registry.flow? tenant t.flow = some f →
          t.refused n.id = 0 ∨ ∃ s count, e₁.Parked tenant contact f n count s ∧
            q.refuses m.text = true ∧ t.refused n.id = count + 1

/-- **Whenever the session of a contact waits at a node that asks for an answer, with none refused
yet, the contact has the attempts that the node allows, now and at every later visit.** -/
theorem boundsAttempts_run (settings : Settings) (p : Partners σ) (world : σ) (events : List Event)
    (hs : ((ofSettings settings).run p world events).1.Parked tenant contact f n 0 s)
    (hq : n.inquiry? = some q) :
    ((ofSettings settings).run p world events).1.BoundsAttempts p tenant contact f n q := by
  have he := (lawful_ofSettings settings).run p world events
  generalize ((ofSettings settings).run p world events).1 = e at he hs ⊢
  have hh := hs.hears he hq p default
  have hkey := he.flows.key_of_flow? hs.flow
  have htallied : e.Tallied tenant contact f n q := by
    refine ⟨he, ?_, fun t ht _ => ?_⟩
    · rw [hkey]
      exact hs.flow
    · obtain rfl : t = s := Option.some.inj (ht.symm.trans hs.stored)
      exact Session.tallies_of_refused (by omega) hs.refused
  refine ⟨Flow.one_le_maxAttempts (he.flows.isValid_of_flow? hs.flow)
    (Flow.mem_of_node? hs.node) hq, ?_, ?_, ?_⟩
  · -- A later visit begins like this one: what is known of the engine is all that is needed.
    intro world e₁ world₁ s₁ h₁ hs₁ count e₂ world₂ h₂ hlt
    have he₁ := (h₁.tallied hh.node?_id hq htallied).toLawful
    obtain ⟨he₂, hp⟩ := h₂.parked he₁ hs₁ hq
    obtain ⟨t, ht⟩ := hp hlt
    refine ⟨t, ht, ?_⟩
    rintro m now id ⟨rfl, rfl⟩ hi hg
    exact ht.decides he₂ hq hi hg
  · intro world e₁ world₁ h₁ t ht hflow
    have he₁ := h₁.tallied hh.node?_id hq htallied
    exact he₁.tallies t ht (he₁.flows.key_of_flow? hflow).symm
  · rintro world e₁ world₁ h₁ m now id ⟨rfl, rfl⟩ t ht hflow
    have he₁ := h₁.tallied hh.node?_id hq htallied
    rcases (he₁.toLawful.tallied he₁.flow hh.node?_id hq he₁.tallies ht
      (he₁.flows.key_of_flow? hflow).symm).2 with hzero | ⟨s, count, hp, hr, -, hcount⟩
    · exact .inl hzero
    · exact .inr ⟨s, count, hp, hr, hcount⟩

end Engine

/-- A question for an age that allows two attempts, and leads to another question after that. -/
def Node.askAge : Node :=
  .of "edad" (.input { Question.named "edad" with
    answerType := .number, maxAttempts := 2, fallback := some "ayuda" })

/-- A flow that asks for an age. -/
def Flow.askAge : Flow :=
  { Flow.new "acme" "censo" "Censo" "edad" with
    triggers := ⟨[], 0, .always⟩
    nodes := [.askAge, .of "ayuda" (.input (.named "consulta"))] }

/-- The session of a contact who was asked for an age. -/
def Session.askedAge : Session :=
  (Setting.turn ⟨Flow.askAge.build, .usual, .usual, .absent, ⟨0, 0⟩⟩
    (.start "s" "acme" "555" Flow.askAge.build 20 Settings.usual.idle ⟨0, 0⟩) "hola" ()).2.session

set_option maxRecDepth 10000 in
/-- A contact who is asked for an age has two attempts. -/
theorem Engine.boundsAttempts_run_of_askAge :
    let e := ((Engine.ofSettings .usual).run .absent ()
      [.register .askAge, .message ⟨"acme", "555", "", "hola"⟩ ⟨0, 0⟩ "s"]).1
    e.Parked "acme" "555" Flow.askAge.build .askAge 0 .askedAge ∧
      ∃ q, Node.askAge.inquiry? = some q ∧ q.maxAttempts = 2 ∧ q.fallback = some "ayuda" ∧
        q.refuses "muchos" = true ∧ q.refuses "30" = false ∧
        e.BoundsAttempts .absent "acme" "555" Flow.askAge.build .askAge q := by
  intro e
  have hs : e.Parked "acme" "555" Flow.askAge.build .askAge 0 .askedAge :=
    ⟨by decide +kernel, by decide +kernel, by decide +kernel, by decide +kernel,
      by decide +kernel⟩
  exact ⟨hs, _, rfl, rfl, rfl, by decide +kernel, by decide +kernel,
    Engine.boundsAttempts_run .usual .absent () _ hs rfl⟩

set_option maxRecDepth 10000 in
/-- After two answers without a number the contact is asked something else. -/
example :
    let say text seconds : Event := .message ⟨"acme", "555", "", text⟩ ⟨seconds, 0⟩ "s"
    let e := ((Engine.ofSettings .usual).run .absent ()
      [.register .askAge, say "hola" 0, say "muchos" 60, say "bastantes" 120]).1
    (e.sessions.get? "acme" "555").map (fun s => (s.current, s.refused "edad")) =
      some ("ayuda", 0) := by
  decide +kernel

end Dialogue
