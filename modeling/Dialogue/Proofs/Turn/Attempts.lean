import Dialogue.Proofs.Node.Inquiry
import Dialogue.Proofs.Session.Scope
import Dialogue.Proofs.Turn.Faults

/-!
# Answers in a turn

A session that waits at a node with an inquiry has its answer judged by the first step of its turn.
Every later step, and every step elsewhere, leaves the node alone: without an answer it only asks.

* `Session.refused_apply`, `Session.record_apply`: what a visit does to counts and records.
* `Setting.rests_walkFrom`: a walk without an answer keeps the record of a node, and counts nothing.
* `Setting.turn_of_accepted`, `Setting.turn_of_lt`, `Setting.turn_of_fallback`,
  `Setting.turn_of_exhausted`: how a turn goes in which an answer is judged.
* `Setting.counts_or_rests`: a turn counts one more refused answer of a node, or nothing at all.
-/

namespace Dialogue

/-! ### What a visit leaves in a session -/

namespace Session

variable (s : Session)

/-- What is said changes what is remembered and nothing else. -/
theorem exists_foldl_say (messages : List String) (now : Moment) :
    ∃ history, messages.foldl (fun s m => s.say .bot m now) s = { s with history } := by
  induction messages generalizing s with
  | nil => exact ⟨s.history, rfl⟩
  | cons m messages ih => exact ih (s.say .bot m now)

theorem refused_setRefused (node : String) (count : Option Nat) (id : String) :
    (s.setRefused node count).refused id = if id = node then count.getD 0 else s.refused id := by
  by_cases hid : id = node
  · subst hid
    cases count <;> simp [setRefused, refused]
  · rw [if_neg hid]
    cases count with
    | none => simp only [setRefused, refused, Fields.get?_erase_of_ne hid]
    | some k => simp only [setRefused, refused, Fields.get?_insert_of_ne hid]

/-- A visit adds what a node has produced and sets its count; what is said is only remembered. -/
theorem exists_apply_eq (node : String) (o : Outcome) (now : Moment) :
    ∃ history, s.apply node o now =
      { (if o.outputs.isEmpty then s else s.merge node o.outputs o.exports).setRefused node
          o.refused with history } :=
  exists_foldl_say _ o.messages now

/-- A visit sets the count of refused answers of its own node. -/
theorem refused_apply (node : String) (o : Outcome) (now : Moment) (id : String) :
    (s.apply node o now).refused id = if id = node then o.refused.getD 0 else s.refused id := by
  obtain ⟨history, h⟩ := s.exists_apply_eq node o now
  have hmerge : (if o.outputs.isEmpty then s else s.merge node o.outputs o.exports).refused id =
      s.refused id := by
    split <;> rfl
  rw [h, ← hmerge]
  exact refused_setRefused _ node o.refused id

/-- A visit adds to the record of its own node. -/
theorem record_apply (node : String) (o : Outcome) (now : Moment) (id : String) :
    (s.apply node o now).record id =
      if id = node then Fields.merge (s.record node) o.outputs else s.record id := by
  obtain ⟨history, h⟩ := s.exists_apply_eq node o now
  have hset : ∀ t : Session, (t.setRefused node o.refused).record id = t.record id := fun t => by
    cases o.refused <;> rfl
  rw [h]
  refine (hset _).trans ?_
  cases ho : o.outputs with
  | cons value values => exact s.record_merge node (value :: values) o.exports id
  | nil =>
    by_cases hid : id = node
    · rw [if_pos hid, hid]
      rfl
    · rw [if_neg hid]
      rfl

/-- A visit adds what it exports to the values of all nodes. -/
theorem globals_apply (node : String) (o : Outcome) (now : Moment) (h : o.outputs ≠ []) :
    (s.apply node o now).globals = exported o.outputs o.exports s.globals := by
  obtain ⟨history, hs⟩ := s.exists_apply_eq node o now
  rw [hs, if_neg (by simpa using h)]
  cases o.refused <;> rfl

/-- What a session holds of a node at which no answer has been refused. -/
structure Rests (id : String) (record : Fields Value) (s : Session) : Prop where
  refused : s.refused id = 0
  record : s.record id = record

/-- A value is kept under a name by a node, and for all nodes if it is for all of them. A value for
all nodes is not kept when it is null. -/
structure Keeps (s : Session) (id : String) (q : Inquiry) (value : Value) : Prop where
  node : s.get? q.name (.node id) = some value
  shared : q.isGlobal = true → value ≠ .null → s.get? q.name .shared = some value

/-- An accepted answer is kept. -/
theorem keeps_apply (id : String) (q : Inquiry) (value : Value) (now : Moment) :
    (s.apply id (q.accepted value) now).Keeps id q value := by
  have hout : (q.accepted value).outputs = [(q.name, value)] := q.outputs_accepted value
  refine ⟨?_, fun hg hv => ?_⟩
  · rw [get?_node, record_apply, if_pos rfl, hout]
    exact Fields.get?_insert_self q.name value (s.record id)
  · show Fields.get? (s.apply id (q.accepted value) now).globals q.name = some value
    rw [globals_apply s id _ now (by rw [hout]; exact List.cons_ne_nil _ _), hout,
      q.exports_accepted, if_pos hg]
    unfold exported
    rw [List.foldl_cons, List.foldl_nil, Fields.get?_cons, if_pos rfl]
    cases value with
    | null => exact absurd rfl hv
    | _ => exact Fields.get?_insert_self _ _ _

end Session

namespace Setting

variable {σ : Type} {e : Setting σ} {w : Walk σ} {n : Node} {q : Inquiry}

/-- A flow that was built and checked is walked with the usual handlers. -/
structure Proper (e : Setting σ) : Prop where
  usual : e.handlers = .usual
  built : e.flow.build = e.flow
  checked : e.flow.Checked

/-- What comes of visiting a node with an inquiry. -/
theorem result_of_inquiry (hh : e.handlers = .usual) (hq : n.inquiry? = some q) (w : Walk σ) :
    e.result w n = (q.visit (e.context w) n, w.world) := by
  rw [result, hh, Handlers.usual_visit_inquiry hq, Visit.run_done]

/-! ### Without an answer -/

/-- A visit without an answer to a node with an inquiry keeps its record and counts nothing; a visit
to another node does not touch either. -/
theorem Visits.rests (he : e.Proper) (hn : e.flow.node? n.id = some n) (hq : n.inquiry? = some q)
    (hi : w.inbound = none ∨ w.session.current ≠ n.id) {r : Fields Value}
    (hw : w.session.Rests n.id r) {m : Node} {o : Outcome} (hv : e.Visits w m o) :
    (e.absorbed w m o).session.Rests n.id r := by
  have hid : m.id = w.session.current := Flow.id_of_node? he.built hv.node
  by_cases hm : n.id = m.id
  · -- The node itself is visited without an answer, so that it asks and nothing else.
    rw [hid] at hm
    obtain rfl : n = m := Option.some.inj (hn.symm.trans (hm ▸ hv.node))
    have hnone : (e.context w).inbound = none := hi.resolve_right fun h => h hm.symm
    have ho := hv.outcome
    rw [result_of_inquiry he.usual hq, Inquiry.visit_of_none hnone] at ho
    obtain rfl := Except.ok.inj ho
    have hwait : ∀ prompt, (Outcome.wait prompt).refused = none ∧
        (Outcome.wait prompt).outputs = [] := fun prompt => by
      unfold Outcome.wait Outcome.say
      split <;> exact ⟨rfl, rfl⟩
    refine ⟨?_, ?_⟩
    · rw [absorbed, Session.refused_apply, if_pos rfl, (hwait _).1]
      rfl
    · rw [absorbed, Session.record_apply, if_pos rfl, (hwait _).2]
      exact hw.record
  · refine ⟨?_, ?_⟩
    · rw [absorbed, Session.refused_apply, if_neg hm]
      exact hw.refused
    · rw [absorbed, Session.record_apply, if_neg hm]
      exact hw.record

/-- A step without an answer keeps the record of a node with an inquiry, and counts nothing. -/
theorem Steps.rests (he : e.Proper) (hn : e.flow.node? n.id = some n) (hq : n.inquiry? = some q)
    (hi : w.inbound = none ∨ w.session.current ≠ n.id) {r : Fields Value}
    (hw : w.session.Rests n.id r) {p : Progress σ} (h : e.Steps w p) :
    p.walk.session.Rests n.id r := by
  rcases h.session_eq with ⟨heq, -⟩ | ⟨m, o, hv, current, awaiting, heq⟩
  · rw [heq]
    exact hw
  · have hm := Visits.rests he hn hq hi hw hv
    rw [heq]
    exact ⟨hm.refused, hm.record⟩

/-- A walk keeps the record of a node with an inquiry, and counts nothing there, unless it begins
with an answer. -/
theorem rests_walkFrom (he : e.Proper) (hn : e.flow.node? n.id = some n)
    (hq : n.inquiry? = some q) (hi : w.inbound = none ∨ w.session.current ≠ n.id) {r : Fields Value}
    (hw : w.session.Rests n.id r) (left : Nat) :
    (e.walkFrom left w).2.session.Rests n.id r :=
  walkFrom_induct (e := e)
    (fun w => (w.inbound = none ∨ w.session.current ≠ n.id) ∧ w.session.Rests n.id r)
    (fun _ w => w.session.Rests n.id r)
    (fun _ _ hw h => ⟨.inl h.inbound_onward, h.rests he hn hq hw.1 hw.2⟩)
    (fun _ _ _ hw h => h.rests he hn hq hw.1 hw.2) (fun _ hw => hw.2) left ⟨hi, hw⟩

/-! ### With an answer -/

/-- What the rest of a walk makes of an outcome: nothing follows, or the walk goes on to a target
with the steps that are left. -/
inductive GoesOn (e : Setting σ) (w : Walk σ) (n : Node) (o : Outcome) (left : Nat) :
    WalkEnd × Walk σ → Prop
  | finishes (ho : e.LeadsNowhere (e.absorbed w n o).session n o) :
    GoesOn e w n o left (.completed, e.absorbed w n o)
  | moves {target : String} (ho : e.LeadsTo (e.absorbed w n o).session n o target)
    (ht : (e.flow.node? target).isSome) :
    GoesOn e w n o left (e.walkFrom left ((e.absorbed w n o).moved target false))

/-- A session waits at a node with an inquiry, and the turn may take a step. -/
structure Hears (e : Setting σ) (s : Session) (n : Node) (q : Inquiry) : Prop extends
    e.Proper where
  steps : 0 < e.settings.maxSteps
  node : e.flow.node? s.current = some n
  inquiry : n.inquiry? = some q
  awaiting : s.awaiting = true

variable {s : Session} {text : String} {world : σ}

namespace Hears

theorem id_eq (h : e.Hears s n q) : n.id = s.current := Flow.id_of_node? h.built h.node

theorem node?_id (h : e.Hears s n q) : e.flow.node? n.id = some n := h.id_eq ▸ h.node

theorem inbound (h : e.Hears s n q) (text : String) (world : σ) :
    (e.context (start (s.hear text e.now) text world)).inbound = some text :=
  if_pos h.awaiting

/-- The fallback is a node of the flow. -/
theorem node_of_fallback (h : e.Hears s n q) {target : String} (hf : q.fallback = some target) :
    (e.flow.node? target).isSome :=
  h.checked.target n (Flow.mem_of_node? h.node) target (Node.mem_targets_of_fallback h.inquiry hf)

/-- The turn is the step from the node where the session waits, and what follows. -/
theorem turn_eq_match (h : e.Hears s n q) (text : String) (world : σ) :
    e.turn s text world =
      match e.step (start (s.hear text e.now) text world) with
      | .ended how w => (how, w)
      | .onward w => e.walkFrom (e.settings.maxSteps - 1) w := by
  have hmax : e.settings.maxSteps = e.settings.maxSteps - 1 + 1 :=
    (Nat.sub_add_cancel h.steps).symm
  rw [turn_eq]
  conv_lhs => rw [hmax]
  rfl

/-- The step from the node where the session waits, in terms of what comes of judging the answer. -/
theorem step_eq (h : e.Hears s n q) (text : String) (world : σ) :
    let w := start (s.hear text e.now) text world
    e.step w = match q.visit (e.context w) n with
      | .error f => .ended (.failed f) (e.seen w n)
      | .ok o => e.proceed n o (e.absorbed w n o) := by
  intro w
  have hstep := step_of_node (e := e) (w := w) h.node
  rw [result_of_inquiry h.usual h.inquiry] at hstep
  exact hstep

end Hears

theorem goTo_of_isSome {target : String} (ht : (e.flow.node? target).isSome) :
    e.goTo target false w = .onward (w.moved target false) := by
  unfold goTo
  rw [if_neg (by simpa [Option.isSome_iff_ne_none] using ht)]
  rfl

/-- With attempts left, a refused answer is counted, and the session goes on waiting where it is. -/
theorem turn_of_lt (h : e.Hears s n q) (hr : q.refuses text = true)
    (hlt : s.refused n.id + 1 < max q.maxAttempts 1) (world : σ) :
    ∃ w, e.turn s text world = (.awaiting, w) ∧ w.session.current = n.id ∧
      w.session.awaiting = true ∧ w.session.refused n.id = s.refused n.id + 1 := by
  obtain ⟨refusal, hj⟩ := Inquiry.refuses_eq_true.1 hr
  obtain ⟨o, ho, hstay, -, hcount⟩ := Node.refuse_of_lt
    (c := e.context (start (s.hear text e.now) text world)) hlt q.fallback
    (refusal.complaint (e.context (start (s.hear text e.now) text world)) q.errorMessage)
  have hstep := h.step_eq text world
  dsimp only at hstep
  rw [Inquiry.visit_of_error (h.inbound text world) hj, ho] at hstep
  dsimp only at hstep
  rw [h.turn_eq_match, hstep]
  unfold proceed
  rw [hstay]
  refine ⟨_, rfl, ?_, rfl, ?_⟩
  · show (e.absorbed _ n o).session.current = n.id
    rw [absorbed, Session.current_apply, h.id_eq]
    rfl
  · show (e.absorbed _ n o).session.refused n.id = _
    rw [absorbed, Session.refused_apply, if_pos rfl, hcount]
    rfl

/-- Without attempts left and without a fallback, the turn fails on a refused answer. -/
theorem turn_of_exhausted (h : e.Hears s n q) (hr : q.refuses text = true)
    (hle : max q.maxAttempts 1 ≤ s.refused n.id + 1) (hf : q.fallback = none) (world : σ) :
    (e.turn s text world).1 = .failed (.exhausted n.id) := by
  obtain ⟨refusal, hj⟩ := Inquiry.refuses_eq_true.1 hr
  have hstep := h.step_eq text world
  dsimp only at hstep
  rw [Inquiry.visit_of_error (h.inbound text world) hj, Node.refuse_of_le hle, hf] at hstep
  dsimp only [Option.map_none, Option.elim_none] at hstep
  rw [h.turn_eq_match, hstep]

/-- Without attempts left, the turn goes on at the fallback. -/
theorem turn_of_fallback (h : e.Hears s n q) (hr : q.refuses text = true)
    (hle : max q.maxAttempts 1 ≤ s.refused n.id + 1) {target : String}
    (hf : q.fallback = some target) :
    e.turn s text world = e.walkFrom (e.settings.maxSteps - 1)
      ((e.absorbed (start (s.hear text e.now) text world) n (.goto target)).moved target false) := by
  obtain ⟨refusal, hj⟩ := Inquiry.refuses_eq_true.1 hr
  have hstep := h.step_eq text world
  dsimp only at hstep
  rw [Inquiry.visit_of_error (h.inbound text world) hj, Node.refuse_of_le hle, hf] at hstep
  dsimp only [Option.map_some, Option.elim_some] at hstep
  rw [h.turn_eq_match, hstep, show e.proceed n (.goto target) _ = e.goTo target false _ from rfl,
    goTo_of_isSome (h.node_of_fallback hf)]

/-- With an accepted answer, the turn goes on from what the answer has produced. -/
theorem turn_of_accepted (h : e.Hears s n q) {value : Value} (hv : q.judge text = .ok value)
    (world : σ) :
    e.GoesOn (start (s.hear text e.now) text world) n (q.accepted value)
      (e.settings.maxSteps - 1) (e.turn s text world) := by
  have hn : e.flow.node? (start (s.hear text e.now) text world).session.current = some n := h.node
  have hvisit : e.Visits (start (s.hear text e.now) text world) n (q.accepted value) := by
    refine ⟨hn, ?_⟩
    rw [result_of_inquiry h.usual h.inquiry, Inquiry.visit_of_ok (h.inbound text world) hv]
  have hstep := e.steps_step (start (s.hear text e.now) text world)
  rw [h.turn_eq_match]
  -- The visit is settled, so only the ways in which this outcome can go are left.
  have hsame : ∀ {m o}, e.Visits (start (s.hear text e.now) text world) m o →
      m = n ∧ o = q.accepted value := fun {m o} hm => by
    obtain rfl : m = n := Option.some.inj (hm.node.symm.trans hn)
    exact ⟨rfl, Except.ok.inj (hm.outcome.symm.trans hvisit.outcome)⟩
  generalize e.step (start (s.hear text e.now) text world) = p at hstep ⊢
  cases hstep with
  | lost hnone => cases hnone.symm.trans hn
  | broken hm hf =>
    obtain rfl := Option.some.inj (hm.symm.trans hn)
    cases hf.symm.trans hvisit.outcome
  | stays hm ho =>
    obtain ⟨rfl, rfl⟩ := hsame hm
    rcases q.next_accepted value with hnext | ⟨t, hnext⟩ <;> cases ho.symm.trans hnext
  | finishes hm ho =>
    obtain ⟨rfl, rfl⟩ := hsame hm
    exact .finishes ho
  | strays hm ho ht =>
    have hsome := node_of_leadsTo h.usual h.checked hm ho
    rw [ht] at hsome
    cases hsome
  | parks hm _ _ ha =>
    obtain ⟨rfl, rfl⟩ := hsame hm
    cases ha.symm.trans (q.awaiting_accepted value)
  | moves hm ho ht _ =>
    obtain ⟨rfl, rfl⟩ := hsame hm
    exact .moves ho ht

/-- However the walk goes on, it keeps the record of the node, and counts nothing there. -/
theorem GoesOn.rests (h : e.Hears s n q) {o : Outcome} {r : Fields Value}
    (hw : (e.absorbed w n o).session.Rests n.id r) {left : Nat} {ended : WalkEnd × Walk σ}
    (hg : e.GoesOn w n o left ended) : ended.2.session.Rests n.id r := by
  cases hg with
  | finishes _ => exact hw
  | @moves target _ _ =>
    have hmoved : ((e.absorbed w n o).moved target false).session.Rests n.id r :=
      ⟨hw.refused, hw.record⟩
    exact rests_walkFrom h.toProper h.node?_id h.inquiry (.inl rfl) hmoved left

/-- What a node leaves in the session when it counts nothing. -/
theorem rests_absorbed (e : Setting σ) (w : Walk σ) (n : Node) {o : Outcome}
    (ho : o.refused = none) :
    (e.absorbed w n o).session.Rests n.id (Fields.merge (w.session.record n.id) o.outputs) := by
  refine ⟨?_, ?_⟩
  · rw [absorbed, Session.refused_apply, if_pos rfl, ho]
    rfl
  · rw [absorbed, Session.record_apply, if_pos rfl]

end Setting

/-! ### Counts -/

/-- A session counts less than so many refused answers of a node, and some only while it waits
there. -/
structure Session.Tallies (s : Session) (id : String) (most : Nat) : Prop where
  lt : s.refused id < most
  here : s.refused id ≠ 0 → s.current = id ∧ s.awaiting = true

theorem Session.tallies_of_refused {s : Session} {id : String} {most : Nat} (hm : 0 < most)
    (h : s.refused id = 0) : s.Tallies id most :=
  ⟨h ▸ hm, fun hne => absurd h hne⟩

namespace Setting

variable {σ : Type} {e : Setting σ} {n : Node} {q : Inquiry} {s : Session} {text : String}
  {world : σ}

/-- What a turn has done when it has counted another refused answer of a node. -/
structure Counts (e : Setting σ) (s : Session) (n : Node) (q : Inquiry) (text : String)
    (world : σ) : Prop where
  hears : e.Hears s n q
  refuses : q.refuses text = true
  lt : s.refused n.id + 1 < max q.maxAttempts 1
  current : (e.turn s text world).2.session.current = n.id
  awaiting : (e.turn s text world).2.session.awaiting = true
  refused : (e.turn s text world).2.session.refused n.id = s.refused n.id + 1

theorem steps_of_awaiting (h : (e.turn s text world).1 = .awaiting) : 0 < e.settings.maxSteps := by
  rw [turn_eq] at h
  by_contra hn
  rw [Nat.eq_zero_of_not_pos hn, walkFrom_zero] at h
  cases h

/-- A turn on an answer that is to go on counts another refused answer, or nothing. -/
theorem Hears.counts_or_rests (h : e.Hears s n q) (hw : (e.turn s text world).1 = .awaiting) :
    e.Counts s n q text world ∨ (e.turn s text world).2.session.refused n.id = 0 := by
  cases hr : q.refuses text with
  | false =>
    obtain ⟨value, hv⟩ := Inquiry.refuses_eq_false.1 hr
    exact .inr ((turn_of_accepted h hv world).rests h
      (rests_absorbed e _ n (q.refused_accepted value))).refused
  | true =>
    by_cases hlt : s.refused n.id + 1 < max q.maxAttempts 1
    · obtain ⟨w, hturn, hcurrent, hawaiting, hrefused⟩ := turn_of_lt h hr hlt world
      exact .inl ⟨h, hr, hlt, by rw [hturn]; exact hcurrent, by rw [hturn]; exact hawaiting,
        by rw [hturn]; exact hrefused⟩
    · cases hf : q.fallback with
      | none =>
        rw [turn_of_exhausted h hr (Nat.not_lt.1 hlt) hf] at hw
        cases hw
      | some target =>
        have ht := h.node_of_fallback hf
        have hg : e.GoesOn (start (s.hear text e.now) text world) n (.goto target)
            (e.settings.maxSteps - 1) (e.turn s text world) := by
          rw [turn_of_fallback h hr (Nat.not_lt.1 hlt) hf]
          exact .moves (.inl rfl) ht
        exact .inr (hg.rests h (rests_absorbed e _ n rfl)).refused

/-- A turn that is to go on counts another refused answer, or nothing. -/
theorem counts_or_rests (he : e.Proper) (hn : e.flow.node? n.id = some n)
    (hq : n.inquiry? = some q) (hs : s.refused n.id ≠ 0 → s.current = n.id ∧ s.awaiting = true)
    (hw : (e.turn s text world).1 = .awaiting) :
    e.Counts s n q text world ∨ (e.turn s text world).2.session.refused n.id = 0 := by
  by_cases hhere : s.current = n.id ∧ s.awaiting = true
  · have h : e.Hears s n q := ⟨he, steps_of_awaiting hw, hhere.1 ▸ hn, hq, hhere.2⟩
    exact h.counts_or_rests hw
  · -- Nothing was counted at the node before, and nobody answers it in this turn.
    have hzero : s.refused n.id = 0 := by
      by_contra hne
      exact hhere (hs hne)
    have hstart : (start (s.hear text e.now) text world).inbound = none ∨
        (start (s.hear text e.now) text world).session.current ≠ n.id := by
      by_cases hc : s.current = n.id
      · exact .inl (if_neg fun ha => hhere ⟨hc, ha⟩)
      · exact .inr hc
    exact .inr (rests_walkFrom he hn hq hstart ⟨hzero, rfl⟩ e.settings.maxSteps).refused

/-- A turn that is to go on keeps the count below what the inquiry allows. -/
theorem tallies_turn (he : e.Proper) (hn : e.flow.node? n.id = some n) (hq : n.inquiry? = some q)
    (hs : s.Tallies n.id (max q.maxAttempts 1)) (hw : (e.turn s text world).1 = .awaiting) :
    (e.turn s text world).2.session.Tallies n.id (max q.maxAttempts 1) := by
  rcases counts_or_rests he hn hq hs.here hw with h | h
  · exact ⟨h.refused ▸ h.lt, fun _ => ⟨h.current, h.awaiting⟩⟩
  · exact Session.tallies_of_refused (by omega) h

end Setting

end Dialogue
