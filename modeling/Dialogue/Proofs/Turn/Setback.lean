import Dialogue.Proofs.Turn.Attempts

/-!
# Steps that fail and go on

A node can fail without the turn failing: a call is answered by an error and another node is set for
that, a reply of a model does not hold what was asked for, an answer is refused. Whatever comes of
it, nothing is exported then, and nothing is kept under any name but `error` and `status`, so that
what was answered earlier stands as it stood.

* `Outcome.Modest`: what a node may produce in such a case, and what it leaves alone.
* `Setting.Fumbles`: the ways in which a node fails and the turn goes on.
* `Setting.Fumbles.exists_modest`: each of them has a modest outcome.
* `Setting.sparedAt_step_of_fumbles`: a step that fails in one of these ways leaves earlier answers
  alone.
-/

namespace Dialogue

/-- The value under a name that is not among the added ones. -/
theorem Fields.get?_merge_of_notMem {α : Type} {more : Fields α} {name : String}
    (h : ∀ field ∈ more, field.1 ≠ name) (fields : Fields α) :
    get? (merge fields more) name = get? fields name := by
  induction more generalizing fields with
  | nil => rfl
  | cons field more ih =>
    obtain ⟨key, value⟩ := field
    have hkey : name ≠ key := (h _ List.mem_cons_self).symm
    have hstep : merge fields ((key, value) :: more) = merge (insert key value fields) more := rfl
    rw [hstep, ih fun f hf => h f (List.mem_cons_of_mem _ hf), get?_insert_of_ne hkey]

/-! ### What is left alone -/

/-- The names under which a node says what went wrong. -/
def Outcome.setbackNames : List String := ["error", "status"]

/-- A session in which one node has kept what went wrong, and in which all else that was answered
stands as before. -/
structure Session.SparedAt (s : Session) (id : String) (t : Session) : Prop where
  globals : t.globals = s.globals
  others : ∀ other, other ≠ id → Fields.get? t.records other = Fields.get? s.records other
  own : ∀ name, name ∉ Outcome.setbackNames → t.get? name (.node id) = s.get? name (.node id)

/-- A visit leaves the records of other nodes alone, whether there are any or not. -/
theorem Session.records_apply_of_ne (s : Session) (node : String) (o : Outcome) (now : Moment)
    {other : String} (h : other ≠ node) :
    Fields.get? (s.apply node o now).records other = Fields.get? s.records other := by
  obtain ⟨history, hs⟩ := s.exists_apply_eq node o now
  have hset : ∀ t : Session, (t.setRefused node o.refused).records = t.records := fun t => by
    cases o.refused <;> rfl
  rw [hs]
  show Fields.get? (setRefused _ node o.refused).records other = _
  rw [hset]
  split
  · rfl
  · exact Fields.get?_insert_of_ne h _ s.records

/-- An outcome that exports nothing and keeps at most what went wrong. -/
structure Outcome.Modest (o : Outcome) : Prop where
  exports : o.exports = []
  names : ∀ field ∈ o.outputs, field.1 ∈ Outcome.setbackNames

/-- A modest outcome leaves all answers alone. -/
theorem Outcome.Modest.sparedAt_apply {o : Outcome} (h : o.Modest) (s : Session) (id : String)
    (now : Moment) : s.SparedAt id (s.apply id o now) where
  globals := by
    by_cases ho : o.outputs = []
    · obtain ⟨history, hs⟩ := s.exists_apply_eq id o now
      rw [hs, if_pos (by simp [ho])]
      cases o.refused <;> rfl
    · rw [Session.globals_apply s id o now ho, h.exports]
      rfl
  others := fun _ hne => s.records_apply_of_ne id o now hne
  own := fun name hname => by
    rw [Session.get?_node, Session.get?_node, Session.record_apply, if_pos rfl]
    refine Fields.get?_merge_of_notMem (fun field hf heq => ?_) _
    exact hname (heq ▸ h.names field hf)

/-! ### Outcomes of failures -/

namespace Outcome

/-- An outcome without outputs is modest. -/
theorem modest_of_nil {o : Outcome} (ho : o.outputs = []) (he : o.exports = []) : o.Modest :=
  ⟨he, fun field hf => by rw [ho] at hf; cases hf⟩

/-- What went wrong may be added to a modest outcome. -/
theorem Modest.set {o : Outcome} (h : o.Modest) {name : String} (hname : name ∈ setbackNames)
    (value : Value) : (o.set name value false).Modest := by
  refine ⟨by simpa [Outcome.set] using h.exports, fun field hf => ?_⟩
  rcases Fields.mem_insert hf with rfl | hold
  · exact hname
  · exact h.names field hold

theorem modest_goto (target : String) : (goto target).Modest := modest_of_nil rfl rfl

/-- What is said leaves the outputs of an outcome alone. -/
theorem Modest.say {o : Outcome} (h : o.Modest) (text : String) : (o.say text).Modest := by
  unfold Outcome.say
  split
  · exact h
  · exact ⟨h.exports, h.names⟩

theorem modest_wait (prompt : String) : (wait prompt).Modest :=
  (modest_of_nil rfl rfl : ({ follow with next := .stay, awaiting := true } : Outcome).Modest).say _

end Outcome

/-- After a call that has failed an action keeps the error, and the status if there was one. -/
theorem Action.modest_recover (target : String) (f : CallFault) : (recover target f).Modest := by
  have herror : ((Outcome.goto target).set "error" (.text f.message) false).Modest :=
    (Outcome.modest_goto target).set (by decide) _
  unfold recover
  cases f with
  | status _ s _ _ => exact herror.set (by decide) _
  | _ => exact herror

/-- An action whose call has failed goes on at the node that is set for this case. -/
theorem Action.exists_visit (a : Action) (c : Context) (n : Node) {api : Api}
    (h : c.flow.api? a.api = some api) : ∃ resume, a.visit c n = .call (a.request api c) resume ∧
      ∀ f target, a.onError = some target → resume (.error f) = .ok (recover target f) := by
  unfold visit
  rw [h]
  refine ⟨_, rfl, fun f target ht => ?_⟩
  dsimp only
  rw [ht]

/-- A model that could not be asked keeps the error. -/
theorem Model.exists_failed {m : Model} (h : m.onError.isSome) (f : CallFault) :
    ∃ o, m.failed f = .ok o ∧ o.Modest := by
  obtain ⟨target, ht⟩ := Option.isSome_iff_exists.1 h
  refine ⟨_, by unfold failed; rw [ht], ?_⟩
  exact (Outcome.modest_goto target).set (by decide) _

/-- A refused answer is forgotten. -/
theorem Node.exists_refuse {n : Node} {c : Context} {maxAttempts : Nat} {fallback : Option String}
    (h : fallback.isSome ∨ c.session.refused n.id + 1 < max maxAttempts 1) (complaint : String) :
    ∃ o, n.refuse c maxAttempts fallback complaint = .ok o ∧ o.Modest := by
  by_cases hlt : c.session.refused n.id + 1 < max maxAttempts 1
  · refine ⟨_, by unfold refuse; dsimp only; rw [if_neg (by omega)], ?_⟩
    have hsaid := (Outcome.modest_wait (complaint ++ (" (attempt " ++
      toString (c.session.refused n.id + 1 + 1) ++ "/" ++ toString maxAttempts ++ ")"))).say
      (n.prompt c.scope)
    exact ⟨hsaid.exports, hsaid.names⟩
  · obtain ⟨target, rfl⟩ := Option.isSome_iff_exists.1 (h.resolve_right hlt)
    exact ⟨_, refuse_of_le (by omega) _ complaint, Outcome.modest_goto target⟩

/-! ### Models -/

namespace Model

variable {m : Model} {c : Context} {n : Node} {r : ModelRequest}

/-- A visit that asks the model goes on to `failed` when there is no reply; an extractor takes the
fields out of the reply. -/
theorem visit_of_request (h : (m.visit c n).request? = some (.ask r)) :
    ∃ resume, m.visit c n = .ask r resume ∧ (∀ f, resume (.error f) = m.failed f) ∧
      (m.role = .extractor → ∀ reply, resume (.ok reply) = m.extract c n reply.text) := by
  unfold visit at h ⊢
  -- In every role the model is asked through `askFor`, or not at all.
  cases hr : m.role with
  | conversational =>
    simp only [hr] at h ⊢
    split at h
    · cases h
    · rename_i ha
      rw [if_neg ha]
      injection h with h
      injection h with h
      subst h
      exact ⟨_, rfl, fun _ => rfl, nofun⟩
  | extractor =>
    simp only [hr] at h ⊢
    split at h
    · cases h
    · rename_i ha
      rw [if_neg ha]
      cases hs : subject? c with
      | none => rw [hs] at h; cases h
      | some text =>
        rw [hs] at h
        injection h with h
        injection h with h
        subst h
        exact ⟨_, rfl, fun _ => rfl, fun _ _ => rfl⟩
  | classifier =>
    simp only [hr] at h ⊢
    injection h with h
    injection h with h
    subst h
    exact ⟨_, rfl, fun _ => rfl, nofun⟩

end Model

namespace Setting

variable {σ : Type} {e : Setting σ} {w : Walk σ} {n : Node}

/-- The ways in which a node fails and the turn goes on: the back end of an action or a model answers
with an error, and the node is left for another one; what an extractor gets from its model, or a node
with an inquiry from the contact, is refused, with attempts left or another node to go to. -/
inductive Fumbles (e : Setting σ) (w : Walk σ) (n : Node) : Prop
  | call {a : Action} {api : Api} {f : CallFault} (task : n.task = .action a)
    (known : e.flow.api? a.api = some api)
    (fault : (e.partners.call (a.request api (e.context w)) w.world).1 = .error f)
    (goesOn : a.onError.isSome)
  | ask {m : Model} {r : ModelRequest} {f : CallFault} (task : n.task = .model m)
    (asks : (m.visit (e.context w) n).request? = some (.ask r))
    (fault : (e.partners.ask r w.world).1 = .error f) (goesOn : m.onError.isSome)
  | extract {m : Model} {r : ModelRequest} {reply : ModelReply} {fault : ReplyFault}
    (task : n.task = .model m) (role : m.role = .extractor)
    (asks : (m.visit (e.context w) n).request? = some (.ask r))
    (replied : (e.partners.ask r w.world).1 = .ok reply)
    (misses : Reply.fields m.fields reply.text = .error fault)
    (goesOn : m.onError.isSome ∨ w.session.refused n.id + 1 < max m.maxAttempts 1)
  | answer {q : Inquiry} {text : String} {refusal : Refusal} (inquiry : n.inquiry? = some q)
    (heard : w.inbound = some text) (refused : q.judge text = .error refusal)
    (goesOn : q.fallback.isSome ∨ w.session.refused n.id + 1 < max q.maxAttempts 1)

/-- What comes of asking a model is what its visit goes on to. -/
theorem result_of_ask {m : Model} (hh : e.handlers = .usual) (ht : n.task = .model m)
    {r : ModelRequest} {resume : Except CallFault ModelReply → NodeResult}
    (hv : m.visit (e.context w) n = .ask r resume) :
    (e.result w n).1 = resume (e.partners.ask r w.world).1 := by
  have hvisit : e.handlers.visit (e.context w) n = .ask r resume := by
    rw [hh, Handlers.usual_visit, ht]
    exact hv
  rw [result, hvisit]
  rfl

/-- A node that fails while the turn goes on has a modest outcome. -/
theorem Fumbles.exists_modest (hh : e.handlers = .usual) (h : e.Fumbles w n) :
    ∃ o, (e.result w n).1 = .ok o ∧ o.Modest := by
  cases h with
  | @call a api f task known fault goesOn =>
    obtain ⟨target, htarget⟩ := Option.isSome_iff_exists.1 goesOn
    obtain ⟨resume, hv, herror⟩ := a.exists_visit (e.context w) n known
    refine ⟨Action.recover target f, ?_, Action.modest_recover target f⟩
    have hvisit : e.handlers.visit (e.context w) n = .call (a.request api (e.context w)) resume := by
      rw [hh, Handlers.usual_visit, task]
      exact hv
    rw [result, hvisit]
    show resume (e.partners.call (a.request api (e.context w)) w.world).1 = _
    rw [fault, herror f target htarget]
  | @ask m r f task asks fault goesOn =>
    obtain ⟨resume, hv, herror, -⟩ := Model.visit_of_request asks
    rw [result_of_ask hh task hv, fault, herror]
    exact Model.exists_failed goesOn f
  | @extract m r reply fault task role asks replied misses goesOn =>
    obtain ⟨resume, hv, -, hreply⟩ := Model.visit_of_request asks
    rw [result_of_ask hh task hv, replied, hreply role]
    unfold Model.extract
    rw [misses]
    exact Node.exists_refuse goesOn _
  | @answer q text refusal inquiry heard refused goesOn =>
    rw [result_of_inquiry hh inquiry, Inquiry.visit_of_error heard refused]
    exact Node.exists_refuse goesOn _

/-- Where a walk goes after an outcome does not change any values. -/
theorem sparedAt_step {o : Outcome} (hn : e.flow.node? w.session.current = some n)
    (hr : (e.result w n).1 = .ok o) (ho : o.Modest) :
    w.session.SparedAt n.id (e.step w).walk.session := by
  have hspared : w.session.SparedAt n.id (e.absorbed w n o).session :=
    ho.sparedAt_apply w.session n.id e.now
  rcases (e.steps_step w).session_eq with ⟨-, hnone⟩ | ⟨m, u, hv, current, awaiting, hs⟩
  · exact absurd ⟨hn, hr⟩ (hnone n o)
  · obtain ⟨rfl, rfl⟩ := hv.unique ⟨hn, hr⟩
    rw [hs]
    exact ⟨hspared.globals, hspared.others, hspared.own⟩

/-- A step at a node that fails while the turn goes on has an outcome, and leaves earlier answers
alone: the values of all nodes, the records of all other nodes, and in the record of the node itself
everything but the error and the status. -/
theorem sparedAt_step_of_fumbles (hh : e.handlers = .usual)
    (hn : e.flow.node? w.session.current = some n) (h : e.Fumbles w n) :
    (∃ o, (e.result w n).1 = .ok o) ∧ w.session.SparedAt n.id (e.step w).walk.session := by
  obtain ⟨o, hr, ho⟩ := h.exists_modest hh
  exact ⟨⟨o, hr⟩, sparedAt_step hn hr ho⟩

end Setting

/-! ### A back end that is out of order -/

/-- A flow that asks for a name, signs it up at a back end, and has a node for the case that this
fails. -/
def Flow.signUp : Flow :=
  { Flow.new "acme" "alta" "Alta" "nombre" with
    apis := [⟨"crm", "https://crm", [], none, none, none⟩]
    nodes :=
      [{ Node.of "nombre" (.input (.named "nombre")) with edges := [.toward "alta"] },
        .of "alta" (.action ⟨"crm", .post, "clientes", [], [], [], none, some "cliente", none, none,
          none, some "aviso", true⟩),
        .of "aviso" (.input (.named "correo"))] }

/-- A back end that answers every call with a status of its own. -/
def Partners.refusing (status : Nat) : Partners Unit :=
  ⟨fun c world => (.error (.status c.target status "" 1), world),
    fun _ world => (.error .noModelKey, world)⟩

/-- The walk on which a name was given and the sign-up is due. -/
def Walk.signUp : Walk Unit :=
  let s := Session.start "s" "acme" "555" Flow.signUp.build 20 Settings.usual.idle ⟨0, 0⟩
  Setting.start
    { (s.merge "nombre" [("nombre", .text "Ana")] ["nombre"]) with current := "alta" } "Ana" ()

/-- When the sign-up fails, the name stays known. -/
theorem Setting.sparedAt_step_signUp :
    let e : Setting Unit := ⟨Flow.signUp.build, .usual, .usual, .refusing 503, ⟨0, 0⟩⟩
    ∃ n, e.flow.node? Walk.signUp.session.current = some n ∧ e.Fumbles .signUp n ∧
      (∃ o, (e.result .signUp n).1 = .ok o) ∧
      Walk.signUp.session.SparedAt "alta" (e.step .signUp).walk.session := by
  intro e
  have hn : e.flow.node? Walk.signUp.session.current = some (Flow.signUp.nodes.get ⟨1, by decide⟩) :=
    rfl
  have hf : e.Fumbles .signUp (Flow.signUp.nodes.get ⟨1, by decide⟩) := .call rfl rfl rfl rfl
  exact ⟨_, hn, hf, sparedAt_step_of_fumbles rfl hn hf⟩

end Dialogue
