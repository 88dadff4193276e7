import Dialogue.Node.Handler

/-!
# Where a node leads

Whatever partners reply, a node that is visited by the handler of its own kind follows its edges,
goes to a target of its settings, stays, or fails for one of four reasons.

* `Node.Yields` lists these ways, `Node.Fails` the reasons.
* `Handlers.yields_usual`: a visit goes in one of the listed ways.
-/

namespace Dialogue

/-! ### Where outcomes lead -/

namespace Outcome

@[simp] theorem next_say (o : Outcome) (text : String) : (o.say text).next = o.next := by
  unfold say
  split <;> rfl

@[simp] theorem next_set (o : Outcome) (name : String) (value : Value) (export? : Bool) :
    (o.set name value export?).next = o.next := rfl

@[simp] theorem next_setAll (o : Outcome) (values : Fields Value) (export? : Bool) :
    (o.setAll values export?).next = o.next := by
  unfold setAll
  induction values generalizing o with
  | nil => rfl
  | cons entry values ih => rw [List.foldl_cons, ih, next_set]

@[simp] theorem next_withRefused (o : Outcome) (count : Nat) :
    (o.withRefused count).next = o.next := rfl

@[simp] theorem next_follow : follow.next = .edges := rfl

@[simp] theorem next_goto (target : String) : (goto target).next = .node target := rfl

@[simp] theorem next_wait (prompt : String) : (wait prompt).next = .stay :=
  next_say _ prompt

theorem next_gotoOr (target : Option String) :
    (gotoOr target).next = .edges ∨ ∃ t, target = some t ∧ (gotoOr target).next = .node t := by
  cases target with
  | none => exact .inl rfl
  | some t => exact .inr ⟨t, rfl, rfl⟩

end Outcome

/-- What holds of all that a visit may come to, whatever the partners reply. -/
def Visit.Always (P : NodeResult → Prop) : Visit → Prop
  | .done result => P result
  | .call _ resume => ∀ reply, P (resume reply)
  | .ask _ resume => ∀ reply, P (resume reply)

theorem Visit.Always.run {σ : Type} {P : NodeResult → Prop} {v : Visit} (h : v.Always P)
    (p : Partners σ) (world : σ) : P (v.run p world).1 := by
  cases v with
  | done result => exact h
  | call c resume => exact h _
  | ask r resume => exact h _

namespace Node

/-- The reasons for which a visit to a node may fail. -/
inductive Fails (n : Node) (c : Context) : NodeFault → Prop
  | call (f : CallFault) : Fails n c (.call f)
  | exhausted : Fails n c (.exhausted n.id)
  | unknownApi {a : Action} (hn : n.task = .action a) (ha : c.flow.api? a.api = none) :
    Fails n c (.defect (.unknownApi n.id a.api))
  | deadEnd {r : Router} (hn : n.task = .router r) (hr : r.default = none)
    (he : Edge.choose c.scope n.edges = none) : Fails n c (.defect (.deadEnd n.id))

/-- What a visit to a node may come to. -/
inductive Yields (n : Node) (c : Context) : NodeResult → Prop
  | follows {o : Outcome} (ho : o.next = .edges) : Yields n c (.ok o)
  | stays {o : Outcome} (ho : o.next = .stay) : Yields n c (.ok o)
  | goes {o : Outcome} {target : String} (ho : o.next = .node target) (ht : target ∈ n.targets) :
    Yields n c (.ok o)
  | fails {f : NodeFault} (hf : n.Fails c f) : Yields n c (.error f)

variable {n : Node} {c : Context}

theorem mem_targets_of_edge {e : Edge} (h : e ∈ n.edges) : e.target ∈ n.targets :=
  List.mem_append_left _ (List.mem_map.2 ⟨e, h, rfl⟩)

/-- The targets in the settings of a task are targets of its node. -/
theorem mem_targets_of_setting {settings : List (String × Option String)}
    (hn : n.task.outcomeTargets = settings.filterMap Task.outcomeTargets.set?)
    {name target : String} (hm : (name, some target) ∈ settings) : target ∈ n.targets := by
  refine List.mem_append_right _ (List.mem_map.2 ⟨(name, target), ?_, rfl⟩)
  rw [hn]
  exact List.mem_filterMap.2 ⟨(name, some target), hm, rfl⟩

theorem Yields.gotoOr {target : Option String} {o : Outcome}
    (ho : o.next = (Outcome.gotoOr target).next) (ht : ∀ t, target = some t → t ∈ n.targets) :
    n.Yields c (.ok o) := by
  rcases Outcome.next_gotoOr target with h | ⟨t, rfl, h⟩
  · exact .follows (ho.trans h)
  · exact .goes (ho.trans h) (ht t rfl)

theorem yields_refuse {fallback : Option String} (ht : ∀ t, fallback = some t → t ∈ n.targets)
    (maxAttempts : Nat) (complaint : String) :
    n.Yields c (n.refuse c maxAttempts fallback complaint) := by
  unfold refuse
  dsimp only
  split
  · cases fallback with
    | some target => exact .goes rfl (ht target rfl)
    | none => exact .fails .exhausted
  · exact .stays (by simp)

/-! ### One kind after the other -/

theorem yields_input {q : Question} (hn : n.task = .input q) : n.Yields c (q.visit c n) := by
  have hs : ∀ name t, (name, some t) ∈ [("fallback", q.fallback)] → t ∈ n.targets :=
    fun _ _ => mem_targets_of_setting (by rw [hn]; rfl)
  unfold Question.visit
  split
  · exact .stays (by simp)
  · split
    · exact .follows (by simp)
    · exact yields_refuse (fun t ht => hs "fallback" t (by simp [ht])) _ _

theorem yields_confirmation {q : Confirmation} (hn : n.task = .confirmation q) :
    n.Yields c (q.visit c n) := by
  have hs : ∀ name t,
      (name, some t) ∈ [("on_yes", q.onYes), ("on_no", q.onNo), ("fallback", q.fallback)] →
        t ∈ n.targets :=
    fun _ _ => mem_targets_of_setting (by rw [hn]; rfl)
  unfold Confirmation.visit
  split
  · exact .stays (by simp)
  · split
    · rename_i agrees _
      refine .gotoOr (Outcome.next_set _ _ _ _) fun t ht => ?_
      cases agrees with
      | true => exact hs "on_yes" t (by simp [show q.onYes = some t from ht])
      | false => exact hs "on_no" t (by simp [show q.onNo = some t from ht])
    · exact yields_refuse (fun t ht => hs "fallback" t (by simp [ht])) _ _

theorem yields_router {r : Router} (hn : n.task = .router r) : n.Yields c (r.visit c n) := by
  unfold Router.visit
  cases he : Edge.choose c.scope n.edges with
  | some e =>
    have hm : e ∈ n.edges := List.mem_of_find?_eq_some he
    exact .goes (by simp) (mem_targets_of_edge hm)
  | none =>
    cases hr : r.default with
    | none => exact .fails (.deadEnd hn hr he)
    | some target =>
      have hs : ∀ name t, (name, some t) ∈ [("default", r.default)] → t ∈ n.targets :=
        fun _ _ => mem_targets_of_setting (by rw [hn]; rfl)
      exact .goes (by simp) (hs "default" target (by simp [hr]))

theorem yields_action {a : Action} (hn : n.task = .action a) :
    (a.visit c n).Always (n.Yields c) := by
  have hs : ∀ name t,
      (name, some t) ∈ [("on_success", a.onSuccess), ("on_error", a.onError)] → t ∈ n.targets :=
    fun _ _ => mem_targets_of_setting (by rw [hn]; rfl)
  unfold Action.visit
  cases ha : c.flow.api? a.api with
  | none => exact .fails (.unknownApi hn ha)
  | some api =>
    -- An action goes on whatever its back end replies, so both kinds of replies are looked at.
    intro reply
    cases reply with
    | ok reply =>
      have ho : (a.succeed c n reply).next = (Outcome.gotoOr a.onSuccess).next := by
        unfold Action.succeed
        cases a.output <;> cases a.extract <;> simp
      exact .gotoOr ho fun t ht => hs "on_success" t (by simp [ht])
    | error f =>
      dsimp only
      cases he : a.onError with
      | none => exact .fails (.call f)
      | some target =>
        have ho : (Action.recover target f).next = .node target := by
          cases f <;> rfl
        exact .goes ho (hs "on_error" target (by simp [he]))

theorem mem_targets_onError {m : Model} (hn : n.task = .model m) {target : String}
    (h : m.onError = some target) : target ∈ n.targets := by
  have hs : ∀ name t, (name, some t) ∈ [("on_error", m.onError)] → t ∈ n.targets :=
    fun _ _ => mem_targets_of_setting (by rw [hn]; rfl)
  exact hs "on_error" target (by simp [h])

theorem yields_askFor {m : Model} (hn : n.task = .model m) {resume : String → NodeResult}
    (h : ∀ reply, n.Yields c (resume reply)) (messages : List ChatMessage)
    (temperature : Option Binary64) (wantsRecord : Bool) :
    (m.askFor messages temperature wantsRecord resume).Always (n.Yields c) := by
  intro reply
  cases reply with
  | ok reply => exact h reply.text
  | error f =>
    show n.Yields c (m.failed f)
    unfold Model.failed
    cases he : m.onError with
    | none => exact .fails (.call f)
    | some target => exact .goes rfl (mem_targets_onError hn he)

theorem yields_converse (m : Model) (reply : String) : n.Yields c (.ok (m.converse reply)) := by
  unfold Model.converse
  dsimp only
  split
  · exact .follows (by simp)
  · split
    · exact .follows (by simp)
    · exact .stays (by simp)

theorem yields_extract {m : Model} (hn : n.task = .model m) (reply : String) :
    n.Yields c (m.extract c n reply) := by
  unfold Model.extract
  split
  · refine .follows ?_
    cases m.output <;> simp
  · exact yields_refuse (fun t ht => mem_targets_onError hn ht) _ _

theorem yields_model {m : Model} (hn : n.task = .model m) :
    (m.visit c n).Always (n.Yields c) := by
  have hw : ∀ prompt, (Visit.ok (.wait prompt)).Always (n.Yields c) := fun prompt =>
    .stays (Outcome.next_wait prompt)
  unfold Model.visit
  dsimp only
  split
  · split
    · exact hw _
    · exact yields_askFor hn (yields_converse m) _ _ _
  · split
    · exact hw _
    · split
      · exact hw _
      · exact yields_askFor hn (yields_extract hn) _ _ _
  · exact yields_askFor hn (fun _ => .follows rfl) _ _ _

end Node

/-- Whatever partners reply, a visit to a node goes in one of the listed ways. -/
theorem Handlers.yields_usual (c : Context) (n : Node) :
    (usual.visit c n).Always (n.Yields c) := by
  rw [usual_visit]
  split
  · exact .follows (by simp [Node.pass])
  · rename_i q hn
    exact Node.yields_input hn
  · rename_i q hn
    exact Node.yields_confirmation hn
  · exact .follows (by simp [Node.pass])
  · rename_i a hn
    exact Node.yields_action hn
  · rename_i r hn
    exact Node.yields_router hn
  · rename_i m hn
    exact Node.yields_model hn

end Dialogue
