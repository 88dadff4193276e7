import Dialogue.Proofs.Chat.Labels
import Dialogue.Proofs.Flow.Registered
import Dialogue.Proofs.Turn.Asked
import Dialogue.Proofs.Turn.Course
import Dialogue.Proofs.Turn.Results
import Dialogue.Proofs.Turn.Setback

/-!
# What classifiers keep

A classifier keeps one of its labels, letter for letter, or null. What its model replies is only
ever compared with the labels, and the label for all other cases is one of them as well, as the
check of the flow makes sure. So whatever is replied, no other value stands where the classifier
keeps its label.

* `Model.verdict`: the value that a reply amounts to.
* `Model.keeps_verdict`: it is one of the labels or null.
* `Setting.sorts_step`: what one reply does to a session.
* `Registry.labelsOnly_of_follows`: what stands there after any number of turns.
* `Registry.sorts_of_register`: all that registering a flow guarantees of its classifiers.
-/

namespace Dialogue

/-! ### Verdicts -/

namespace Model

variable {m : Model} {n : Node} {reply : String}

/-- The name under which a classifier keeps its label. -/
def labelName (m : Model) : String := m.output.getD "intent"

/-- The value that a classifier makes of a reply: the label that is found in it, else the label for
all other cases, else null. -/
def verdict (m : Model) (reply : String) : Value :=
  match Reply.label? m.labels reply with
  | some (label, _) => .text label
  | none => (m.defaultLabel.map .text).getD .null

/-- The values that a classifier may keep: its labels and null. -/
def Keeps (m : Model) (v : Value) : Prop := v = .null ∨ ∃ label ∈ m.labels, v = .text label

/-- A classifier without defects falls back on one of its labels. -/
theorem defaultLabel_mem (h : (Flow.checkModel n m).defects = []) (hr : m.role = .classifier)
    {label : String} (hd : m.defaultLabel = some label) : label ∈ m.labels := by
  unfold Flow.checkModel at h
  simp only [hr, hd] at h
  split at h
  · cases h
  · simpa using h

/-- A reply amounts to one of the labels or null. -/
theorem keeps_verdict (h : (Flow.checkModel n m).defects = []) (hr : m.role = .classifier)
    (reply : String) : m.Keeps (m.verdict reply) := by
  unfold verdict
  cases hl : Reply.label? m.labels reply with
  | some found => exact .inr ⟨found.1, Reply.label?_mem hl, rfl⟩
  | none =>
    cases hd : m.defaultLabel with
    | some label => exact .inr ⟨label, defaultLabel_mem h hr hd, rfl⟩
    | none => exact .inl rfl

theorem get?_outputs_classify (m : Model) (reply : String) :
    Fields.get? (m.classify reply).outputs m.labelName = some (m.verdict reply) := by
  unfold classify verdict
  cases Reply.label? m.labels reply <;> exact Fields.get?_insert_self _ _ _

theorem sorted_outputs_classify (m : Model) (reply : String) :
    Fields.Sorted (m.classify reply).outputs := by
  have hnone : Fields.Sorted Outcome.follow.outputs := .nil
  exact Outcome.sorted_set (Outcome.sorted_set hnone _ _ _) _ _ _

/-- The label is exported exactly when the outputs of the classifier are for all nodes. -/
theorem mem_exports_classify (m : Model) (reply : String) :
    m.labelName ∈ (m.classify reply).exports ↔ m.isGlobal = true := by
  unfold classify
  dsimp only
  split <;> simp +contextual [Outcome.mem_exports_set, Outcome.follow, labelName]

/-- A model that could not be asked keeps nothing under any other name than those of faults. -/
theorem modest_of_failed {f : CallFault} {o : Outcome} (h : m.failed f = .ok o) : o.Modest := by
  unfold failed at h
  split at h
  · cases h
    exact (Outcome.modest_goto _).set (by decide) _
  · cases h

/-- A classifier asks its model whatever it knows, and makes its verdict of the reply. -/
theorem visit_classifier (hr : m.role = .classifier) (c : Context) (n : Node) :
    ∃ q, m.visit c n = .ask q fun
      | .ok reply => .ok (m.classify reply.text)
      | .error f => m.failed f := by
  unfold visit
  rw [hr]
  exact ⟨_, rfl⟩

end Model

/-! ### What a verdict leaves in a session -/

namespace Session

variable {n : Node} {m : Model}

/-- How a session keeps what a classifier makes of a reply. For all nodes it is kept unless it is
null, in which case what they know stays. -/
structure Sorts (before after : Session) (id : String) (m : Model) (reply : String) : Prop where
  own : after.get? m.labelName (.node id) = some (m.verdict reply)
  shared : after.get? m.labelName .shared =
    if m.isGlobal = true ∧ m.verdict reply ≠ .null then some (m.verdict reply)
    else before.get? m.labelName .shared
  keeps : m.Keeps (m.verdict reply)

theorem get?_apply_node (s : Session) (id : String) {o : Outcome} (ho : Fields.Sorted o.outputs)
    (now : Moment) (name : String) : (s.apply id o now).get? name (.node id) =
      (Fields.get? o.outputs name).or (s.get? name (.node id)) := by
  rw [get?_node, record_apply, if_pos rfl, Fields.get?_merge ho.nodup_names, get?_node]

theorem sorts_apply (s : Session) (id : String) (now : Moment) (reply : String)
    (hk : m.Keeps (m.verdict reply)) : s.Sorts (s.apply id (m.classify reply) now) id m reply := by
  have hout := m.get?_outputs_classify reply
  refine ⟨?_, ?_, hk⟩
  · rw [get?_apply_node s id (m.sorted_outputs_classify reply), hout]
    rfl
  · show Fields.get? (s.apply id (m.classify reply) now).globals m.labelName = _
    rw [globals_apply s id _ now (Fields.ne_nil_of_get? hout), get?_exported, Fields.known?, hout]
    simp only [m.mem_exports_classify reply]
    by_cases hg : m.isGlobal = true <;> by_cases hv : m.verdict reply = .null <;>
      simp [hg, hv, Option.filter, get?]

/-- A session in which a classifier has kept one of its labels, null, or nothing. -/
def LabelsOnly (s : Session) (id : String) (m : Model) : Prop :=
  ∀ v, s.get? m.labelName (.node id) = some v → m.Keeps v

end Session

namespace Setting

variable {σ : Type} {e : Setting σ} {w : Walk σ} {n : Node} {m : Model}

/-- What comes of visiting a classifier: its verdict on the reply, or that there is no reply. -/
theorem exists_result_classifier (hh : e.handlers = .usual) (ht : n.task = .model m)
    (hr : m.role = .classifier) (w : Walk σ) :
    ∃ q, (m.visit (e.context w) n).request? = some (.ask q) ∧
      (e.result w n).1 = match (e.partners.ask q w.world).1 with
        | .ok reply => .ok (m.classify reply.text)
        | .error f => m.failed f := by
  obtain ⟨q, hv⟩ := m.visit_classifier hr (e.context w) n
  refine ⟨q, by rw [hv]; rfl, ?_⟩
  rw [result_of_ask hh ht hv]

/-- A step at a classifier whose model replies keeps the verdict on the reply. -/
theorem sorts_step {reply : String} (hv : e.Visits w n (m.classify reply))
    (hk : m.Keeps (m.verdict reply)) :
    w.session.Sorts (e.step w).walk.session n.id m reply := by
  have happly := w.session.sorts_apply n.id e.now reply hk
  rcases (e.steps_step w).session_eq with ⟨-, hnone⟩ | ⟨k, u, hu, current, awaiting, hs⟩
  · exact absurd hv (hnone _ _)
  · obtain ⟨rfl, rfl⟩ := hv.unique hu
    rw [hs]
    exact ⟨happly.own, happly.shared, happly.keeps⟩

/-- A step keeps nothing but labels and null where a classifier keeps its label, unless this is
where it keeps what went wrong. -/
theorem Steps.labelsOnly (hh : e.handlers = .usual) (hb : e.flow.build = e.flow)
    (hn : e.flow.node? n.id = some n) (ht : n.task = .model m) (hr : m.role = .classifier)
    (hk : ∀ reply, m.Keeps (m.verdict reply)) (hname : m.labelName ∉ Outcome.setbackNames)
    (hw : w.session.LabelsOnly n.id m) {p : Progress σ} (h : e.Steps w p) :
    p.walk.session.LabelsOnly n.id m := by
  rcases h.session_eq with ⟨hs, -⟩ | ⟨k, o, hv, current, awaiting, hs⟩
  · rw [hs]
    exact hw
  rw [hs]
  intro v hget
  have hget : (w.session.apply k.id o e.now).get? m.labelName (.node n.id) = some v := hget
  by_cases hid : n.id = k.id
  · -- the classifier itself is visited, and either hears a reply or does not
    have hcurrent : k.id = w.session.current := Flow.id_of_node? hb hv.node
    obtain rfl : n = k := Option.some.inj (hn.symm.trans ((hid.trans hcurrent) ▸ hv.node))
    obtain ⟨q, -, hresult⟩ := exists_result_classifier hh ht hr w
    have ho := hv.outcome
    rw [hresult] at ho
    split at ho
    · obtain rfl := Except.ok.inj ho
      rw [((w.session.sorts_apply n.id e.now _ (hk _)).own)] at hget
      exact Option.some.inj hget ▸ hk _
    · have hspared := (Model.modest_of_failed ho).sparedAt_apply w.session n.id e.now
      rw [hspared.own _ hname] at hget
      exact hw v hget
  · rw [Session.get?_node, Session.record_apply, if_neg hid, ← Session.get?_node] at hget
    exact hw v hget

/-- So does a whole turn. -/
theorem labelsOnly_turn (hh : e.handlers = .usual) (hb : e.flow.build = e.flow)
    (hn : e.flow.node? n.id = some n) (ht : n.task = .model m) (hr : m.role = .classifier)
    (hk : ∀ reply, m.Keeps (m.verdict reply)) (hname : m.labelName ∉ Outcome.setbackNames)
    {s : Session} (hs : s.LabelsOnly n.id m) (text : String) (world : σ) :
    (e.turn s text world).2.session.LabelsOnly n.id m :=
  e.turn_induct s text world (fun w => w.session.LabelsOnly n.id m)
    (fun _ _ hw h => h.labelsOnly hh hb hn ht hr hk hname hw) hs

end Setting

/-! ### Registered flows -/

namespace Registry

variable {r r' : Registry} {f : Flow} {report : Report} {n : Node} {m : Model}

/-- The classifiers of a registered flow make labels or null of all replies. -/
theorem keeps_of_register (h : r.register f = .ok (report, r')) (hn : n ∈ f.build.nodes)
    (ht : n.task = .model m) (hr : m.role = .classifier) (reply : String) :
    m.Keeps (m.verdict reply) := by
  obtain ⟨-, hv, -⟩ := register_eq_ok h
  obtain ⟨-, -, -, hnodes⟩ := Flow.defects_check hv
  have htask := (hnodes n hn).2.2
  rw [Flow.checkTask, ht] at htask
  exact Model.keeps_verdict htask hr reply

/-- **A classifier keeps nothing but its labels and null**, however many turns a session has had in
a registered flow and whatever was replied in them. Only the names of faults are not for labels
alone. -/
theorem labelsOnly_of_follows (h : r.register f = .ok (report, r')) (hn : n ∈ f.build.nodes)
    (ht : n.task = .model m) (hr : m.role = .classifier)
    (hname : m.labelName ∉ Outcome.setbackNames) {s t : Session} (hs : s.LabelsOnly n.id m)
    (hst : s.Follows f.build t) : t.LabelsOnly n.id m := by
  obtain ⟨-, hv, -⟩ := register_eq_ok h
  have hnode := (Flow.checked_of_isValid hv).node?_eq_some.2 ⟨hn, rfl⟩
  induction hst with
  | refl => exact hs
  | turn _ settings p now text world _ ih =>
    exact Setting.labelsOnly_turn (e := ⟨f.build, settings, .usual, p, now⟩) rfl rfl hnode ht hr
      (keeps_of_register h hn ht hr) hname ih text world

/-- **Whatever a model replies, the classifier that asked it keeps one of its labels or null**, and
the label is what the reply means. -/
theorem sorts_of_register (h : r.register f = .ok (report, r')) (hn : n ∈ f.build.nodes)
    (ht : n.task = .model m) (hr : m.role = .classifier) :
    (∀ labels reply label c, Reply.label? labels reply = some (label, c) ↔
      Reply.Means labels reply label c) ∧
    (∀ labels reply label c, Reply.Means labels reply label c → label ∈ labels) ∧
    ∀ {σ : Type} (e : Setting σ), e.flow = f.build → e.handlers = .usual → ∀ w : Walk σ,
      w.session.current = n.id →
        ∃ q, (m.visit (e.context w) n).request? = some (.ask q) ∧
          ∀ reply, (e.partners.ask q w.world).1 = .ok reply →
            e.Visits w n (m.classify reply.text) ∧
              w.session.Sorts (e.step w).walk.session n.id m reply.text := by
  refine ⟨fun _ _ _ _ => Reply.label?_eq_some_iff, fun _ _ _ _ hm => hm.mem, fun e hf hh w hw => ?_⟩
  obtain ⟨-, hv, -⟩ := register_eq_ok h
  have hnode : e.flow.node? w.session.current = some n := by
    rw [hf, hw]
    exact (Flow.checked_of_isValid hv).node?_eq_some.2 ⟨hn, rfl⟩
  obtain ⟨q, hq, hresult⟩ := Setting.exists_result_classifier hh ht hr w
  refine ⟨q, hq, fun reply hreply => ?_⟩
  rw [hreply] at hresult
  have hvisit : e.Visits w n (m.classify reply.text) := ⟨hnode, hresult⟩
  exact ⟨hvisit, Setting.sorts_step hvisit (keeps_of_register h hn ht hr reply.text)⟩

set_option maxRecDepth 10000 in
/-- A model that takes everything for a complaint is asked what the contact wants. -/
theorem sorts_of_register_complaint :
    let m : Model := { Model.inRole .classifier with labels := ["queja", "compra"] }
    let n : Node := { Node.of "motivo" (.model m) with edges := [.toward "ruta"] }
    let f := Flow.sorting "motivo" []
    let e := Setting.complaint f
    let w := Setting.start (.waitingOn f "motivo") "no funciona" ()
    let reply := "\x7b\"label\": \"queja\"\x7d"
    (∃ report r, Registry.register [] f = .ok (report, r)) ∧ n ∈ f.build.nodes ∧
      m.verdict reply = .text "queja" ∧ e.Visits w n (m.classify reply) ∧
      w.session.Sorts (e.step w).walk.session n.id m reply := by
  intro m n f e w reply
  have hreg := register_of_isValid (f := f) (by decide +kernel) []
  have hn : n ∈ f.build.nodes := by decide +kernel
  obtain ⟨q, -, hreply⟩ := (sorts_of_register hreg hn rfl rfl).2.2 e rfl rfl w rfl
  exact ⟨⟨_, _, hreg⟩, hn, by decide +kernel, hreply ⟨reply, default, 1⟩ rfl⟩

end Registry

end Dialogue
