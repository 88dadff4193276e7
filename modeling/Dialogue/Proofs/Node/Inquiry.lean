import Dialogue.Proofs.Flow.Checked
import Dialogue.Proofs.Node.Visits

/-!
# Questions and confirmations

Questions and confirmations treat a reply alike. It is judged, and its value is kept under a name;
when it has none the node asks again, until no attempts remain.

* `Handlers.usual_visit_inquiry`: a node with an inquiry is visited as the inquiry says.
* `Node.refuse_of_lt`, `Node.refuse_of_le`: what comes of a refused answer, with attempts left or not.
* `Flow.one_le_maxAttempts`: an inquiry of a flow without defects allows at least one attempt.
-/

namespace Dialogue

/-- What a node does that waits for an answer: how the answer is judged and where its value is kept,
where the conversation goes on with this value, and how often an answer may be refused. -/
structure Inquiry where
  name : String
  isGlobal : Bool
  maxAttempts : Nat
  fallback : Option String
  errorMessage : Option String
  judge : String → Except Refusal Value
  target : Value → Option String

/-- A question keeps what it accepts and goes on along the edges. -/
def Question.inquiry (q : Question) : Inquiry :=
  ⟨q.variableName, q.isGlobal, q.maxAttempts, q.fallback, q.errorMessage, q.accept, fun _ => none⟩

/-- The judgement of a confirmation: yes or no. -/
def Confirmation.judge (reply : String) : Except Refusal Value :=
  match consent? reply with
  | some agrees => .ok (.bool agrees)
  | none => .error .neitherYesNorNo

/-- A confirmation keeps whether the contact agrees, and goes on to the target set for that. -/
def Confirmation.inquiry (q : Confirmation) : Inquiry :=
  ⟨q.variableName, q.isGlobal, q.maxAttempts, q.fallback, q.errorMessage, Confirmation.judge,
    fun value => if value = .bool true then q.onYes else q.onNo⟩

/-- The inquiry of a node, if it asks the contact and judges the answer. -/
def Node.inquiry? (n : Node) : Option Inquiry :=
  match n.task with
  | .input q => some q.inquiry
  | .confirmation q => some q.inquiry
  | _ => none

namespace Inquiry

/-- Whether an answer is refused. -/
def refuses (q : Inquiry) (reply : String) : Bool :=
  match q.judge reply with
  | .ok _ => false
  | .error _ => true

theorem refuses_eq_true {q : Inquiry} {reply : String} :
    q.refuses reply = true ↔ ∃ r, q.judge reply = .error r := by
  unfold refuses
  cases q.judge reply <;> simp

theorem refuses_eq_false {q : Inquiry} {reply : String} :
    q.refuses reply = false ↔ ∃ v, q.judge reply = .ok v := by
  unfold refuses
  cases q.judge reply <;> simp

/-- What a node has produced when the answer has a value. -/
def accepted (q : Inquiry) (value : Value) : Outcome :=
  (Outcome.gotoOr (q.target value)).set q.name value q.isGlobal

/-- Asks for an answer, or judges it when it is there. -/
def visit (q : Inquiry) (c : Context) (n : Node) : NodeResult :=
  match c.inbound with
  | none => .ok (.wait (n.prompt c.scope))
  | some reply =>
    match q.judge reply with
    | .ok value => .ok (q.accepted value)
    | .error refusal =>
      n.refuse c q.maxAttempts q.fallback (refusal.complaint c q.errorMessage)

variable {q : Inquiry} {c : Context} {n : Node}

theorem visit_of_none (h : c.inbound = none) : q.visit c n = .ok (.wait (n.prompt c.scope)) := by
  unfold visit
  rw [h]

theorem visit_of_ok {reply : String} {value : Value} (h : c.inbound = some reply)
    (hv : q.judge reply = .ok value) : q.visit c n = .ok (q.accepted value) := by
  unfold visit
  simp only [h, hv]

theorem visit_of_error {reply : String} {refusal : Refusal} (h : c.inbound = some reply)
    (hr : q.judge reply = .error refusal) :
    q.visit c n = n.refuse c q.maxAttempts q.fallback (refusal.complaint c q.errorMessage) := by
  unfold visit
  simp only [h, hr]

/-! ### Accepted answers -/

@[simp] theorem outputs_accepted (q : Inquiry) (value : Value) :
    (q.accepted value).outputs = [(q.name, value)] := by
  unfold accepted Outcome.gotoOr
  cases q.target value <;> rfl

@[simp] theorem exports_accepted (q : Inquiry) (value : Value) :
    (q.accepted value).exports = if q.isGlobal then [q.name] else [] := by
  unfold accepted Outcome.gotoOr
  cases q.target value <;> cases hg : q.isGlobal <;> rfl

@[simp] theorem refused_accepted (q : Inquiry) (value : Value) :
    (q.accepted value).refused = none := by
  unfold accepted Outcome.gotoOr
  cases q.target value <;> rfl

@[simp] theorem awaiting_accepted (q : Inquiry) (value : Value) :
    (q.accepted value).awaiting = false := by
  unfold accepted Outcome.gotoOr
  cases q.target value <;> rfl

/-- With an accepted answer the conversation goes on to a target of its settings or along its edges. -/
theorem next_accepted (q : Inquiry) (value : Value) :
    (q.accepted value).next = .edges ∨ ∃ t, (q.accepted value).next = .node t := by
  unfold accepted Outcome.gotoOr
  cases q.target value with
  | none => exact .inl rfl
  | some t => exact .inr ⟨t, rfl⟩

end Inquiry

/-! ### Visits -/

theorem Question.visit_eq (q : Question) (c : Context) (n : Node) :
    q.visit c n = q.inquiry.visit c n := rfl

theorem Confirmation.judge_inquiry (q : Confirmation) : q.inquiry.judge = judge := by
  rw [inquiry]

theorem Confirmation.judge_of_none {reply : String} (h : consent? reply = none)
    (q : Confirmation) : q.inquiry.judge reply = .error .neitherYesNorNo := by
  rw [judge_inquiry, judge, h]

theorem Confirmation.judge_of_some {reply : String} {agrees : Bool}
    (h : consent? reply = some agrees) (q : Confirmation) :
    q.inquiry.judge reply = .ok (.bool agrees) := by
  rw [judge_inquiry, judge, h]

theorem Confirmation.visit_eq (q : Confirmation) (c : Context) (n : Node) :
    q.visit c n = q.inquiry.visit c n := by
  unfold Confirmation.visit
  cases hi : c.inbound with
  | none => exact (Inquiry.visit_of_none hi).symm
  | some reply =>
    dsimp only
    cases hr : consent? reply with
    | none => exact (Inquiry.visit_of_error hi (judge_of_none hr q)).symm
    | some agrees =>
      rw [Inquiry.visit_of_ok hi (judge_of_some hr q)]
      cases agrees <;> rfl

/-- A node with an inquiry is that of a question or of a confirmation. -/
theorem Node.inquiry?_eq_some {n : Node} {q : Inquiry} (h : n.inquiry? = some q) :
    (∃ question, n.task = .input question ∧ question.inquiry = q) ∨
      ∃ question, n.task = .confirmation question ∧ question.inquiry = q := by
  unfold inquiry? at h
  split at h
  · rename_i question hn
    exact .inl ⟨question, hn, Option.some.inj h⟩
  · rename_i question hn
    exact .inr ⟨question, hn, Option.some.inj h⟩
  · cases h

/-- A node with an inquiry is visited as the inquiry says. -/
theorem Handlers.usual_visit_inquiry {n : Node} {q : Inquiry} (h : n.inquiry? = some q)
    (c : Context) : usual.visit c n = .done (q.visit c n) := by
  rw [usual_visit]
  rcases Node.inquiry?_eq_some h with ⟨question, hn, rfl⟩ | ⟨question, hn, rfl⟩ <;> rw [hn]
  · exact congrArg Visit.done (question.visit_eq c n)
  · exact congrArg Visit.done (question.visit_eq c n)

/-! ### Refused answers -/

namespace Node

variable {n : Node} {c : Context} {maxAttempts : Nat}

/-- The fallback of an inquiry is a target of its node. -/
theorem mem_targets_of_fallback {q : Inquiry} (hq : n.inquiry? = some q) {target : String}
    (hf : q.fallback = some target) : target ∈ n.targets := by
  rcases inquiry?_eq_some hq with ⟨question, hn, rfl⟩ | ⟨question, hn, rfl⟩
  · have hs : ∀ name t, (name, some t) ∈ [("fallback", question.fallback)] → t ∈ n.targets :=
      fun _ _ => mem_targets_of_setting (by rw [hn]; rfl)
    exact hs "fallback" target (by simp [show question.fallback = some target from hf])
  · have hs : ∀ name t, (name, some t) ∈ [("on_yes", question.onYes), ("on_no", question.onNo),
        ("fallback", question.fallback)] → t ∈ n.targets :=
      fun _ _ => mem_targets_of_setting (by rw [hn]; rfl)
    exact hs "fallback" target (by simp [show question.fallback = some target from hf])

/-- With attempts left, a refused answer is counted, and the node goes on waiting. -/
theorem refuse_of_lt (h : c.session.refused n.id + 1 < max maxAttempts 1)
    (fallback : Option String) (complaint : String) :
    ∃ o, n.refuse c maxAttempts fallback complaint = .ok o ∧ o.next = .stay ∧ o.outputs = [] ∧
      o.refused = some (c.session.refused n.id + 1) := by
  unfold refuse
  dsimp only
  rw [if_neg (by omega)]
  refine ⟨_, rfl, by simp, ?_, rfl⟩
  rw [Outcome.withRefused, Outcome.wait, Outcome.say, Outcome.say]
  split <;> split <;> rfl

/-- Without attempts left, a node gives up. -/
theorem refuse_of_le (h : max maxAttempts 1 ≤ c.session.refused n.id + 1)
    (fallback : Option String) (complaint : String) :
    n.refuse c maxAttempts fallback complaint =
      (fallback.map Outcome.goto).elim (.error (.exhausted n.id)) .ok := by
  unfold refuse
  dsimp only
  rw [if_pos h]
  cases fallback <;> rfl

end Node

/-! ### Attempts in flows without defects -/

/-- No attempts at all are a defect. -/
theorem Report.pos_of_onlyIf {attempts : Nat} {d : Defect}
    (h : (onlyIf (attempts == 0) (.defect d)).defects = []) : 1 ≤ attempts := by
  rw [defects_onlyIf] at h
  split at h
  · cases h
  · rename_i hne
    exact Nat.one_le_iff_ne_zero.2 (by simpa using hne)

/-- An inquiry of a flow without defects allows at least one attempt. -/
theorem Flow.one_le_maxAttempts {f : Flow} (hv : f.check.isValid = true) {n : Node}
    (hn : n ∈ f.nodes) {q : Inquiry} (hq : n.inquiry? = some q) : 1 ≤ q.maxAttempts := by
  obtain ⟨-, -, -, hnodes⟩ := defects_check hv
  have ht := (hnodes n hn).2.2
  unfold checkTask at ht
  rcases Node.inquiry?_eq_some hq with ⟨question, hk, rfl⟩ | ⟨question, hk, rfl⟩ <;> rw [hk] at ht
  · simp only [checkQuestion, Report.append_defects, List.append_eq_nil_iff] at ht
    exact Report.pos_of_onlyIf ht.1.2
  · exact Report.pos_of_onlyIf ht

end Dialogue
