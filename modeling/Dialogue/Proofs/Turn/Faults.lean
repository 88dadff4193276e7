import Dialogue.Proofs.Flow.Checked
import Dialogue.Proofs.Node.Visits
import Dialogue.Proofs.Turn.Run

/-!
# What can go wrong in a turn

A turn in a registered flow, with the usual handlers, fails only for what no check can foresee: a
partner, a contact who gives no answer, too many steps, or a router that finds all its guards closed.

* `Setting.tolerates_turn`: a turn fails only for these reasons.
* `Question.accept_ne_internal`: no answer is refused because of the question itself.
* `Registry.endsWell_turn`: all that registering a flow guarantees of its turns.
-/

namespace Dialogue

/-! ### Answers -/

namespace Question

theorem checkLength_ne_internal (q : Question) (reply : List Char) (reason : String) :
    q.checkLength reply ≠ .error (.internal reason) := by
  unfold checkLength
  split <;> simp

theorem ofType_ne_internal (type : AnswerType) (reply : List Char) (reason : String) :
    Answer.ofType type reply ≠ .error (.internal reason) := by
  cases type with
  | text => simp [Answer.ofType]
  | number =>
    unfold Answer.ofType Answer.number
    dsimp only
    repeat' split
    all_goals simp
  | email =>
    unfold Answer.ofType Answer.email
    dsimp only
    split <;> simp
  | phone =>
    unfold Answer.ofType Answer.phone
    dsimp only
    repeat' split
    all_goals simp
  | date =>
    unfold Answer.ofType Answer.date
    dsimp only
    split <;> simp

theorem checkPattern_ne_internal {q : Question}
    (h : ∀ written, q.pattern = some written → ∃ p, Pattern.read written = .ok p)
    (reply : List Char) (reason : String) : q.checkPattern reply ≠ .error (.internal reason) := by
  unfold checkPattern
  cases hw : q.pattern with
  | none => simp
  | some written =>
    obtain ⟨p, hp⟩ := h written hw
    dsimp only
    rw [hp]
    dsimp only
    split <;> simp

/-- When its pattern can be read, a question refuses no answer because of itself. -/
theorem accept_ne_internal {q : Question}
    (h : ∀ written, q.pattern = some written → ∃ p, Pattern.read written = .ok p)
    (reply reason : String) : q.accept reply ≠ .error (.internal reason) := by
  unfold accept
  dsimp only
  split
  · split <;> simp
  · split
    · split <;> simp
    · unfold acceptOpen
      cases hl : q.checkLength (Text.trim reply.toList) with
      | error refusal =>
        intro hr
        cases (show (.error refusal : Except Refusal Value) = _ from hr)
        exact checkLength_ne_internal q _ reason hl
      | ok _ =>
        cases hp : q.checkPattern (Text.trim reply.toList) with
        | error refusal =>
          intro hr
          cases (show (.error refusal : Except Refusal Value) = _ from hr)
          exact checkPattern_ne_internal h _ reason hp
        | ok _ => exact ofType_ne_internal _ _ reason

end Question

/-! ### Faults -/

/-- Where no edge is open all edges have guards. -/
theorem Edge.guard?_of_choose_eq_none {scope : Value} {edges : List Edge}
    (h : choose scope edges = none) : ∀ e ∈ edges, e.guard? ≠ none := by
  intro e hm hg
  have ho := choose_eq_none.1 h e hm
  rw [isOpen, hg] at ho
  cases ho

/-- The faults that a flow without defects cannot exclude. -/
inductive Flow.Tolerates (f : Flow) : NodeFault → Prop
  | call (fault : CallFault) : Tolerates f (.call fault)
  | exhausted (node : String) : Tolerates f (.exhausted node)
  | tooManySteps (limit : Nat) : Tolerates f (.defect (.tooManySteps limit))
  | deadEnd {id : String} {n : Node} (hn : f.node? id = some n) (hd : Flow.MayDeadEnd n) :
    Tolerates f (.defect (.deadEnd id))

/-- A session of a flow: a new one, or one that was kept by an earlier turn in the flow. -/
inductive Session.Of (f : Flow) : Session → Prop
  | new (id tenant contact : String) (window : Nat) (idle : Span) (now : Moment) :
    Of f (.start id tenant contact f window idle now)
  | kept {σ : Type} {e : Setting σ} (he : e.flow = f) {s : Session} {text : String} {world : σ}
    (hw : (e.turn s text world).1 = .awaiting) : Of f (e.turn s text world).2.session

/-- A session of a flow stands on a node of the flow. -/
theorem Session.Of.node {f : Flow} (hf : f.Checked) {s : Session} (h : s.Of f) :
    (f.node? s.current).isSome := by
  cases h with
  | new _ _ _ _ _ _ => exact hf.entry
  | kept he hw =>
    subst he
    exact (Setting.settled_turn _ _ _ _ hw).2

namespace Setting

variable {σ : Type} {e : Setting σ} {w : Walk σ} {n : Node}

theorem yields_result (hh : e.handlers = .usual) (w : Walk σ) (n : Node) :
    n.Yields (e.context w) (e.result w n).1 := by
  rw [result, hh]
  exact (Handlers.yields_usual (e.context w) n).run e.partners w.world

/-- Wherever an outcome leads is a target of the node. -/
theorem mem_targets_of_leadsTo (hh : e.handlers = .usual) {o : Outcome} (hv : e.Visits w n o)
    {s : Session} {target : String} (ho : e.LeadsTo s n o target) : target ∈ n.targets := by
  have hy := yields_result hh w n
  rw [hv.outcome] at hy
  rcases ho with ho | ⟨-, edge, he, rfl⟩
  · cases hy with
    | follows h => cases h.symm.trans ho
    | stays h => cases h.symm.trans ho
    | goes h ht =>
      cases h.symm.trans ho
      exact ht
  · exact Node.mem_targets_of_edge (List.mem_of_find?_eq_some he)

/-- Wherever an outcome leads there is a node. -/
theorem node_of_leadsTo (hh : e.handlers = .usual) (hf : e.flow.Checked) {o : Outcome}
    (hv : e.Visits w n o) {s : Session} {target : String} (ho : e.LeadsTo s n o target) :
    (e.flow.node? target).isSome :=
  hf.target n (Flow.mem_of_node? hv.node) target (mem_targets_of_leadsTo hh hv ho)

/-- A visit fails only for the reasons that are left. -/
theorem tolerates_result (hh : e.handlers = .usual) (hf : e.flow.Checked)
    (hb : e.flow.build = e.flow) {id : String} (hn : e.flow.node? id = some n) {fault : NodeFault}
    (hr : (e.result w n).1 = .error fault) : e.flow.Tolerates fault := by
  have hid : n.id = id := Flow.id_of_node? hb hn
  have hy := yields_result hh w n
  rw [hr] at hy
  cases hy with
  | fails hfail =>
    cases hfail with
    | call fault => exact .call fault
    | exhausted => exact .exhausted n.id
    | @unknownApi a hk ha =>
      have hapi := hf.api n (Flow.mem_of_node? hn) a hk
      rw [show e.flow.api? a.api = none from ha] at hapi
      cases hapi
    | deadEnd hk hd he =>
      rw [hid]
      exact .deadEnd hn ⟨⟨_, hk, hd⟩, Edge.guard?_of_choose_eq_none he⟩

/-- **A turn in a flow without defects fails only for the reasons that are left.** -/
theorem tolerates_turn (hh : e.handlers = .usual) (hf : e.flow.Checked)
    (hb : e.flow.build = e.flow) {s : Session} (hs : (e.flow.node? s.current).isSome)
    (text : String) (world : σ) {fault : NodeFault}
    (hfault : (e.turn s text world).1 = .failed fault) : e.flow.Tolerates fault := by
  rw [turn_eq] at hfault
  -- The walk always stands on a node of the flow: this is all that its last step has to know.
  refine walkFrom_induct (e := e) (fun w => (e.flow.node? w.session.current).isSome)
    (fun how _ => how = .failed fault → e.flow.Tolerates fault)
    (fun _ _ _ hs => hs.onward) ?_ ?_ e.settings.maxSteps
    (w := start (s.hear text e.now) text world) hs hfault
  · rintro w _ v hw hstep rfl
    cases hstep with
    | lost hn =>
      rw [hn] at hw
      cases hw
    | broken hn hr => exact tolerates_result hh hf hb hn hr
    | strays hv ho ht =>
      have hn := node_of_leadsTo hh hf hv ho
      rw [ht] at hn
      cases hn
  · rintro w - hc
    cases hc
    exact .tooManySteps _

end Setting

/-! ### Registered flows -/

/-- What holds of the end of a turn in a flow that was registered with a report. -/
structure Flow.EndsWell (f : Flow) (report : Report) (how : WalkEnd) : Prop where
  knowsNode : ∀ node, how ≠ .failed (.defect (.unknownNode node))
  knowsApi : ∀ node api, how ≠ .failed (.defect (.unknownApi node api))
  fits : ∀ node reason, how ≠ .failed (.defect (.badSettings node reason))
  accepts : ∀ n ∈ f.nodes, ∀ q, n.task = .input q → ∀ reply reason,
    q.accept reply ≠ .error (.internal reason)
  deadEnd : ∀ id, how = .failed (.defect (.deadEnd id)) →
    ∃ n, f.node? id = some n ∧ Flow.MayDeadEnd n
  warned : ∀ id, (∃ n, f.node? id = some n ∧ Flow.MayDeadEnd n) ↔
    ⟨id, Flow.deadEndRemark⟩ ∈ report.warnings

namespace Registry

variable {σ : Type} {r r' : Registry} {f : Flow} {report : Report}

/-- **All turns in a registered flow end well**, whatever contacts and partners say. -/
theorem endsWell_turn (hr : r.register f = .ok (report, r')) {s : Session} (hs : s.Of f.build)
    (settings : Settings) (p : Partners σ) (now : Moment) (text : String) (world : σ) :
    f.build.EndsWell report
      (Setting.turn ⟨f.build, settings, .usual, p, now⟩ s text world).1 := by
  obtain ⟨rfl, hv, -⟩ := register_eq_ok hr
  have hf := Flow.checked_of_isValid hv
  have hend : ∀ {fault}, (Setting.turn ⟨f.build, settings, .usual, p, now⟩ s text world).1 =
      .failed fault → f.build.Tolerates fault := fun h =>
    Setting.tolerates_turn (e := ⟨f.build, settings, .usual, p, now⟩) rfl hf rfl (hs.node hf) text
      world h
  refine ⟨?_, ?_, ?_, fun n hn q hq => Question.accept_ne_internal (hf.pattern n hn q hq), ?_, ?_⟩
  · rintro node h
    cases hend h
  · rintro node api h
    cases hend h
  · rintro node reason h
    cases hend h
  · rintro id h
    cases hend h with
    | deadEnd hn hd => exact ⟨_, hn, hd⟩
  · intro id
    rw [Flow.mem_warnings_check hv]
    refine exists_congr fun n => ?_
    rw [hf.node?_eq_some, and_assoc]

end Registry

/-- A flow with a gate for those of one age, and no other way on. -/
def Flow.gate : Flow :=
  { Flow.new "acme" "puerta" "Puerta" "edad" with
    nodes := [
      { Node.of "edad" (.input (.named "edad")) with edges := [.toward "puerta"] },
      { Node.of "puerta" (.router ⟨none⟩) with edges := [.when "fin" "\x7b\x7bedad\x7d\x7d equals 18"] },
      .of "fin" (.message ⟨false⟩)] }

/-- The setting of turns in the flow with the gate. -/
def Setting.gate : Setting Unit := ⟨Flow.gate.build, .usual, .usual, .absent, ⟨0, 0⟩⟩

/-- The turn in which the age is asked for. -/
def Setting.asking : WalkEnd × Walk Unit :=
  Setting.gate.turn (.start "s" "acme" "555" Flow.gate.build 20 (idleMinutes 30) ⟨0, 0⟩) "" ()

set_option maxRecDepth 10000 in
/-- At the gate some turns end, as the report has said. -/
theorem Registry.endsWell_turn_of_gate :
    let s := Setting.asking.2.session
    ∃ report r', Registry.register [] .gate = .ok (report, r') ∧ s.Of Flow.gate.build ∧
      (Setting.gate.turn s "17" ()).1 = .failed (.defect (.deadEnd "puerta")) ∧
      Flow.gate.build.EndsWell report (Setting.gate.turn s "17" ()).1 := by
  have hr := register_of_isValid (f := .gate) (by decide +kernel) []
  have hw : Setting.asking.1 = .awaiting := by decide +kernel
  have hs : Setting.asking.2.session.Of Flow.gate.build := .kept rfl hw
  exact ⟨_, _, hr, hs, by decide +kernel, Registry.endsWell_turn hr hs _ _ _ _ _⟩

end Dialogue
