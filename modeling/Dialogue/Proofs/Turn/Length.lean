import Dialogue.Proofs.Flow.Relay
import Dialogue.Proofs.Turn.Faults

/-!
# How long a turn can be

Only the first node of a turn may see the text of the contact. All those after it that lead on are
relays, so that the graph of relays bounds the length of a turn: off all cycles, each step from a
relay leaves fewer of them ahead.

* `Setting.budget_lt`: each step that leads on uses up some of what is left to a walk.
* `Setting.steps_turn_le`: a turn in a flow whose relays form no cycle ends by itself.
* `Registry.short_turn`: without models, registering a flow without a warning of cycles suffices.
-/

namespace Dialogue

/-! ### The warning of cycles -/

namespace Flow

/-- A flow without defects and without the warning has no cycle of nodes that never wait. -/
theorem isCyclic_of_not_warned {f : Flow} (h : f.check.isValid = true)
    (hw : ⟨f.entry, cycleRemark⟩ ∉ f.check.warnings) : f.passingGraph.isCyclic = false := by
  by_contra hc
  have hc : f.passingGraph.isCyclic = true := by simpa using hc
  have hm : ⟨f.entry, cycleRemark⟩ ∈ f.checkCycles.warnings := by
    rw [checkCycles, hc]
    exact List.mem_singleton_self _
  refine hw ?_
  rw [warnings_check (defects_check h).1]
  exact List.mem_append_right _ hm

end Flow

/-! ### Steps -/

namespace Setting

variable {σ : Type} {e : Setting σ} {w v : Walk σ}

/-- A step that leads on leads to a target of the current node, which is a relay unless it has seen
the text of the contact. -/
theorem Steps.relayed (hh : e.handlers = .usual) (h : e.Steps w (.onward v)) :
    ∃ n, e.flow.node? w.session.current = some n ∧ v.session.current ∈ n.targets ∧
      (w.inbound = none → n.relays = true) := by
  cases h with
  | @moves n o target hv ho ht ha =>
    refine ⟨n, hv.node, mem_targets_of_leadsTo hh hv ho, fun hi => ?_⟩
    by_contra hr
    obtain ⟨o', hvisit, hpause⟩ :=
      Handlers.pauses_usual (c := e.context w) hi (by simpa using hr)
    have hout := hv.outcome
    rw [result, hh, hvisit] at hout
    obtain rfl : o' = o := by simpa using show Except.ok o' = Except.ok o from hout
    rcases hpause with hstay | hawait
    · rcases ho with ho | ⟨ho, -⟩
      · cases hstay.symm.trans ho
      · cases hstay.symm.trans ho
    · cases hawait.symm.trans ha

/-- No step ends a walk for its length: only the end of patience does. -/
theorem Steps.patient (hh : e.handlers = .usual) {how : WalkEnd} (h : e.Steps w (.ended how v))
    (limit : Nat) : how ≠ .failed (.defect (.tooManySteps limit)) := by
  cases h with
  | lost _ => exact nofun
  | @broken n f _ hf =>
    rintro hl
    cases hl
    have hy := yields_result hh w n
    rw [hf] at hy
    cases hy with
    | fails hfail => cases hfail
  | stays _ _ => exact nofun
  | finishes _ _ => exact nofun
  | strays _ _ _ => exact nofun
  | parks _ _ _ _ => exact nofun

/-- How many steps are left to a walk in a flow whose relays form no cycle: one for each relay ahead
and one for the node where it ends. A node that sees the text may lead to any other one. -/
def budget (e : Setting σ) (w : Walk σ) : Nat :=
  match w.inbound with
  | none => e.flow.reserve w.session.current + 1
  | some _ => e.flow.nodes.length + 1

theorem budget_le (e : Setting σ) (w : Walk σ) : e.budget w ≤ e.flow.nodes.length + 1 := by
  unfold budget
  cases w.inbound with
  | none => exact Nat.succ_le_succ (e.flow.reserve_le_length _)
  | some text => exact Nat.le_refl _

theorem budget_pos (e : Setting σ) (w : Walk σ) : 0 < e.budget w := by
  unfold budget
  cases w.inbound <;> exact Nat.succ_pos _

/-- A step that leads on uses up some of what is left. -/
theorem budget_lt (hh : e.handlers = .usual) (hb : e.flow.build = e.flow)
    (hc : e.flow.relayGraph.isCyclic = false) (h : e.Steps w (.onward v)) :
    e.budget v < e.budget w := by
  obtain ⟨n, hn, ht, hr⟩ := h.relayed hh
  have hm := Flow.mem_of_node? hn
  have hid : n.id = w.session.current := Flow.id_of_node? hb hn
  have hv : e.budget v = e.flow.reserve v.session.current + 1 := by
    rw [budget, h.inbound_onward]
  rw [hv]
  cases hi : w.inbound with
  | none =>
    have hlt := Flow.reserve_lt hc hm (hr hi) ht
    rw [hid] at hlt
    rw [budget, hi]
    exact Nat.succ_lt_succ hlt
  | some text =>
    rw [budget, hi]
    refine Nat.succ_lt_succ ?_
    -- The node that has seen the text is a relay with the others ahead of it, or it is none of them.
    by_cases hrelay : n.relays = true
    · exact Nat.lt_of_lt_of_le (Flow.reserve_lt hc hm hrelay ht) (e.flow.reserve_le_length _)
    · exact Nat.lt_of_le_of_lt (e.flow.reserve_le _)
        (List.length_filter_lt_length_iff_exists.2 ⟨n, hm, hrelay⟩)

/-! ### Whole walks -/

/-- A walk makes no more steps than are left to it, and nothing else ends it before. -/
theorem walkFrom_within (hh : e.handlers = .usual) (hb : e.flow.build = e.flow)
    (hc : e.flow.relayGraph.isCyclic = false) (left : Nat) (w : Walk σ) :
    (e.walkFrom left w).2.steps ≤ w.steps + e.budget w ∧
      (e.budget w ≤ left →
        ∀ limit, (e.walkFrom left w).1 ≠ .failed (.defect (.tooManySteps limit))) := by
  have hpos := e.budget_pos w
  induction left generalizing w with
  | zero => exact ⟨Nat.le_add_right _ _, fun hle => absurd hle (by omega)⟩
  | succ left ih =>
    have hs := e.steps_step w
    rw [walkFrom_succ]
    cases hp : e.step w with
    | ended how v =>
      rw [hp] at hs
      have hcount : v.steps = w.steps + 1 := hs.steps_eq
      refine ⟨?_, fun _ => hs.patient hh⟩
      dsimp only
      omega
    | onward v =>
      rw [hp] at hs
      have hcount : v.steps = w.steps + 1 := hs.steps_eq
      have hlt := budget_lt hh hb hc hs
      obtain ⟨hle, hends⟩ := ih v (e.budget_pos v)
      refine ⟨?_, fun hleft => hends (by omega)⟩
      dsimp only
      omega

/-- A turn visits at most one node in each step. -/
theorem length_trail_turn (e : Setting σ) (s : Session) (text : String) (world : σ) :
    (e.turn s text world).2.trail.length ≤ (e.turn s text world).2.steps := by
  refine e.turn_induct s text world (fun w => w.trail.length ≤ w.steps) (fun w p hw hs => ?_)
    (Nat.le_refl 0)
  rw [hs.steps_eq]
  rcases hs.trail_eq with ht | ⟨n, -, ht⟩
  · rw [ht]
    omega
  · rw [ht, List.length_append, List.length_singleton]
    omega

/-- **A turn in a flow whose relays form no cycle ends by itself**, at the latest one step after it
could have visited each node once. -/
theorem steps_turn_le (hh : e.handlers = .usual) (hb : e.flow.build = e.flow)
    (hc : e.flow.relayGraph.isCyclic = false) (s : Session) (text : String) (world : σ) :
    (e.turn s text world).2.steps ≤ e.flow.nodes.length + 1 ∧
      (e.flow.nodes.length + 1 ≤ e.settings.maxSteps →
        ∀ limit, (e.turn s text world).1 ≠ .failed (.defect (.tooManySteps limit))) := by
  rw [turn_eq]
  have hbudget := e.budget_le (start (s.hear text e.now) text world)
  obtain ⟨hle, hends⟩ :=
    walkFrom_within hh hb hc e.settings.maxSteps (start (s.hear text e.now) text world)
  have hzero : (start (s.hear text e.now) text world).steps = 0 := rfl
  exact ⟨by omega, fun hmax => hends (by omega)⟩

end Setting

/-! ### Registered flows -/

namespace Registry

variable {σ : Type} {r r' : Registry} {f : Flow} {report : Report}

/-- **Turns in a registered flow without models and without a warning of cycles are short**, wherever
the session stands and whatever contacts and partners say. -/
theorem short_turn (hr : r.register f = .ok (report, r')) (hm : ∀ n ∈ f.nodes, n.kind ≠ .model)
    (hw : ⟨f.entry, Flow.cycleRemark⟩ ∉ report.warnings) (settings : Settings) (p : Partners σ)
    (now : Moment) (s : Session) (text : String) (world : σ) :
    let t := Setting.turn ⟨f.build, settings, .usual, p, now⟩ s text world
    t.2.trail.length ≤ f.nodes.length + 1 ∧ t.2.steps ≤ f.nodes.length + 1 ∧
      (f.nodes.length + 1 ≤ settings.maxSteps →
        ∀ limit, t.1 ≠ .failed (.defect (.tooManySteps limit))) := by
  obtain ⟨rfl, hv, -⟩ := register_eq_ok hr
  have hc : f.build.relayGraph.isCyclic = false := by
    rw [Flow.relayGraph_eq_passingGraph (f := f.build) hm]
    exact Flow.isCyclic_of_not_warned hv hw
  obtain ⟨hsteps, hends⟩ :=
    Setting.steps_turn_le (e := ⟨f.build, settings, .usual, p, now⟩) rfl rfl hc s text world
  exact ⟨Nat.le_trans (Setting.length_trail_turn _ s text world) hsteps, hsteps, hends⟩

end Registry

/-- A flow that asks for the age again until it is the right one. -/
def Flow.insistent : Flow :=
  { Flow.new "acme" "edad" "Edad" "inicio" with
    nodes := [
      { Node.of "inicio" .trigger with edges := [.toward "edad"] },
      { Node.of "edad" (.input (.named "edad")) with edges := [.toward "puerta"] },
      { Node.of "puerta" (.router ⟨some "edad"⟩) with
        edges := [.when "fin" "\x7b\x7bedad\x7d\x7d equals 18"] },
      .of "fin" (.message ⟨false⟩)] }

/-- A session that waits on a node of a flow. -/
def Session.waitingOn (f : Flow) (node : String) : Session :=
  { Session.start "s" "acme" "555" f.build 20 (idleMinutes 30) ⟨0, 0⟩ with
    current := node, awaiting := true }

set_option maxRecDepth 10000 in
/-- A wrong age leads back to the question, and the turn ends there. -/
theorem Registry.short_turn_of_insistent :
    let t := Setting.turn ⟨Flow.insistent.build, .usual, .usual, .absent, ⟨0, 0⟩⟩
      (.waitingOn .insistent "edad") "17" ()
    ∃ report r', Registry.register [] .insistent = .ok (report, r') ∧
      (∀ n ∈ Flow.insistent.nodes, n.kind ≠ .model) ∧
      ⟨Flow.insistent.entry, Flow.cycleRemark⟩ ∉ report.warnings ∧
      t.2.trail.map (·.node.id) = ["edad", "puerta", "edad"] ∧
      t.2.trail.length ≤ 5 ∧ t.2.steps ≤ 5 ∧
      (5 ≤ Settings.usual.maxSteps →
        ∀ limit, t.1 ≠ .failed (.defect (.tooManySteps limit))) := by
  have hr := register_of_isValid (f := .insistent) (by decide +kernel) []
  have hm : ∀ n ∈ Flow.insistent.nodes, n.kind ≠ .model := by decide
  have hw : ⟨Flow.insistent.entry, Flow.cycleRemark⟩ ∉ Flow.insistent.build.check.warnings := by
    decide +kernel
  exact ⟨_, _, hr, hm, hw, by decide +kernel, Registry.short_turn hr hm hw _ _ _ _ _ _⟩

end Dialogue
