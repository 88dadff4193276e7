import Dialogue.Proofs.Flow.Routes
import Dialogue.Proofs.Turn.Faults

/-!
# The course of a conversation

A conversation in a flow begins at the entry, and each step of its turns goes along an arc of the
graph. So it never comes to a node that no path from the entry leads to, however many turns it has.

* `Session.Follows`: the sessions that turns in a flow make of a session.
* `Setting.OnRoute.step`: a step stays on a route from where the walk has come.
* `Registry.keepsRoutes_of_follows`: all that the warnings on a registered flow promise of its turns.
-/

namespace Dialogue

/-- The sessions that turns in a flow make of a session, one turn after the other. Each turn has a
time, settings and partners of its own. -/
inductive Session.Follows (f : Flow) (s : Session) : Session → Prop
  | refl : Follows f s s
  | turn {t : Session} (h : Follows f s t) {σ : Type} (settings : Settings) (p : Partners σ)
    (now : Moment) (text : String) (world : σ)
    (hw : (Setting.turn ⟨f, settings, .usual, p, now⟩ t text world).1 = .awaiting) :
    Follows f s (Setting.turn ⟨f, settings, .usual, p, now⟩ t text world).2.session

namespace Setting

variable {σ : Type} {e : Setting σ} {w : Walk σ} {p : Progress σ} {start : String}

/-- After a step the walk stands where it stood, or at a target of the node there. -/
theorem Steps.current (hh : e.handlers = .usual) (h : e.Steps w p) :
    p.walk.session.current = w.session.current ∨
      ∃ n, e.flow.node? w.session.current = some n ∧ p.walk.session.current ∈ n.targets ∧
        (e.flow.node? p.walk.session.current).isSome := by
  have habsorbed : ∀ n o, (e.absorbed w n o).session.current = w.session.current := fun n o =>
    Session.current_apply w.session n.id o e.now
  cases h with
  | lost _ => exact .inl rfl
  | broken _ _ => exact .inl rfl
  | stays _ _ => exact .inl rfl
  | finishes _ _ => exact .inl (habsorbed _ _)
  | strays _ _ _ => exact .inl (habsorbed _ _)
  | parks hv ho ht _ => exact .inr ⟨_, hv.node, mem_targets_of_leadsTo hh hv ho, ht⟩
  | moves hv ho ht _ => exact .inr ⟨_, hv.node, mem_targets_of_leadsTo hh hv ho, ht⟩

/-- A walk is on a route when it has come from a vertex along arcs, and so have all its stops. -/
structure OnRoute (e : Setting σ) (start : String) (w : Walk σ) : Prop where
  current : e.flow.graph.Reaches start w.session.current
  stops : ∀ stop ∈ w.trail, e.flow.graph.Reaches start stop.node.id

/-- A step stays on a route. -/
theorem OnRoute.step (hh : e.handlers = .usual) (hb : e.flow.build = e.flow)
    (hw : e.OnRoute start w) (h : e.Steps w p) : e.OnRoute start p.walk := by
  refine ⟨?_, fun stop hs => ?_⟩
  · rcases h.current hh with hc | ⟨n, hn, ht, htarget⟩
    · rw [hc]
      exact hw.current
    · rw [← hb] at htarget
      have hv := Flow.isSome_node?_build.1 htarget
      have ha : p.walk.session.current ∈ e.flow.build.graph.successors w.session.current :=
        Flow.mem_successors_build.2
          ⟨hv, n, Flow.mem_of_node? hn, Flow.id_of_node? hb hn, ht⟩
      rw [hb] at ha
      exact hw.current.trans (.step ha (.refl _))
  · rcases h.mem_trail hs with hs | ⟨-, hn⟩
    · exact hw.stops stop hs
    · rw [Flow.id_of_node? hb hn]
      exact hw.current

/-- **A turn stays on the route on which its session stands.** -/
theorem onRoute_turn (hh : e.handlers = .usual) (hb : e.flow.build = e.flow) {s : Session}
    (hs : e.flow.graph.Reaches start s.current) (text : String) (world : σ) :
    e.OnRoute start (e.turn s text world).2 :=
  e.turn_induct s text world (e.OnRoute start) (fun _ _ hw h => hw.step hh hb h)
    ⟨hs, fun _ hm => absurd hm List.not_mem_nil⟩

end Setting

/-- However many turns a session has, it stays on its route. -/
theorem Session.Follows.reaches {f : Flow} (hb : f.build = f) {s t : Session} {start : String}
    (h : s.Follows f t) (hs : f.graph.Reaches start s.current) :
    f.graph.Reaches start t.current := by
  induction h with
  | refl => exact hs
  | turn _ settings p now text world _ ih =>
    exact (Setting.onRoute_turn (e := ⟨f, settings, .usual, p, now⟩) rfl hb ih text world).current

/-! ### Registered flows -/

/-- What the warnings of a report promise of a session of the flow and of its next turn. The last
three are on the report alone: which nodes and edges are warned of, and that an edge that is warned
of is not chosen. -/
structure Flow.KeepsRoutes (f : Flow) (report : Report) (s : Session) : Prop where
  stands : f.graph.Reaches f.entry s.current
  visits : ∀ {σ : Type} (settings : Settings) (p : Partners σ) (now : Moment) (text : String)
    (world : σ), ∀ stop ∈ (Setting.turn ⟨f, settings, .usual, p, now⟩ s text world).2.trail,
      f.graph.Reaches f.entry stop.node.id ∧
        ⟨stop.node.id, Flow.unreachableRemark⟩ ∉ report.warnings
  unreachable : ∀ id, ⟨id, Flow.unreachableRemark⟩ ∈ report.warnings ↔
    (f.node? id).isSome ∧ ¬f.graph.Reaches f.entry id
  untaken : ∀ n ∈ f.nodes, ∀ target, ⟨n.id, Flow.untakenRemark target⟩ ∈ report.warnings ↔
    ∃ (i : Nat) (edge : Edge), n.edges[i]? = some edge ∧ edge.target = target ∧
      Edge.Behind n.edges i
  unchosen : ∀ n ∈ f.nodes, ∀ i, Edge.Behind n.edges i → ∀ scope,
    Edge.choose scope n.edges = (Edge.chosenAt? scope n.edges).bind (n.edges[·]?) ∧
      Edge.chosenAt? scope n.edges ≠ some i

namespace Registry

variable {r r' : Registry} {f : Flow} {report : Report}

/-- **The warnings on a registered flow hold of every run**: all turns of a session that has begun in
the flow keep to what can be reached from the entry, and no edge that is warned of is chosen. -/
theorem keepsRoutes_of_follows (hr : r.register f = .ok (report, r'))
    {id tenant contact : String} {window : Nat} {idle : Span} {begun : Moment} {s : Session}
    (hs : (Session.start id tenant contact f.build window idle begun).Follows f.build s) :
    f.build.KeepsRoutes report s := by
  obtain ⟨rfl, hv, -⟩ := register_eq_ok hr
  have hf := Flow.checked_of_isValid hv
  have hstands : f.build.graph.Reaches f.build.entry s.current := hs.reaches rfl (.refl _)
  have hunreachable : ∀ id, ⟨id, Flow.unreachableRemark⟩ ∈ f.build.check.warnings ↔
      (f.build.node? id).isSome ∧ ¬f.build.graph.Reaches f.build.entry id := by
    intro id
    rw [Flow.isSome_node?_build]
    exact Flow.mem_warnings_unreachable hv
  refine ⟨hstands, fun settings p now text world stop hm => ?_, hunreachable,
    fun n hn target => ?_, fun n _ i hi scope =>
      ⟨Edge.choose_eq scope n.edges, Edge.chosenAt?_ne hi scope⟩⟩
  · have hreach := (Setting.onRoute_turn (e := ⟨f.build, settings, .usual, p, now⟩) rfl rfl hstands
      text world).stops stop hm
    exact ⟨hreach, fun hw => ((hunreachable _).1 hw).2 hreach⟩
  · rw [Flow.mem_warnings_untaken hv]
    constructor
    · rintro ⟨m, hm, hid, hedge⟩
      obtain rfl : m = n := List.inj_on_of_nodup_map hf.nodup hm hn hid
      exact hedge
    · exact fun hedge => ⟨n, hn, rfl, hedge⟩

end Registry

/-- A flow with an edge that is never taken and a node that is never reached. -/
def Flow.pier : Flow :=
  { Flow.new "acme" "muelle" "Muelle" "inicio" with
    nodes := [
      { Node.of "inicio" .trigger with edges := [.toward "nombre", .toward "adios"] },
      { Node.of "nombre" (.input (.named "nombre")) with edges := [.toward "adios"] },
      .of "adios" (.message ⟨false⟩),
      { Node.of "isla" (.message ⟨true⟩) with edges := [.toward "isla"] }] }

/-- The session that a first turn in the flow leaves behind. -/
def Session.moored : Session :=
  (Setting.turn ⟨Flow.pier.build, .usual, .usual, .absent, ⟨0, 0⟩⟩
    (.start "s" "acme" "555" Flow.pier.build 20 (idleMinutes 30) ⟨0, 0⟩) "hola" ()).2.session

set_option maxRecDepth 10000 in
/-- The name is asked for on the way, and the island is left alone. -/
theorem Registry.keepsRoutes_of_follows_pier :
    ∃ report r', Registry.register [] .pier = .ok (report, r') ∧
      (Session.start "s" "acme" "555" Flow.pier.build 20 (idleMinutes 30) ⟨0, 0⟩).Follows
        Flow.pier.build .moored ∧
      Session.moored.current = "nombre" ∧
      report.warnings =
        [⟨"inicio", Flow.untakenRemark "adios"⟩, ⟨"isla", Flow.unreachableRemark⟩] ∧
      Flow.pier.build.KeepsRoutes report .moored := by
  have hr := register_of_isValid (f := .pier) (by decide +kernel) []
  have hs : (Session.start "s" "acme" "555" Flow.pier.build 20 (idleMinutes 30) ⟨0, 0⟩).Follows
      Flow.pier.build .moored := .turn .refl _ _ _ _ _ (by decide +kernel)
  exact ⟨_, _, hr, hs, by decide +kernel, by decide +kernel, Registry.keepsRoutes_of_follows hr hs⟩

end Dialogue
