import Dialogue.Proofs.Turn.Length

/-!
# How often a turn asks the model

A node that has not seen the text of the contact asks the model only when it is a relay. So a node
asks twice in a turn only when relays lead from it back to itself, whatever a check says of cycles:
a check takes all models for nodes that wait.

* `Handlers.relays_of_request`: a node that asks a partner without having seen the text is a relay.
* `Setting.asks_once`: off all cycles of relays, a node asks the model at most once in a turn.
-/

namespace Dialogue

/-- The node that has asked the model at a stop. -/
def Stop.asker? (stop : Stop) : Option String :=
  match stop.request with
  | some (.ask _) => some stop.node.id
  | _ => none

/-- The nodes that have asked the model, once for each time. -/
def askers (trail : List Stop) : List String := trail.filterMap Stop.asker?

theorem askers_append (trail : List Stop) (stop : Stop) :
    askers (trail ++ [stop]) = askers trail ++ stop.asker?.toList := by
  rw [askers, List.filterMap_append]
  rfl

/-- A node that asks a partner without having seen the text is a relay. -/
theorem Handlers.relays_of_request {c : Context} {n : Node} (hi : c.inbound = none)
    (hr : (usual.visit c n).request?.isSome) : n.relays = true := by
  by_contra hn
  obtain ⟨o, hvisit, -⟩ := pauses_usual hi (n := n) (by simpa using hn)
  rw [hvisit] at hr
  cases hr

/-- Whether a flow finds a relay under a name. -/
def Flow.RelaysAt (f : Flow) (id : String) : Prop := ∃ n, f.node? id = some n ∧ n.relays = true

theorem Flow.RelaysAt.mem_vertices {f : Flow} (hb : f.build = f) {id : String}
    (h : f.RelaysAt id) : id ∈ f.relayGraph.vertices := by
  obtain ⟨n, hn, hr⟩ := h
  rw [← Flow.id_of_node? hb hn]
  exact mem_vertices_relayGraph (mem_of_node? hn) hr

namespace Setting

variable {σ : Type} {e : Setting σ} {w v : Walk σ} {n : Node} {id : String}

/-- The node that asks at a stop is the current one, and a relay unless it has seen the text. -/
theorem asker_stopAt (hh : e.handlers = .usual) (hb : e.flow.build = e.flow)
    (hn : e.flow.node? w.session.current = some n) (ha : (e.stopAt w n).asker? = some id) :
    id = w.session.current ∧ (w.inbound = none → n.relays = true) := by
  unfold Stop.asker? at ha
  split at ha
  · rename_i r hreq
    cases ha
    refine ⟨Flow.id_of_node? hb hn, fun hi => Handlers.relays_of_request (c := e.context w) hi ?_⟩
    rw [stopAt, hh] at hreq
    rw [show (Handlers.usual.visit (e.context w) n).request? = _ from hreq]
    rfl
  · cases ha

/-- What is known of a walk once a node has asked the model: nobody will see the text any more, and
among relays the walk has come from that node along at least one arc. -/
structure Departed (e : Setting σ) (id : String) (w : Walk σ) : Prop where
  inbound : w.inbound = none
  reached : e.flow.RelaysAt id → e.flow.RelaysAt w.session.current →
    ∃ u ∈ e.flow.relayGraph.successors id, e.flow.relayGraph.Reaches u w.session.current

/-- A step from a relay among relays follows an arc of their graph. -/
theorem mem_successors_of_steps (hh : e.handlers = .usual) (hb : e.flow.build = e.flow)
    (h : e.Steps w (.onward v)) (hw : e.flow.RelaysAt w.session.current)
    (hv : e.flow.RelaysAt v.session.current) :
    v.session.current ∈ e.flow.relayGraph.successors w.session.current := by
  obtain ⟨n, hn, ht, -⟩ := h.relayed hh
  obtain ⟨m, hm, hr⟩ := hw
  cases hn.symm.trans hm
  exact Flow.mem_successors_graphOn.2
    ⟨hv.mem_vertices hb, n, Flow.mem_of_node? hn, hr, Flow.id_of_node? hb hn, ht⟩

/-- What is known since a node has asked stays known, and becomes known when the current one asks. -/
theorem Departed.step (hh : e.handlers = .usual) (hb : e.flow.build = e.flow)
    (h : e.Steps w (.onward v)) (hw : id = w.session.current ∨ e.Departed id w) :
    e.Departed id v := by
  refine ⟨h.inbound_onward, fun hid hv => ?_⟩
  rcases hw with rfl | hw
  · exact ⟨_, mem_successors_of_steps hh hb h hid hv, .refl _⟩
  · obtain ⟨n, hn, -, hr⟩ := h.relayed hh
    have hc : e.flow.RelaysAt w.session.current := ⟨n, hn, hr hw.inbound⟩
    obtain ⟨u, hu, hreach⟩ := hw.reached hid hc
    exact ⟨u, hu, hreach.trans (.step (mem_successors_of_steps hh hb h hc hv) (.refl _))⟩

/-- A node off all cycles of relays that has asked does not ask again. -/
theorem Departed.asker_ne (hh : e.handlers = .usual) (hb : e.flow.build = e.flow)
    (hc : e.flow.relayGraph.isOnCycle id = false) (hw : e.Departed id w)
    (hn : e.flow.node? w.session.current = some n) : (e.stopAt w n).asker? ≠ some id := by
  intro ha
  obtain ⟨rfl, hr⟩ := asker_stopAt hh hb hn ha
  have hid : e.flow.RelaysAt w.session.current := ⟨n, hn, hr hw.inbound⟩
  obtain ⟨u, hu, hreach⟩ := hw.reached hid hid
  rw [Graph.isOnCycle_iff.2 ⟨u, hu, hreach⟩] at hc
  cases hc

/-- A node that has asked at most once so far is known to have departed if it has. -/
structure AskedOnce (e : Setting σ) (id : String) (w : Walk σ) : Prop where
  count : (askers w.trail).count id ≤ 1
  departed : id ∈ askers w.trail → e.Departed id w

/-- No step makes a node off all cycles of relays ask twice; when it has asked afterwards, it has
done so before, or it is the node from which the step leads. -/
theorem AskedOnce.step (hh : e.handlers = .usual) (hb : e.flow.build = e.flow)
    (hc : e.flow.relayGraph.isOnCycle id = false) (hw : e.AskedOnce id w) {p : Progress σ}
    (h : e.Steps w p) :
    (askers p.walk.trail).count id ≤ 1 ∧
      (id ∈ askers p.walk.trail → id = w.session.current ∨ e.Departed id w) := by
  rcases h.trail_eq with ht | ⟨n, hn, ht⟩
  · rw [ht]
    exact ⟨hw.count, fun hm => .inr (hw.departed hm)⟩
  · rw [ht, askers_append, List.count_append]
    by_cases ha : (e.stopAt w n).asker? = some id
    · have hnew : id ∉ askers w.trail := fun hm => (hw.departed hm).asker_ne hh hb hc hn ha
      rw [List.count_eq_zero.2 hnew, ha]
      exact ⟨by simp, fun _ => .inl (asker_stopAt hh hb hn ha).1⟩
    · have hother : id ∉ (e.stopAt w n).asker?.toList := by simpa using ha
      rw [List.count_eq_zero.2 hother]
      exact ⟨hw.count, fun hm => .inr (hw.departed ((List.mem_append.1 hm).resolve_right hother))⟩

/-- **Off all cycles of relays, a node asks the model at most once in a turn**, wherever the session
stands and whatever contacts and partners say. -/
theorem asks_once (hh : e.handlers = .usual) (hb : e.flow.build = e.flow)
    (hc : e.flow.relayGraph.isOnCycle id = false) (s : Session) (text : String) (world : σ) :
    (askers (e.turn s text world).2.trail).count id ≤ 1 := by
  rw [turn_eq]
  refine walkFrom_induct (e := e) (e.AskedOnce id) (fun _ w => (askers w.trail).count id ≤ 1)
    ?_ ?_ (fun w hw => hw.count) _ ⟨Nat.zero_le _, fun hm => absurd hm List.not_mem_nil⟩
  · intro w v hw hs
    obtain ⟨hcount, hfrom⟩ := hw.step hh hb hc hs
    exact ⟨hcount, fun hm => .step hh hb hs (hfrom hm)⟩
  · exact fun w how v hw hs => (hw.step hh hb hc hs).1

end Setting

/-- A flow in which a model sorts what contacts want; what is no purchase goes elsewhere. -/
def Flow.sorting (elsewhere : String) (more : List Node) : Flow :=
  { Flow.new "acme" "soporte" "Soporte" "inicio" with
    triggers := ⟨[], 0, .always⟩
    nodes := [
      { Node.of "inicio" .trigger with edges := [.toward "motivo"] },
      { Node.of "motivo" (.model { Model.inRole .classifier with labels := ["queja", "compra"] }) with
        edges := [.toward "ruta"] },
      { Node.of "ruta" (.router ⟨some elsewhere⟩) with
        edges := [.when "venta" "\x7b\x7bintent\x7d\x7d equals compra"] },
      .of "venta" (.message ⟨false⟩)] ++ more }

/-- A model that takes everything for a complaint. -/
def Partners.complaint : Partners Unit :=
  ⟨fun _ w => (.error .noModelKey, w),
    fun _ w => (.ok ⟨"\x7b\"label\": \"queja\"\x7d", default, 1⟩, w)⟩

/-- A setting of turns in a flow with the model that takes everything for a complaint. -/
def Setting.complaint (f : Flow) : Setting Unit :=
  ⟨f.build, { Settings.usual with maxSteps := 6 }, .usual, .complaint, ⟨0, 0⟩⟩

set_option maxRecDepth 10000 in
/-- When complaints are asked for details, the model sorts what the contact says once and waits. -/
theorem Setting.asks_once_of_details :
    let f := Flow.sorting "detalle"
      [{ Node.of "detalle" (.input (.named "detalle")) with edges := [.toward "motivo"] }]
    let t := (Setting.complaint f).turn (.waitingOn f "detalle") "no funciona" ()
    f.build.relayGraph.isOnCycle "motivo" = false ∧ askers t.2.trail = ["motivo"] ∧
      t.2.session.current = "detalle" ∧ (askers t.2.trail).count "motivo" ≤ 1 :=
  ⟨by decide +kernel, by decide +kernel, by decide +kernel,
    Setting.asks_once rfl rfl (by decide +kernel) _ _ _⟩

set_option maxRecDepth 10000 in
/-- When complaints go back to the model, a check finds nothing to warn of, and the model sorts the
same text until there are too many steps. -/
theorem Registry.not_asks_once_of_complaint :
    let f := Flow.sorting "motivo" []
    let s := Session.start "s" "acme" "555" f.build 20 (idleMinutes 30) ⟨0, 0⟩
    let t := (Setting.complaint f).turn s "no funciona" ()
    (∃ r', Registry.register [] f = .ok (⟨[], []⟩, r')) ∧
      f.build.relayGraph.isOnCycle "motivo" = true ∧
      askers t.2.trail = ["motivo", "motivo", "motivo"] ∧
      t.1 = .failed (.defect (.tooManySteps 6)) := by
  have hr := register_of_isValid (f := Flow.sorting "motivo" []) (by decide +kernel) []
  have hsilent : (Flow.sorting "motivo" []).build.check = ⟨[], []⟩ := by decide +kernel
  rw [hsilent] at hr
  exact ⟨⟨_, hr⟩, by decide +kernel, by decide +kernel, by decide +kernel⟩

end Dialogue
