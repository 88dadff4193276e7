import Dialogue.Flow.Check
import Dialogue.Proofs.Flow.Exploration
import Dialogue.Proofs.Node.Visits

/-!
# Nodes that lead on by themselves

A node that does not see the text of the contact either ends the turn, or leads on to another node. A
node that may lead on then is a relay: only relays can follow each other within a turn, and how long
they can do so is settled by the graph of relays.

* `Handlers.pauses_usual`: a node that is no relay ends the turn when it does not see the text.
* `Flow.graphOn`: the graph of some of the nodes of a flow. `Flow.relayGraph` is that of the relays;
  without models it is the graph that a check looks at.
* `Flow.reserve_lt`: when relays form no cycle, every arc from a relay leaves fewer relays ahead.
-/

namespace Dialogue

/-- Whether a node may lead on to another one although it does not see the text of the contact. A
model that has a text to say first says it, and waits, unless it classifies. -/
def Node.relays (n : Node) : Bool :=
  match n.task with
  | .trigger | .router _ | .action _ => true
  | .message m => !m.awaitReply
  | .input _ | .confirmation _ => false
  | .model m => m.role == .classifier || n.template.isNone

/-- A node that is no relay ends the turn when it does not see the text of the contact. -/
theorem Handlers.pauses_usual {c : Context} {n : Node} (hi : c.inbound = none)
    (hn : n.relays = false) :
    ∃ o, usual.visit c n = .ok o ∧ (o.next = .stay ∨ o.awaiting = true) := by
  have hwait : ∀ prompt, ∃ o, Visit.ok (.wait prompt) = .ok o ∧
      (o.next = .stay ∨ o.awaiting = true) :=
    fun prompt => ⟨_, rfl, .inl (Outcome.next_wait prompt)⟩
  rw [usual_visit]
  unfold Node.relays at hn
  cases ht : n.task with
  | trigger => simp [ht] at hn
  | router r => simp [ht] at hn
  | action a => simp [ht] at hn
  | input q =>
    dsimp only
    rw [Question.visit, hi]
    exact hwait _
  | confirmation q =>
    dsimp only
    rw [Confirmation.visit, hi]
    exact hwait _
  | message m =>
    have hm : m.awaitReply = true := by simpa [ht] using hn
    exact ⟨_, rfl, .inr hm⟩
  | model m =>
    have hm : m.role ≠ .classifier ∧ n.template.isSome = true := by
      simpa [ht, Option.isSome_iff_ne_none] using hn
    dsimp only
    rw [Model.visit, hi, hm.2]
    cases hr : m.role with
    | conversational => exact hwait _
    | extractor => exact hwait _
    | classifier => exact absurd hr hm.1

/-! ### The graph of some nodes -/

namespace Flow

/-- The graph of the nodes with some property: the arcs from them to each other. -/
def graphOn (p : Node → Bool) (f : Flow) : Graph :=
  let nodes := f.nodes.filter p
  let vertices := (nodes.map (·.id)).eraseDups
  { vertices, arcs := nodes.flatMap (arcsOf vertices) }

/-- The graph of the relays. -/
def relayGraph (f : Flow) : Graph := f.graphOn Node.relays

variable {f : Flow} {p q : Node → Bool} {n : Node} {id target : String}

theorem mem_vertices_graphOn :
    id ∈ (f.graphOn p).vertices ↔ ∃ n ∈ f.nodes, p n = true ∧ n.id = id := by
  simp [graphOn, and_assoc]

/-- The targets of a node are the targets of its arcs, as far as they are there. -/
theorem mem_arcsOf {vertices : List String} {a : Arc} (h : a ∈ arcsOf vertices n) :
    a.source = n.id ∧ a.target ∈ n.targets ∧ a.target ∈ vertices := by
  obtain ⟨hm, hv⟩ := List.mem_filter.1 h
  refine ⟨?_, ?_, by simpa using hv⟩
  · rcases List.mem_append.1 hm with hm | hm
    all_goals
      obtain ⟨_, -, rfl⟩ := List.mem_map.1 hm
      rfl
  · refine List.mem_append.2 ((List.mem_append.1 hm).imp (fun hm => ?_) fun hm => ?_)
    all_goals
      obtain ⟨x, hx, rfl⟩ := List.mem_map.1 hm
      exact List.mem_map.2 ⟨x, hx, rfl⟩

theorem exists_arcsOf {vertices : List String} (ht : target ∈ n.targets)
    (hv : target ∈ vertices) : ∃ a ∈ arcsOf vertices n, a.source = n.id ∧ a.target = target := by
  have hv : vertices.contains target = true := by simpa using hv
  rcases List.mem_append.1 ht with ht | ht
  · obtain ⟨edge, he, rfl⟩ := List.mem_map.1 ht
    exact ⟨_, List.mem_filter.2 ⟨List.mem_append_left _ (List.mem_map.2 ⟨edge, he, rfl⟩), hv⟩,
      rfl, rfl⟩
  · obtain ⟨named, hm, rfl⟩ := List.mem_map.1 ht
    exact ⟨_, List.mem_filter.2 ⟨List.mem_append_right _ (List.mem_map.2 ⟨named, hm, rfl⟩), hv⟩,
      rfl, rfl⟩

/-- In a graph with the arcs of some nodes, the successors of a name are the targets of the nodes of
that name, as far as they are there. -/
theorem mem_successors_arcs {vertices : List String} {nodes : List Node} :
    target ∈ Graph.successors ⟨vertices, nodes.flatMap (arcsOf vertices)⟩ id ↔
      target ∈ vertices ∧ ∃ n ∈ nodes, n.id = id ∧ target ∈ n.targets := by
  have hs : target ∈ Graph.successors ⟨vertices, nodes.flatMap (arcsOf vertices)⟩ id ↔
      ∃ n ∈ nodes, ∃ a ∈ arcsOf vertices n, a.source = id ∧ a.target = target := by
    simp only [Graph.successors, List.mem_map, List.mem_filter, List.mem_flatMap, beq_iff_eq]
    constructor
    · rintro ⟨a, ⟨⟨n, hn, ha⟩, hsource⟩, htarget⟩
      exact ⟨n, hn, a, ha, hsource, htarget⟩
    · rintro ⟨n, hn, a, ha, hsource, htarget⟩
      exact ⟨a, ⟨⟨n, hn, ha⟩, hsource⟩, htarget⟩
  rw [hs]
  constructor
  · rintro ⟨n, hn, a, ha, rfl, rfl⟩
    obtain ⟨hsource, ht, hv⟩ := mem_arcsOf ha
    exact ⟨hv, n, hn, hsource.symm, ht⟩
  · rintro ⟨hv, n, hn, rfl, ht⟩
    obtain ⟨a, ha, hsource, htarget⟩ := exists_arcsOf ht hv
    exact ⟨n, hn, a, ha, hsource, htarget⟩

theorem mem_successors_graphOn :
    target ∈ (f.graphOn p).successors id ↔
      target ∈ (f.graphOn p).vertices ∧ ∃ n ∈ f.nodes, p n = true ∧ n.id = id ∧
        target ∈ n.targets := by
  refine mem_successors_arcs.trans (and_congr_right fun _ => ?_)
  simp only [List.mem_filter, and_assoc]

/-- Properties that agree on the nodes of a flow give the same graph. -/
theorem graphOn_congr (h : ∀ n ∈ f.nodes, p n = q n) : f.graphOn p = f.graphOn q := by
  unfold graphOn
  rw [List.filter_congr h]

/-- Without models, the relays are the nodes that never wait. -/
theorem relayGraph_eq_passingGraph (h : ∀ n ∈ f.nodes, n.kind ≠ .model) :
    f.relayGraph = f.passingGraph := by
  show f.graphOn Node.relays = f.graphOn passesThrough
  refine graphOn_congr fun n hn => ?_
  have hk := h n hn
  unfold Node.relays passesThrough
  cases ht : n.task with
  | model m => exact absurd (by rw [Node.kind, ht]; rfl) hk
  | trigger => rfl
  | router r => rfl
  | action a => rfl
  | message m => rfl
  | input q => rfl
  | confirmation q => rfl

/-! ### Relays ahead -/

/-- How many relays there may be ahead from a node on, itself included. -/
def reserve (f : Flow) (id : String) : Nat :=
  if id ∈ f.relayGraph.vertices then (f.relayGraph.explore [id]).length else 0

theorem mem_vertices_relayGraph (hn : n ∈ f.nodes) (hr : n.relays = true) :
    n.id ∈ f.relayGraph.vertices :=
  mem_vertices_graphOn.2 ⟨n, hn, hr, rfl⟩

/-- When relays form no cycle, every arc from a relay leaves fewer relays ahead. -/
theorem reserve_lt (hc : f.relayGraph.isCyclic = false) (hn : n ∈ f.nodes) (hr : n.relays = true)
    (ht : target ∈ n.targets) : f.reserve target < f.reserve n.id := by
  have hid := mem_vertices_relayGraph hn hr
  unfold reserve
  rw [if_pos hid]
  by_cases hv : target ∈ f.relayGraph.vertices
  · have hcycle : f.relayGraph.isOnCycle n.id = false := by
      simpa using (List.any_eq_false.1 hc) n.id hid
    rw [if_pos hv]
    exact Graph.length_explore_lt hcycle (mem_successors_graphOn.2 ⟨hv, n, hn, hr, rfl, ht⟩)
  · have hself : n.id ∈ f.relayGraph.explore [n.id] :=
      Graph.mem_explore.2 ⟨n.id, List.mem_singleton_self _, .refl _⟩
    rw [if_neg hv]
    exact List.length_pos_of_mem hself

/-- There are never more relays ahead than there are relays. -/
theorem reserve_le (f : Flow) (id : String) :
    f.reserve id ≤ (f.nodes.filter Node.relays).length := by
  unfold reserve
  split
  · rename_i hid
    have hsub : f.relayGraph.explore [id] ⊆ (f.nodes.filter Node.relays).map (·.id) := by
      intro v hv
      obtain ⟨u, hu, hr⟩ := Graph.mem_explore.1 hv
      rw [List.mem_singleton.1 hu] at hr
      have hm : v ∈ f.relayGraph.vertices :=
        hr.mem_of_closed hid fun _ _ _ ht => (mem_successors_graphOn.1 ht).1
      obtain ⟨n, hn, hp, rfl⟩ := mem_vertices_graphOn.1 hm
      exact List.mem_map.2 ⟨n, List.mem_filter.2 ⟨hn, hp⟩, rfl⟩
    have hle := ((Graph.nodup_explore (g := f.relayGraph) [id]).subperm hsub).length_le
    rwa [List.length_map] at hle
  · exact Nat.zero_le _

theorem reserve_le_length (f : Flow) (id : String) : f.reserve id ≤ f.nodes.length :=
  Nat.le_trans (f.reserve_le id) (List.length_filter_le _ _)

end Flow

end Dialogue
