import Dialogue.Proofs.Flow.Structure

/-!
# Flows put together by calls

A flow is put together by adding nodes and other things in any order, and it may be built in between.
The positions noted then belong to the nodes that were there, while the list of nodes goes on growing.
Since nodes are only ever added at the end, the first node of a name stays where it is, and a name
without a position is sought in the whole list.

* `Flow.Noted`: the positions are those of some of the first nodes; every call keeps this.
* `Flow.Noted.node?_eq`: a flow with such positions finds the first node of a name.
* `Flow.vertices_build_eq`: the vertices of the graph are the names in order of first occurrence.
* `Flow.indexed_assemble`: what holds of the nodes and the graph of a flow after any calls.
-/

namespace Dialogue

/-- A call by which a flow is put together. -/
inductive FlowCall where
  | addNode (n : Node)
  | withKeywords (keywords : List String) (priority : Int)
  | withConstant (name : String) (value : Value)
  | withApi (api : Api)
  | build

/-- The node that a call adds. -/
def FlowCall.node? : FlowCall → Option Node
  | addNode n => some n
  | _ => none

/-- The arcs that a node declares: along its edges, then by its settings. -/
def Node.declared (n : Node) : List Arc :=
  n.edges.map (fun e => ⟨n.id, e.target, .edge⟩)
    ++ n.task.outcomeTargets.map fun (name, target) => ⟨n.id, target, .outcome name⟩

/-- A graph depicts nodes when it shows each of their names once, and whatever leads from one of them
to another. -/
structure Graph.Depicts (g : Graph) (nodes : List Node) : Prop where
  nodup : g.vertices.Nodup
  names : ∀ id, id ∈ g.vertices ↔ ∃ n ∈ nodes, n.id = id
  /-- The names stand in the order of their first occurrence. -/
  order : g.vertices = (nodes.map (·.id)).eraseDups
  /-- Each declaration is an arc of its own, in its place, as far as its target is there. -/
  arcs : g.arcs = (nodes.flatMap Node.declared).filter fun a => nodes.any (·.id == a.target)

namespace Flow

variable {f : Flow} {id : String}

/-- A flow after one call. -/
def perform (f : Flow) : FlowCall → Flow
  | .addNode n => f.addNode n
  | .withKeywords keywords priority => f.withKeywords keywords priority
  | .withConstant name value => f.withConstant name value
  | .withApi api => f.withApi api
  | .build => f.build

/-- A flow after some calls. -/
def assemble (f : Flow) (calls : List FlowCall) : Flow := calls.foldl perform f

theorem nodes_perform (f : Flow) (c : FlowCall) :
    (f.perform c).nodes = f.nodes ++ c.node?.toList := by
  cases c with
  | addNode n => rfl
  | _ => exact (List.append_nil _).symm

/-- The nodes of a flow are those that were added, in their order. -/
theorem nodes_assemble (f : Flow) (calls : List FlowCall) :
    (f.assemble calls).nodes = f.nodes ++ calls.filterMap FlowCall.node? := by
  induction calls generalizing f with
  | nil => exact (List.append_nil _).symm
  | cons c calls ih =>
    rw [assemble, List.foldl_cons, ← assemble, ih, nodes_perform, List.append_assoc]
    cases hc : c.node? with
    | none => rw [List.filterMap_cons_none hc]; rfl
    | some n => rw [List.filterMap_cons_some hc]; rfl

/-! ### Positions -/

/-- The positions of a flow are those of the nodes that were there when it was last built, which are
its first nodes. -/
def Noted (f : Flow) : Prop :=
  ∃ built, built <+: f.nodes ∧ f.positions = positionsFrom 0 [] built

theorem noted_new (tenant id name entry : String) : (new tenant id name entry).Noted :=
  ⟨[], List.nil_prefix, rfl⟩

theorem noted_build (f : Flow) : f.build.Noted := ⟨f.nodes, List.prefix_rfl, rfl⟩

/-- Every call keeps the positions of a flow those of its first nodes. -/
theorem Noted.perform (h : f.Noted) (c : FlowCall) : (f.perform c).Noted := by
  obtain ⟨built, hb, hp⟩ := h
  have hnodes : built <+: (f.perform c).nodes :=
    nodes_perform f c ▸ hb.trans (List.prefix_append _ _)
  cases c with
  | build => exact noted_build f
  | _ => exact ⟨built, hnodes, hp⟩

theorem Noted.assemble (h : f.Noted) (calls : List FlowCall) : (f.assemble calls).Noted := by
  induction calls generalizing f with
  | nil => exact h
  | cons c calls ih => exact ih (h.perform c)

/-- A position that is noted for a name is that of the first node of this name. -/
theorem Noted.getElem?_position (h : f.Noted) {entry : String × Nat}
    (hf : f.positions.find? (·.1 == id) = some entry) :
    f.nodes[entry.2]? = f.nodes.find? (·.id == id) := by
  obtain ⟨built, ⟨later, hnodes⟩, hp⟩ := h
  rw [hp] at hf
  have hfirst := find?_positionsFrom built (i := 0) (List.not_mem_nil (a := id))
  rw [hf] at hfirst
  have hid : entry.1 = id := by simpa using List.find?_some hf
  obtain ⟨n, hn, hname⟩ := (mem_positionsFrom.1
    (List.mem_map.2 ⟨entry, List.mem_of_find?_eq_some hf, hid⟩)).2
  have hsome : (built.find? (·.id == id)).isSome :=
    List.find?_isSome.2 ⟨n, hn, beq_iff_eq.2 hname⟩
  obtain ⟨m, hm⟩ := Option.isSome_iff_exists.1 hsome
  have hget : built[entry.2]? = some m := hfirst.2.trans hm
  -- the node stands in the part that was built, and what was added later does not matter
  rw [← hnodes, List.find?_append, hm,
    List.getElem?_append_left (List.getElem?_eq_some_iff.1 hget).1, hget]
  rfl

/-- A flow finds the first node of a name, by a position or by looking through the list. -/
theorem Noted.node?_eq (h : f.Noted) (id : String) : f.node? id = f.nodes.find? (·.id == id) := by
  unfold node?
  split
  · rename_i hf
    exact h.getElem?_position hf
  · rfl

/-! ### The graph -/

/-- The names with positions are those that were not known before, without repetitions. -/
theorem names_positionsFrom (nodes : List Node) (i : Nat) (known : List String) :
    (positionsFrom i known nodes).map (·.1) =
      ((nodes.map (·.id)).filter fun id => !known.contains id).eraseDups := by
  induction nodes generalizing i known with
  | nil => rfl
  | cons n nodes ih =>
    rw [positionsFrom, List.map_cons]
    by_cases hk : known.contains n.id
    · rw [if_pos hk, ih, List.filter_cons_of_neg (by simpa using hk)]
    · rw [if_neg hk, List.map_cons, ih, List.filter_cons_of_pos (by simpa using hk),
        List.eraseDups_cons, List.filter_filter]
      refine congrArg (n.id :: ·.eraseDups) (List.filter_congr fun id _ => ?_)
      rw [List.contains_cons, Bool.not_or]

/-- The vertices of the graph are the names of the nodes in order of first occurrence. -/
theorem vertices_build_eq (f : Flow) :
    f.build.graph.vertices = (f.nodes.map (·.id)).eraseDups := by
  have hall : (f.nodes.map (·.id)).filter (fun id => !([] : List String).contains id) =
      f.nodes.map (·.id) := List.filter_eq_self.2 fun _ _ => rfl
  exact (names_positionsFrom f.nodes 0 []).trans (congrArg List.eraseDups hall)

/-- Building settles a graph of the nodes as they are. -/
theorem depicts_build (f : Flow) : f.build.graph.Depicts f.nodes where
  nodup := nodup_positionsFrom f.nodes 0 []
  names _ := mem_vertices_build
  order := vertices_build_eq f
  arcs := by
    show f.nodes.flatMap (arcsOf f.build.graph.vertices) = _
    rw [List.filter_flatMap]
    refine congrArg (f.nodes.flatMap ·) (funext fun n => List.filter_congr fun a _ => ?_)
    rw [Bool.eq_iff_iff, List.contains_iff_mem, mem_vertices_build]
    simp

theorem build_build (f : Flow) : f.build.build = f.build := rfl

/-- What a flow knows of its nodes: it finds the first one of each name, by the position noted for
the name or else in the list; and building it gives a graph of all of them, once and for all. -/
structure Indexed (f : Flow) : Prop where
  first : ∀ id, f.node? id = f.nodes.find? (·.id == id)
  position : ∀ id entry, f.positions.find? (·.1 == id) = some entry →
    f.nodes[entry.2]? = f.nodes.find? (·.id == id)
  depicts : f.build.graph.Depicts f.build.nodes
  settled : f.build.build = f.build

/-- **Flows put together by calls find their nodes**: after any calls in any order a flow has the
nodes that were added, finds the first of each name, and shows all of them in its graph when built. -/
theorem indexed_assemble (tenant id name entry : String) (calls : List FlowCall) :
    ((new tenant id name entry).assemble calls).nodes = calls.filterMap FlowCall.node? ∧
      ((new tenant id name entry).assemble calls).Indexed := by
  have hnoted := (noted_new tenant id name entry).assemble calls
  refine ⟨nodes_assemble _ calls, ?_⟩
  exact {
    first := hnoted.node?_eq
    position := fun id entry hf => hnoted.getElem?_position hf
    depicts := depicts_build _
    settled := build_build _ }

/-- A node that is added twice, the second time after the flow was built, is found in its first form,
and a node that was added since is found as well. -/
example :
    let f := (new "acme" "f" "F" "a").assemble
      [.addNode (.of "a" .trigger), .build, .addNode (.of "a" (.message ⟨true⟩)),
        .addNode (.of "b" .trigger)]
    f.node? "a" = some (.of "a" .trigger) ∧ f.node? "b" = some (.of "b" .trigger) ∧
      f.graph.vertices = ["a"] ∧ f.build.graph.vertices = ["a", "b"] := by
  decide

end Flow

end Dialogue
