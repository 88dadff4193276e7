import Dialogue.Proofs.Flow.Registered
import Dialogue.Proofs.Flow.Routes

/-!
# Well-formed flows

A flow is well formed when its names belong to one node each, its only root is the entry, only routers,
triggers and the entry have several edges, and whatever it names is there. The check of a flow looks
at the list of nodes for some of this and at the graph for the rest; the graph leaves out targets that
are not there and has one vertex for all nodes of a name.

* `Flow.roots_build_eq`: the graph has one root, the entry, exactly when this holds of the nodes.
* `Flow.hasForm_check`: a check finds no defect of form exactly in the flows that are well formed.
* `Registry.registers_iff`: the flows that are registered are well formed.
-/

namespace Dialogue

/-- Whether a defect is one of the form of a flow, and not of what its nodes or back ends say. -/
def Defect.isOfForm : Defect → Bool
  | noNodes _ | repeatedNode _ | noEntry _ | severalRoots _ | entryIsNoRoot _ _ | dangling _ _
  | fansOut _ _ _ => true
  | _ => false

namespace Report

/-- Whether a report finds no defect of form. -/
def HasForm (r : Report) : Prop := ∀ d ∈ r.defects, d.isOfForm = false

variable {a b r : Report} {reports : List Report}

@[simp] theorem hasForm_append : (a ++ b).HasForm ↔ a.HasForm ∧ b.HasForm :=
  List.forall_mem_append

@[simp] theorem hasForm_all : (all reports).HasForm ↔ ∀ r ∈ reports, r.HasForm := by
  simp only [HasForm, all, List.mem_flatMap]
  exact ⟨fun h r hr d hd => h d ⟨r, hr, hd⟩, fun h d ⟨r, hr, hd⟩ => h r hr d hd⟩

@[simp] theorem hasForm_defect {d : Defect} : (defect d).HasForm ↔ d.isOfForm = false :=
  List.forall_mem_singleton

theorem hasForm_of_defects (h : r.defects = []) : r.HasForm := by
  rw [HasForm, h]
  exact fun d hd => absurd hd List.not_mem_nil

@[simp] theorem hasForm_empty : empty.HasForm := hasForm_of_defects rfl

@[simp] theorem hasForm_warning (node remark : String) : (warning node remark).HasForm :=
  hasForm_of_defects rfl

@[simp] theorem hasForm_onlyIf {c : Bool} : (onlyIf c r).HasForm ↔ (c = true → r.HasForm) := by
  cases c <;> simp [onlyIf]

end Report

namespace Flow

open Report

variable {f : Flow} {n : Node} {v : String}

/-- Whether no edge and no setting of a node leads to a node. -/
def IsRoot (f : Flow) (n : Node) : Prop := ∀ m ∈ f.nodes, n.id ∉ m.targets

/-- What is wanted of the form of a flow. -/
structure WellFormed (f : Flow) : Prop where
  nodup : (f.nodes.map (·.id)).Nodup
  root : ∃ n ∈ f.nodes, n.id = f.entry ∧ ∀ m ∈ f.nodes, f.IsRoot m ↔ m = n
  narrow : ∀ n ∈ f.nodes, n.kind ≠ .router → n.kind ≠ .trigger → n.id ≠ f.entry →
    n.edges.length ≤ 1
  closed : ∀ n ∈ f.nodes, ∀ t ∈ n.targets, ∃ m ∈ f.nodes, m.id = t

/-! ### Roots -/

theorem nodup_positionsFrom (nodes : List Node) (i : Nat) (known : List String) :
    ((positionsFrom i known nodes).map (·.1)).Nodup := by
  induction nodes generalizing i known with
  | nil => exact List.nodup_nil
  | cons n nodes ih =>
    rw [positionsFrom]
    split
    · exact ih _ _
    · rw [List.map_cons, List.nodup_cons]
      refine ⟨fun hm => ?_, ih _ _⟩
      exact (mem_positionsFrom.1 hm).1 List.mem_cons_self

/-- A root of the graph is a name that no node has for a target. -/
theorem mem_roots_build :
    v ∈ f.build.graph.roots ↔ v ∈ f.build.graph.vertices ∧ ∀ n ∈ f.nodes, v ∉ n.targets := by
  rw [Graph.roots, List.mem_filter]
  refine and_congr_right fun hv => ?_
  rw [Bool.not_eq_true', List.any_eq_false]
  constructor
  · intro h n hn ht
    obtain ⟨a, ha, -, rfl⟩ := exists_arcsOf ht hv
    exact h a (List.mem_flatMap.2 ⟨n, hn, ha⟩) (beq_self_eq_true _)
  · intro h a ha ht
    obtain ⟨n, hn, ha⟩ := List.mem_flatMap.1 ha
    exact h n hn (beq_iff_eq.1 ht ▸ (mem_arcsOf ha).2.1)

/-- The graph has the entry for its only root exactly when this holds of the nodes. -/
theorem roots_build_eq (hd : (f.nodes.map (·.id)).Nodup) :
    f.build.graph.roots = [f.entry] ↔
      ∃ n ∈ f.nodes, n.id = f.entry ∧ ∀ m ∈ f.nodes, f.IsRoot m ↔ m = n := by
  have hroots : f.build.graph.roots.Nodup := (nodup_positionsFrom f.nodes 0 []).filter _
  rw [← List.perm_singleton, List.perm_ext_iff_of_nodup hroots (List.nodup_singleton _)]
  simp only [mem_roots_build, mem_vertices_build, List.mem_singleton]
  constructor
  · intro h
    obtain ⟨⟨n, hn, hid⟩, hroot⟩ := (h f.entry).2 rfl
    refine ⟨n, hn, hid, fun m hm => ⟨fun hr => ?_, ?_⟩⟩
    · exact List.inj_on_of_nodup_map hd hm hn (((h m.id).1 ⟨⟨m, hm, rfl⟩, hr⟩).trans hid.symm)
    · rintro rfl
      rwa [IsRoot, hid]
  · rintro ⟨n, hn, hid, hroot⟩ v
    constructor
    · rintro ⟨⟨m, hm, rfl⟩, hr⟩
      rw [(hroot m hm).1 hr, hid]
    · rintro rfl
      exact ⟨⟨n, hn, hid⟩, hid ▸ (hroot n hn).2 rfl⟩

/-! ### Defects of form -/

theorem hasForm_checkTargets :
    (f.checkTargets n).HasForm ↔ ∀ t ∈ n.targets, (f.node? t).isSome := by
  simp only [checkTargets, hasForm_all, List.forall_mem_map, hasForm_defect, List.mem_filter,
    Defect.isOfForm, Bool.true_eq_false, imp_false, not_and, Bool.not_eq_true, ← Option.not_isSome,
    Bool.not_eq_false']

theorem hasForm_checkGuard (n : Node) (e : Edge) : (checkGuard n e).HasForm := by
  unfold checkGuard
  split
  · exact hasForm_empty
  · split <;> simp [Defect.isOfForm]

theorem hasForm_checkEdges (n : Node) (closed : Bool) (edges : List Edge) :
    (checkEdges n closed edges).HasForm := by
  induction edges generalizing closed with
  | nil => exact hasForm_empty
  | cons e edges ih => simp [checkEdges, hasForm_checkGuard, ih]

theorem hasForm_checkQuestion (n : Node) (q : Question) : (checkQuestion n q).HasForm := by
  simp only [checkQuestion, hasForm_append, hasForm_onlyIf, hasForm_defect]
  refine ⟨⟨?_, fun _ => rfl⟩, ?_⟩
  · split
    · exact hasForm_empty
    · split <;> simp [Defect.isOfForm]
  · split <;> simp [Defect.isOfForm]

theorem hasForm_checkModel (n : Node) (m : Model) : (checkModel n m).HasForm := by
  unfold checkModel
  split
  · exact hasForm_empty
  · simp [Defect.isOfForm]
  · split
    · simp [Defect.isOfForm]
    · split <;> simp [Defect.isOfForm]

theorem hasForm_checkTask (f : Flow) (n : Node) : (f.checkTask n).HasForm := by
  unfold checkTask
  cases n.task with
  | trigger => exact hasForm_empty
  | message m => exact hasForm_empty
  | router r =>
    dsimp only
    split <;> simp [Defect.isOfForm]
  | input q => exact hasForm_checkQuestion n q
  | confirmation c => simp [Defect.isOfForm]
  | action a => simp [Defect.isOfForm]
  | model m => exact hasForm_checkModel n m

theorem hasForm_checkNode :
    (f.checkNode n).HasForm ↔ n.kind ≠ .router → n.kind ≠ .trigger → n.id ≠ f.entry →
      n.edges.length ≤ 1 := by
  simp [checkNode, hasForm_checkEdges, hasForm_checkTask, mayFanOut, Defect.isOfForm]

theorem hasForm_checkRoots (he : (f.node? f.entry).isSome) :
    f.checkRoots.HasForm ↔ f.graph.roots = [f.entry] := by
  unfold checkRoots
  split
  · rename_i root hr
    rw [hr]
    simp [he, Defect.isOfForm]
  · rename_i hr
    exact iff_of_false (by simp [Defect.isOfForm]) (hr f.entry)

theorem hasForm_checkReach (f : Flow) : f.checkReach.HasForm := by
  unfold checkReach
  split
  · rw [hasForm_all, List.forall_mem_map]
    exact fun v _ => hasForm_warning v _
  · exact hasForm_empty

theorem hasForm_checkIdle (f : Flow) : f.checkIdle.HasForm := by
  unfold checkIdle
  split
  · exact hasForm_empty
  · simp [Defect.isOfForm]

theorem hasForm_checkApi (a : Api) : (checkApi a).HasForm := by
  unfold checkApi
  split
  · exact hasForm_empty
  · simp [Defect.isOfForm]

/-- The parts of a check that find defects of form. -/
theorem hasForm_check_iff (hne : f.nodes ≠ []) :
    f.check.HasForm ↔
      repeatedNodes [] f.nodes = [] ∧ (f.node? f.entry).isSome ∧
        (∀ n ∈ f.nodes, (f.checkTargets n).HasForm ∧ (f.checkNode n).HasForm) ∧
          f.checkRoots.HasForm := by
  have hrepeated : (all ((repeatedNodes [] f.nodes).map fun id => defect (.repeatedNode id))).HasForm
      ↔ repeatedNodes [] f.nodes = [] := by
    simp [Defect.isOfForm, List.eq_nil_iff_forall_not_mem]
  have hentry : (onlyIf (f.node? f.entry).isNone (defect (.noEntry f.entry))).HasForm ↔
      (f.node? f.entry).isSome := by
    simp [Defect.isOfForm, Option.isSome_iff_ne_none]
  have hcycles : f.checkCycles.HasForm := hasForm_onlyIf.2 fun _ => hasForm_warning _ _
  unfold check
  rw [if_neg (mt List.isEmpty_iff.1 hne)]
  simp only [hasForm_append, hrepeated, hentry, hasForm_all, List.forall_mem_map, hcycles,
    hasForm_checkReach, hasForm_checkIdle, hasForm_checkApi, implies_true, and_true, and_assoc]

/-- **A check finds no defect of form exactly in a flow that is well formed.** -/
theorem hasForm_check : f.build.check.HasForm ↔ f.WellFormed := by
  by_cases hne : f.nodes = []
  · refine iff_of_false ?_ fun h => ?_
    · rw [check_of_no_nodes (f := f.build) hne]
      simp [Defect.isOfForm]
    · obtain ⟨n, hn, -⟩ := h.root
      exact absurd (hne ▸ hn) List.not_mem_nil
  · have hfound : ∀ id, (f.build.node? id).isSome ↔ ∃ n ∈ f.nodes, n.id = id := fun id =>
      isSome_node?_build.trans mem_vertices_build
    rw [hasForm_check_iff (f := f.build) hne]
    constructor
    · rintro ⟨hrepeated, hentry, hnodes, hroots⟩
      have hd := (repeatedNodes_eq_nil.1 hrepeated).1
      rw [hasForm_checkRoots hentry] at hroots
      exact ⟨hd, (roots_build_eq hd).1 hroots, fun n hn => hasForm_checkNode.1 (hnodes n hn).2,
        fun n hn t ht => (hfound t).1 (hasForm_checkTargets.1 (hnodes n hn).1 t ht)⟩
    · intro h
      obtain ⟨n, hn, hid, -⟩ := h.root
      have hentry := (hfound f.entry).2 ⟨n, hn, hid⟩
      exact ⟨repeatedNodes_eq_nil.2 ⟨h.nodup, fun _ _ => List.not_mem_nil⟩, hentry,
        fun n hn => ⟨hasForm_checkTargets.2 fun t ht => (hfound t).2 (h.closed n hn t ht),
          hasForm_checkNode.2 (h.narrow n hn)⟩,
        (hasForm_checkRoots hentry).2 ((roots_build_eq h.nodup).2 h.root)⟩

end Flow

/-- **A flow is registered exactly when it is well formed and its check finds nothing else.** -/
theorem Registry.registers_iff (r : Registry) (f : Flow) :
    (∃ found, r.register f = .ok found) ↔
      f.WellFormed ∧ ∀ d ∈ f.build.check.defects, d.isOfForm = true := by
  rw [← Flow.hasForm_check]
  constructor
  · rintro ⟨⟨report, r'⟩, h⟩
    obtain ⟨-, hv, -⟩ := register_eq_ok h
    have hd : f.build.check.defects = [] := List.isEmpty_iff.1 hv
    exact ⟨Report.hasForm_of_defects hd, fun d hm => absurd (hd ▸ hm) List.not_mem_nil⟩
  · rintro ⟨hform, hother⟩
    have hd : f.build.check.defects = [] := List.eq_nil_iff_forall_not_mem.2 fun d hm =>
      Bool.false_ne_true ((hform d hm).symm.trans (hother d hm))
    exact ⟨_, register_of_isValid (List.isEmpty_iff.2 hd) r⟩

end Dialogue
