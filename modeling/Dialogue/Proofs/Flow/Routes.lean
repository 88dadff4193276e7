import Dialogue.Proofs.Flow.Checked
import Dialogue.Proofs.Flow.Relay

/-!
# Routes through a flow

The graph of a built flow has an arc wherever a node may lead to another one. A check warns of the
nodes that no path from the entry reaches, and of the edges that stand behind one without a guard.

* `Flow.mem_successors_build`: the successors of a node are its targets.
* `Flow.mem_warnings_unreachable`: what is warned of as unreachable, exactly.
* `Flow.mem_warnings_untaken`, `Edge.chosenAt?_ne`: what is warned of as never taken, exactly, and
  that it is never chosen.
-/

namespace Dialogue

/-! ### Edges that are never taken -/

namespace Edge

/-- The position of the first open edge. -/
def chosenAt? (scope : Value) (edges : List Edge) : Option Nat := edges.findIdx? (·.isOpen scope)

/-- The edge that is chosen is the one at the position of the first open edge. -/
theorem choose_eq (scope : Value) (edges : List Edge) :
    choose scope edges = (chosenAt? scope edges).bind (edges[·]?) :=
  List.find?_eq_bind_findIdx?_getElem?

/-- Whether a position stands behind an edge without a guard. -/
def Behind (edges : List Edge) (i : Nat) : Prop := ∃ e ∈ edges.take i, e.guard? = none

theorem behind_zero (edges : List Edge) : ¬Behind edges 0 := by
  rintro ⟨e, he, -⟩
  exact absurd he List.not_mem_nil

theorem behind_succ {e : Edge} {edges : List Edge} {i : Nat} :
    Behind (e :: edges) (i + 1) ↔ e.guard? = none ∨ Behind edges i := by
  simp [Behind]

/-- An edge behind one without a guard is never chosen. -/
theorem chosenAt?_ne {edges : List Edge} {i : Nat} (h : Behind edges i) (scope : Value) :
    chosenAt? scope edges ≠ some i := by
  obtain ⟨e, he, hg⟩ := h
  obtain ⟨j, hj, rfl⟩ := List.getElem_of_mem he
  intro hc
  obtain ⟨hi, -, hbefore⟩ := List.findIdx?_eq_some_iff_getElem.1 hc
  rw [List.length_take] at hj
  refine hbefore j (by omega) ?_
  rw [List.getElem_take] at hg
  rw [isOpen, hg]

end Edge

namespace Flow

open Report

variable {f : Flow} {n : Node} {id target v : String}

/-- What a check remarks on an edge behind one without a guard. -/
def untakenRemark (target : String) : String := "edge to `" ++ target ++ "` is never taken"

theorem untakenRemark_inj {t u : String} : untakenRemark t = untakenRemark u ↔ t = u := by
  constructor
  · intro h
    have h := congrArg String.toList h
    simp only [untakenRemark, String.toList_append, List.append_assoc] at h
    have h := List.append_cancel_right (List.append_cancel_left h)
    exact String.toList_inj.1 h
  · exact congrArg untakenRemark

theorem head_untakenRemark (target : String) :
    (untakenRemark target).toList.head? = some 'e' := by
  simp [untakenRemark]

/-- No remark on a guard is one on an edge that is never taken. -/
theorem untakenRemark_not_mem_checkGuard (e : Edge) :
    ⟨id, untakenRemark target⟩ ∉ (checkGuard n e).warnings := by
  intro h
  have hhead : some 'e' = some '\x60' := by
    rw [← head_untakenRemark target]
    unfold checkGuard at h
    split at h
    · cases h
    · split at h
      · rw [warnings_onlyIf] at h
        split at h
        · rw [show untakenRemark target = _ from congrArg Warning.remark (List.mem_singleton.1 h)]
          simp
        · cases h
      · cases h
  cases hhead

/-- A check of edges warns of those that stand behind one without a guard, or all if the edges are
`closed` from the start. -/
theorem mem_warnings_checkEdges {closed : Bool} {edges : List Edge} :
    ⟨id, untakenRemark target⟩ ∈ (checkEdges n closed edges).warnings ↔
      n.id = id ∧ ∃ (i : Nat) (e : Edge), edges[i]? = some e ∧ e.target = target ∧
        (closed = true ∨ Edge.Behind edges i) := by
  induction edges generalizing closed with
  | nil => simp [checkEdges]
  | cons e edges ih =>
    have hopen : (trimmedGuard? e).isNone = true ↔ e.guard? = none := by simp [trimmedGuard?]
    have hfirst : ⟨id, untakenRemark target⟩ ∈
        (onlyIf closed (warning n.id (untakenRemark e.target))).warnings ↔
          n.id = id ∧ closed = true ∧ e.target = target := by
      cases closed <;> simp [untakenRemark_inj, eq_comm]
    have hparts : ⟨id, untakenRemark target⟩ ∈ (checkEdges n closed (e :: edges)).warnings ↔
        ⟨id, untakenRemark target⟩ ∈
            (onlyIf closed (warning n.id (untakenRemark e.target))).warnings ∨
          ⟨id, untakenRemark target⟩ ∈
            (checkEdges n (closed || (trimmedGuard? e).isNone) edges).warnings := by
      rw [checkEdges, append_warnings, append_warnings, List.mem_append, List.mem_append,
        or_iff_left (untakenRemark_not_mem_checkGuard e)]
      rfl
    rw [hparts, hfirst, ih, Bool.or_eq_true, hopen, ← and_or_left]
    refine and_congr_right fun _ => ⟨?_, ?_⟩
    · rintro (⟨hc, ht⟩ | ⟨i, e', he, ht, hc⟩)
      · exact ⟨0, e, rfl, ht, .inl hc⟩
      · exact ⟨i + 1, e', he, ht, by rwa [Edge.behind_succ, ← or_assoc]⟩
    · rintro ⟨i, e', he, ht, hc⟩
      cases i with
      | zero =>
        cases he
        exact .inl ⟨hc.resolve_right (Edge.behind_zero _), ht⟩
      | succ i => exact .inr ⟨i, e', he, ht, by rwa [Edge.behind_succ, ← or_assoc] at hc⟩

/-- **A flow without defects is warned of an edge as never taken exactly for each edge that stands
behind one without a guard.** -/
theorem mem_warnings_untaken (h : f.check.isValid = true) :
    ⟨id, untakenRemark target⟩ ∈ f.check.warnings ↔
      ∃ n ∈ f.nodes, n.id = id ∧ ∃ (i : Nat) (e : Edge), n.edges[i]? = some e ∧
        e.target = target ∧ Edge.Behind n.edges i := by
  have hedges : ∀ n, ⟨id, untakenRemark target⟩ ∈ (checkEdges n false n.edges).warnings ↔
      n.id = id ∧ ∃ (i : Nat) (e : Edge), n.edges[i]? = some e ∧ e.target = target ∧
        Edge.Behind n.edges i := by
    intro n
    rw [mem_warnings_checkEdges]
    simp
  have hother : ∀ remark : String, remark.toList.head? ≠ some 'e' →
      untakenRemark target ≠ remark :=
    fun remark hr he => hr (he ▸ head_untakenRemark target)
  constructor
  · intro hw
    rcases cases_of_mem_warnings h hw with ⟨n, hn, hw⟩ | ⟨n, hn, hw⟩ | hw | hw | hw
    · exact ⟨n, hn, (hedges n).1 hw⟩
    · exact absurd (remark_of_checkTask hw) (hother deadEndRemark (by decide))
    · exact absurd hw (hother singleGuardRemark (by decide))
    · exact absurd (remark_of_checkReach hw) (hother unreachableRemark (by decide))
    · exact absurd hw (hother cycleRemark (by decide))
  · rintro ⟨n, hn, hm⟩
    exact mem_warnings_of_checkNode h hn (.inl ((hedges n).2 hm))

/-! ### The graph of a built flow -/

theorem mem_positionsFrom {nodes : List Node} {i : Nat} {known : List String} :
    id ∈ (positionsFrom i known nodes).map (·.1) ↔ id ∉ known ∧ ∃ n ∈ nodes, n.id = id := by
  induction nodes generalizing i known with
  | nil => simp [positionsFrom]
  | cons n nodes ih =>
    rw [positionsFrom]
    by_cases hk : known.contains n.id
    · have hk' : n.id ∈ known := by simpa using hk
      rw [if_pos hk, ih]
      refine and_congr_right fun hid => ?_
      have hne : n.id ≠ id := fun he => hid (he ▸ hk')
      simp [hne]
    · have hk' : n.id ∉ known := by simpa using hk
      rw [if_neg hk, List.map_cons, List.mem_cons, ih]
      by_cases hid : n.id = id
      · subst hid
        simp [hk']
      · simp [hid, Ne.symm hid]

/-- The vertices of the graph are the names of the nodes. -/
theorem mem_vertices_build : id ∈ f.build.graph.vertices ↔ ∃ n ∈ f.nodes, n.id = id :=
  mem_positionsFrom.trans (and_iff_right List.not_mem_nil)

/-- The successors of a node are its targets, as far as there are nodes. -/
theorem mem_successors_build :
    target ∈ f.build.graph.successors id ↔
      target ∈ f.build.graph.vertices ∧ ∃ n ∈ f.nodes, n.id = id ∧ target ∈ n.targets :=
  mem_successors_arcs

/-- A built flow finds exactly the vertices of its graph. -/
theorem isSome_node?_build : (f.build.node? id).isSome ↔ id ∈ f.build.graph.vertices := by
  rw [node?_build, List.find?_isSome, mem_vertices_build]
  simp

/-! ### Nodes that are not reached -/

/-- A check of what is reached warns of all vertices that no path from the entry leads to. -/
theorem mem_warnings_checkReach (he : f.isIndexed f.entry = true) :
    ⟨v, unreachableRemark⟩ ∈ f.checkReach.warnings ↔
      v ∈ f.graph.vertices ∧ ¬f.graph.Reaches f.entry v := by
  unfold checkReach
  rw [if_pos he, mem_warnings_all]
  have hmissed : (∃ r ∈ (List.mergeSort (f.graph.vertices.filter
      fun v => !(f.graph.explore [f.entry]).contains v) (· ≤ ·)).map
        (fun v => warning v "unreachable from the entry node"),
      ⟨v, unreachableRemark⟩ ∈ r.warnings) ↔
        v ∈ f.graph.vertices ∧ v ∉ f.graph.explore [f.entry] := by
    simp [unreachableRemark, List.mem_mergeSort]
  rw [hmissed, Graph.mem_explore]
  simp

/-- **A flow without defects is warned of a node as unreachable exactly for each node that no path
from the entry leads to.** -/
theorem mem_warnings_unreachable (h : f.build.check.isValid = true) :
    ⟨v, unreachableRemark⟩ ∈ f.build.check.warnings ↔
      v ∈ f.build.graph.vertices ∧ ¬f.build.graph.Reaches f.entry v := by
  have he : f.build.isIndexed f.build.entry = true := by
    have hv := isSome_node?_build.1 (checked_of_isValid h).entry
    simpa [isIndexed] using hv
  refine Iff.trans ?_ (mem_warnings_checkReach he)
  constructor
  · intro hw
    rcases cases_of_mem_warnings h hw with ⟨n, -, hw⟩ | ⟨n, -, hw⟩ | hw | hw | hw
    · rcases head_of_checkEdges hw with hh | hh
      · exact absurd (show unreachableRemark.toList.head? = _ from hh) (by decide)
      · exact absurd (show unreachableRemark.toList.head? = _ from hh) (by decide)
    · exact absurd (show unreachableRemark = _ from remark_of_checkTask hw) (by decide)
    · exact absurd (show unreachableRemark = singleGuardRemark from hw) (by decide)
    · exact hw
    · exact absurd (show unreachableRemark = cycleRemark from hw) (by decide)
  · intro hw
    rw [warnings_check (defects_check h).1]
    exact List.mem_append_left _ (List.mem_append_right _ hw)

end Flow

end Dialogue
