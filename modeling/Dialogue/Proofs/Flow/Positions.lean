import Dialogue.Flow.Basic

/-!
# Nodes of a built flow

A built flow finds a node through the positions it has noted; what it finds is the first node of
that name in the list.

* `Flow.node?_build`: the look-up by positions is the look-up in the list.
* `Flow.mem_of_node?`: whatever a flow finds is one of its nodes, built or not.
-/

namespace Dialogue.Flow

/-- A position noted for a name is that of the first node of this name, and a name without a
position has no node, except for the names known before. -/
theorem find?_positionsFrom {id : String} (nodes : List Node) {i : Nat} {known : List String}
    (h : id ∉ known) :
    match (positionsFrom i known nodes).find? (·.1 == id) with
    | some (_, j) => i ≤ j ∧ nodes[j - i]? = nodes.find? (·.id == id)
    | none => nodes.find? (·.id == id) = none := by
  induction nodes generalizing i known with
  | nil => rfl
  | cons n more ih =>
    -- a node of another name is passed over, and the positions after it count from the next one
    have pass : ∀ known', n.id ≠ id → id ∉ known' →
        match (positionsFrom (i + 1) known' more).find? (·.1 == id) with
        | some (_, j) => i ≤ j ∧ (n :: more)[j - i]? = (n :: more).find? (·.id == id)
        | none => (n :: more).find? (·.id == id) = none := by
      intro known' hne hk
      have hi := ih (i := i + 1) hk
      have hf : (n :: more).find? (·.id == id) = more.find? (·.id == id) :=
        List.find?_cons_of_neg (by simpa using hne)
      rw [hf]
      split at hi
      · rename_i j hj
        obtain ⟨hle, hget⟩ := hi
        refine ⟨by omega, ?_⟩
        rw [show j - i = j - (i + 1) + 1 by omega, List.getElem?_cons_succ]
        exact hget
      · exact hi
    rw [positionsFrom]
    by_cases hc : known.contains n.id
    · rw [if_pos hc]
      have hne : n.id ≠ id := fun he => h (he ▸ by simpa using hc)
      exact pass known hne h
    · rw [if_neg hc]
      by_cases hne : n.id = id
      · have hp : ((n.id, i) :: positionsFrom (i + 1) (n.id :: known) more).find? (·.1 == id) =
            some (n.id, i) := List.find?_cons_of_pos (by simpa using hne)
        have hq : (n :: more).find? (·.id == id) = some n :=
          List.find?_cons_of_pos (by simpa using hne)
        rw [hp, hq]
        exact ⟨Nat.le_refl i, by rw [Nat.sub_self, List.getElem?_cons_zero]⟩
      · have hp : ((n.id, i) :: positionsFrom (i + 1) (n.id :: known) more).find? (·.1 == id) =
            (positionsFrom (i + 1) (n.id :: known) more).find? (·.1 == id) :=
          List.find?_cons_of_neg (by simpa using hne)
        rw [hp]
        refine pass (n.id :: known) hne ?_
        simpa using ⟨Ne.symm hne, h⟩

/-- A built flow finds the first node of a name. -/
theorem node?_build (f : Flow) (id : String) :
    f.build.node? id = f.nodes.find? (·.id == id) := by
  have h := find?_positionsFrom f.nodes (i := 0) (List.not_mem_nil (a := id))
  have hn : f.build.node? id = match (positionsFrom 0 [] f.nodes).find? (·.1 == id) with
      | some (_, j) => f.nodes[j]?
      | none => f.nodes.find? (·.id == id) := rfl
  rw [hn]
  generalize (positionsFrom 0 [] f.nodes).find? (·.1 == id) = found at h ⊢
  cases found with
  | none => rfl
  | some entry => exact h.2

/-- What a flow finds is one of its nodes. -/
theorem mem_of_node? {f : Flow} {id : String} {n : Node} (h : f.node? id = some n) :
    n ∈ f.nodes := by
  unfold node? at h
  split at h
  · exact List.mem_of_getElem? h
  · exact List.mem_of_find?_eq_some h

/-- What a built flow finds has the name that was asked for. -/
theorem id_of_node?_build {f : Flow} {id : String} {n : Node} (h : f.build.node? id = some n) :
    n.id = id := by
  rw [node?_build] at h
  simpa using List.find?_some h

theorem id_of_node? {f : Flow} (hb : f.build = f) {id : String} {n : Node}
    (h : f.node? id = some n) : n.id = id := by
  rw [← hb] at h
  exact id_of_node?_build h

end Dialogue.Flow
