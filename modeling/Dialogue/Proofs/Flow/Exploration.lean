import Mathlib.Data.List.Perm.Subperm
import Dialogue.Flow.Reach

/-!
# Exploring a graph

To explore a graph is to gather what can be reached, each vertex once. An exploration follows every
arc at most once, so that it never gives up before it is done.

* `Graph.mem_explore`: an exploration gathers exactly what can be reached.
* `Graph.isCyclic_iff`: a graph counts as cyclic exactly when one of its vertices can be reached from
  itself along at least one arc.
* `Graph.length_explore_lt`: off all cycles, less can be reached after an arc than before.
-/

namespace Dialogue.Graph

variable {g : Graph} {seen todo : List String} {u v w : String}

/-! ### Paths -/

/-- What a vertex reaches is the vertex itself or reached from a successor. -/
theorem reaches_iff : g.Reaches v w ↔ v = w ∨ ∃ u ∈ g.successors v, g.Reaches u w := by
  constructor
  · intro h
    cases h with
    | refl => exact .inl rfl
    | step hu hr => exact .inr ⟨_, hu, hr⟩
  · rintro (rfl | ⟨u, hu, hr⟩)
    · exact .refl v
    · exact .step hu hr

/-- A path that begins among vertices whose successors lie among them or are still to be explored
stays there or comes from one that is still to be explored. -/
theorem Reaches.mem_or (h : g.Reaches v w) (hv : v ∈ seen)
    (hc : ∀ v ∈ seen, ∀ u ∈ g.successors v, u ∈ seen ∨ u ∈ todo) :
    w ∈ seen ∨ ∃ u ∈ todo, g.Reaches u w := by
  induction h with
  | refl v => exact .inl hv
  | @step v u w hu hr ih =>
    rcases hc v hv u hu with hu | hu
    · exact ih hu
    · exact .inr ⟨u, hu, hr⟩

/-- A path never leaves vertices whose successors all lie among them. -/
theorem Reaches.mem_of_closed {vs : List String} (h : g.Reaches v w) (hv : v ∈ vs)
    (hc : ∀ v ∈ vs, ∀ u ∈ g.successors v, u ∈ vs) : w ∈ vs := by
  have hc : ∀ v ∈ vs, ∀ u ∈ g.successors v, u ∈ vs ∨ u ∈ [] := fun v hv u hu => .inl (hc v hv u hu)
  rcases h.mem_or hv hc with hw | ⟨u, hu, -⟩
  · exact hw
  · cases hu

/-! ### Explorations -/

/-- How many arcs begin outside of some vertices. -/
def unfollowed (g : Graph) (seen : List String) : Nat :=
  (g.arcs.filter fun a => !seen.contains a.source).length

/-- The arcs from a new vertex are followed when it is seen. -/
theorem unfollowed_cons (hv : v ∉ seen) :
    g.unfollowed (v :: seen) + (g.successors v).length = g.unfollowed seen := by
  unfold unfollowed successors
  rw [List.length_map]
  induction g.arcs with
  | nil => rfl
  | cons a arcs ih =>
    by_cases ha : a.source = v
    · have hs : a.source ∉ seen := ha ▸ hv
      simp [ha, hv] at ih ⊢
      omega
    · by_cases hs : a.source ∈ seen
      · simpa [ha, hs] using ih
      · simp [ha, hs] at ih ⊢
        omega

/-- When there is enough fuel, an exploration gathers what it has seen and what can be reached from
what is still to be explored. -/
theorem mem_exploreFrom {fuel : Nat} (hf : todo.length + g.unfollowed seen < fuel)
    (hc : ∀ v ∈ seen, ∀ u ∈ g.successors v, u ∈ seen ∨ u ∈ todo) :
    w ∈ g.exploreFrom fuel seen todo ↔ w ∈ seen ∨ ∃ v ∈ todo, g.Reaches v w := by
  induction fuel generalizing seen todo with
  | zero => omega
  | succ fuel ih =>
    cases todo with
    | nil => simp [exploreFrom]
    | cons v todo =>
      rw [exploreFrom]
      rw [List.length_cons] at hf
      by_cases hv : v ∈ seen
      · have hc' : ∀ x ∈ seen, ∀ u ∈ g.successors x, u ∈ seen ∨ u ∈ todo := by
          intro x hx u hu
          rcases hc x hx u hu with hu | hu
          · exact .inl hu
          · rcases List.mem_cons.1 hu with rfl | hu
            · exact .inl hv
            · exact .inr hu
        rw [if_pos (by simpa using hv), ih (by omega) hc']
        constructor
        · exact fun h => h.imp id fun ⟨u, hu, hr⟩ => ⟨u, List.mem_cons_of_mem v hu, hr⟩
        · rintro (hw | ⟨u, hu, hr⟩)
          · exact .inl hw
          · rcases List.mem_cons.1 hu with rfl | hu
            · exact hr.mem_or hv hc'
            · exact .inr ⟨u, hu, hr⟩
      · have hcount := unfollowed_cons (g := g) hv
        rw [if_neg (by simpa using hv), ih]
        · simp only [List.mem_cons, List.mem_append, or_and_right, exists_or, exists_eq_left]
          rw [reaches_iff (v := v), eq_comm (a := w), or_assoc, or_assoc]
          exact or_left_comm
        · rw [List.length_append]
          omega
        · intro x hx u hu
          rcases List.mem_cons.1 hx with rfl | hx
          · exact .inr (List.mem_append_left _ hu)
          · rcases hc x hx u hu with hu | hu
            · exact .inl (List.mem_cons_of_mem _ hu)
            · rcases List.mem_cons.1 hu with rfl | hu
              · exact .inl List.mem_cons_self
              · exact .inr (List.mem_append_right _ hu)

/-- **An exploration gathers exactly what can be reached.** -/
theorem mem_explore {starts : List String} :
    w ∈ g.explore starts ↔ ∃ v ∈ starts, g.Reaches v w := by
  have hle : g.unfollowed [] ≤ g.arcs.length := List.length_filter_le _ _
  rw [explore, mem_exploreFrom (by omega) fun _ hv => absurd hv List.not_mem_nil]
  simp

theorem nodup_exploreFrom (fuel : Nat) (hs : seen.Nodup) : (g.exploreFrom fuel seen todo).Nodup := by
  induction fuel generalizing seen todo with
  | zero => exact hs
  | succ fuel ih =>
    cases todo with
    | nil => exact hs
    | cons v todo =>
      rw [exploreFrom]
      split
      · exact ih hs
      · rename_i hv
        exact ih (List.nodup_cons.2 ⟨by simpa using hv, hs⟩)

/-- An exploration gathers each vertex once. -/
theorem nodup_explore (starts : List String) : (g.explore starts).Nodup :=
  nodup_exploreFrom _ List.nodup_nil

/-! ### Cycles -/

/-- A vertex counts as lying on a cycle exactly when it is reached from one of its successors. -/
theorem isOnCycle_iff : g.isOnCycle v = true ↔ ∃ u ∈ g.successors v, g.Reaches u v := by
  rw [isOnCycle, List.contains_iff_mem, mem_explore]

/-- **A graph counts as cyclic exactly when one of its vertices lies on a cycle.** -/
theorem isCyclic_iff :
    g.isCyclic = true ↔ ∃ v ∈ g.vertices, ∃ u ∈ g.successors v, g.Reaches u v := by
  rw [isCyclic, List.any_eq_true]
  exact exists_congr fun v => and_congr_right fun _ => isOnCycle_iff

/-- Off all cycles, less can be reached after an arc than before it. -/
theorem length_explore_lt (hv : g.isOnCycle v = false) (hu : u ∈ g.successors v) :
    (g.explore [u]).length < (g.explore [v]).length := by
  have hlost : v ∉ g.explore [u] := by
    intro hm
    obtain ⟨u', hu', hr⟩ := mem_explore.1 hm
    rw [List.mem_singleton.1 hu'] at hr
    rw [isOnCycle_iff.2 ⟨u, hu, hr⟩] at hv
    cases hv
  have hsub : v :: g.explore [u] ⊆ g.explore [v] := by
    intro w hw
    rcases List.mem_cons.1 hw with rfl | hw
    · exact mem_explore.2 ⟨w, List.mem_singleton_self w, .refl w⟩
    · obtain ⟨u', hu', hr⟩ := mem_explore.1 hw
      rw [List.mem_singleton.1 hu'] at hr
      exact mem_explore.2 ⟨v, List.mem_singleton_self v, .step hu hr⟩
  exact ((List.nodup_cons.2 ⟨hlost, nodup_explore [u]⟩).subperm hsub).length_le

end Dialogue.Graph
