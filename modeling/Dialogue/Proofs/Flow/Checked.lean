import Mathlib.Data.List.Nodup
import Dialogue.Flow.Check
import Dialogue.Proofs.Flow.Positions

/-!
# What a check promises

A flow whose check finds no defects has all the nodes and back ends that it names, and everything that
is written in it can be read.

* `Flow.checked_of_isValid`: the promises of a check, in one structure.
* `Flow.cases_of_mem_warnings`: where a warning of a check comes from.
* `Flow.mem_warnings_check`: a check warns of a dead end exactly for the routers that may have one.
-/

namespace Dialogue

namespace Report

@[simp] theorem mem_warnings_all {reports : List Report} {w : Warning} :
    w ∈ (all reports).warnings ↔ ∃ r ∈ reports, w ∈ r.warnings :=
  List.mem_flatMap

theorem defects_all_eq_nil {reports : List Report} :
    (all reports).defects = [] ↔ ∀ r ∈ reports, r.defects = [] :=
  List.flatMap_eq_nil_iff

theorem warnings_all_eq_nil {reports : List Report} :
    (all reports).warnings = [] ↔ ∀ r ∈ reports, r.warnings = [] :=
  List.flatMap_eq_nil_iff

@[simp] theorem defects_onlyIf (b : Bool) (r : Report) :
    (onlyIf b r).defects = if b then r.defects else [] := by
  cases b <;> rfl

@[simp] theorem warnings_onlyIf (b : Bool) (r : Report) :
    (onlyIf b r).warnings = if b then r.warnings else [] := by
  cases b <;> rfl

@[simp] theorem defects_defect (d : Defect) : (defect d).defects = [d] := rfl

@[simp] theorem warnings_defect (d : Defect) : (defect d).warnings = [] := rfl

@[simp] theorem defects_warning (node remark : String) : (warning node remark).defects = [] := rfl

@[simp] theorem warnings_warning (node remark : String) :
    (warning node remark).warnings = [⟨node, remark⟩] := rfl

@[simp] theorem defects_empty : empty.defects = [] := rfl

@[simp] theorem warnings_empty : empty.warnings = [] := rfl

end Report

namespace Flow

open Report

/-- What holds of a flow in which a check finds no defects. -/
structure Checked (f : Flow) : Prop where
  nodup : (f.nodes.map (·.id)).Nodup
  entry : (f.node? f.entry).isSome
  target : ∀ n ∈ f.nodes, ∀ t ∈ n.targets, (f.node? t).isSome
  guard : ∀ n ∈ f.nodes, ∀ e ∈ n.edges, ∀ written, trimmedGuard? e = some written →
    ∃ g, Guard.read written = .ok g
  pattern : ∀ n ∈ f.nodes, ∀ q, n.task = .input q → ∀ written, q.pattern = some written →
    ∃ p, Pattern.read written = .ok p
  api : ∀ n ∈ f.nodes, ∀ a, n.task = .action a → (f.api? a.api).isSome

/-- No name is repeated exactly when the names differ from each other and from those known before. -/
theorem repeatedNodes_eq_nil {nodes : List Node} {known : List String} :
    repeatedNodes known nodes = [] ↔
      (nodes.map (·.id)).Nodup ∧ ∀ n ∈ nodes, n.id ∉ known := by
  induction nodes generalizing known with
  | nil => exact iff_of_true rfl ⟨List.nodup_nil, fun _ hm => absurd hm List.not_mem_nil⟩
  | cons n nodes ih =>
    unfold repeatedNodes
    split
    · rename_i hk
      exact iff_of_false (List.cons_ne_nil _ _) fun h =>
        h.2 n List.mem_cons_self (by simpa using hk)
    · rename_i hk
      have hk : n.id ∉ known := by simpa using hk
      have hother : (∀ m ∈ nodes, m.id ∉ n.id :: known) ↔
          n.id ∉ nodes.map (·.id) ∧ ∀ m ∈ nodes, m.id ∉ known := by
        simp only [List.mem_cons, not_or, List.mem_map, not_exists, not_and, forall_and]
      rw [ih, hother, List.map_cons, List.nodup_cons, List.forall_mem_cons]
      tauto

theorem read_of_checkGuard {n : Node} {e : Edge} (h : (checkGuard n e).defects = [])
    {written : String} (hw : trimmedGuard? e = some written) : ∃ g, Guard.read written = .ok g := by
  unfold checkGuard at h
  rw [hw] at h
  dsimp only at h
  cases hg : Guard.read written with
  | ok g => exact ⟨g, rfl⟩
  | error fault =>
    rw [hg] at h
    cases h

theorem checkGuard_of_checkEdges {n : Node} {closed : Bool} {edges : List Edge}
    (h : (checkEdges n closed edges).defects = []) : ∀ e ∈ edges, (checkGuard n e).defects = [] := by
  induction edges generalizing closed with
  | nil => exact fun _ hm => absurd hm List.not_mem_nil
  | cons e edges ih =>
    unfold checkEdges at h
    rw [append_defects, append_defects, List.append_eq_nil_iff, List.append_eq_nil_iff] at h
    intro e' hm
    rcases List.mem_cons.1 hm with rfl | hm
    · exact h.1.2
    · exact ih h.2 e' hm

theorem read_of_checkQuestion {n : Node} {q : Question} (h : (checkQuestion n q).defects = [])
    {written : String} (hw : q.pattern = some written) : ∃ p, Pattern.read written = .ok p := by
  unfold checkQuestion at h
  rw [hw, append_defects, append_defects, List.append_eq_nil_iff, List.append_eq_nil_iff] at h
  have h := h.1.1
  dsimp only at h
  cases hp : Pattern.read written with
  | ok p => exact ⟨p, rfl⟩
  | error reason =>
    rw [hp] at h
    cases h

theorem node?_of_checkTargets {f : Flow} {n : Node} (h : (f.checkTargets n).defects = []) :
    ∀ t ∈ n.targets, (f.node? t).isSome := by
  intro t hm
  cases ht : f.node? t with
  | some _ => rfl
  | none =>
    have hn : t ∈ n.targets.filter fun t => (f.node? t).isNone :=
      List.mem_filter.2 ⟨hm, by rw [ht]; rfl⟩
    have hd := defects_all_eq_nil.1 h _ (List.mem_map.2 ⟨t, hn, rfl⟩)
    cases hd

theorem checkNode_eq_nil {f : Flow} {n : Node} (h : (f.checkNode n).defects = []) :
    (checkEdges n false n.edges).defects = [] ∧ (f.checkTask n).defects = [] := by
  unfold checkNode at h
  simp only [append_defects, List.append_eq_nil_iff] at h
  exact ⟨h.1.1.2, h.1.2⟩

/-- The findings of a check without defects, part by part. -/
theorem defects_check {f : Flow} (h : f.check.isValid = true) :
    f.nodes.isEmpty = false ∧ repeatedNodes [] f.nodes = [] ∧ (f.node? f.entry).isSome ∧
      ∀ n ∈ f.nodes, (f.checkTargets n).defects = [] ∧
        (checkEdges n false n.edges).defects = [] ∧ (f.checkTask n).defects = [] := by
  have hd : f.check.defects = [] := List.isEmpty_iff.1 h
  unfold check at hd
  split at hd
  · cases hd
  · rename_i hne
    simp only [append_defects, List.append_eq_nil_iff, defects_all_eq_nil, List.forall_mem_map]
      at hd
    obtain ⟨⟨⟨⟨⟨⟨⟨hrepeated, hentry⟩, hnodes⟩, -⟩, -⟩, -⟩, -⟩, -⟩ := hd
    refine ⟨by simpa using hne, List.eq_nil_iff_forall_not_mem.2 fun id hm => ?_, ?_,
      fun n hn => ⟨(hnodes n hn).1, checkNode_eq_nil (hnodes n hn).2⟩⟩
    · cases hrepeated id hm
    · cases he : f.node? f.entry with
      | some _ => rfl
      | none => simp [he] at hentry

/-- A check without defects makes all these promises. -/
theorem checked_of_isValid {f : Flow} (h : f.check.isValid = true) : f.Checked := by
  obtain ⟨-, hrepeated, hentry, hnodes⟩ := defects_check h
  refine ⟨(repeatedNodes_eq_nil.1 hrepeated).1, hentry,
    fun n hn => node?_of_checkTargets (hnodes n hn).1, fun n hn e he written hw => ?_,
    fun n hn q hq written hw => ?_, fun n hn a ha => ?_⟩
  · exact read_of_checkGuard (checkGuard_of_checkEdges (hnodes n hn).2.1 e he) hw
  · have ht := (hnodes n hn).2.2
    rw [checkTask, hq] at ht
    exact read_of_checkQuestion ht hw
  · have ht := (hnodes n hn).2.2
    rw [checkTask, ha] at ht
    cases hapi : f.api? a.api with
    | some _ => rfl
    | none => simp [hapi] at ht

/-- A name belongs to one node only. -/
theorem Checked.node?_eq_some {f : Flow} (hf : f.build.Checked) {id : String} {n : Node} :
    f.build.node? id = some n ↔ n ∈ f.build.nodes ∧ n.id = id := by
  refine ⟨fun hn => ⟨mem_of_node? hn, id_of_node?_build hn⟩, ?_⟩
  rintro ⟨hm, rfl⟩
  obtain ⟨m, hfound⟩ : ∃ m, f.build.node? n.id = some m := by
    rw [node?_build]
    exact Option.isSome_iff_exists.1 (List.find?_isSome.2 ⟨n, hm, by simp⟩)
  rw [hfound, List.inj_on_of_nodup_map hf.nodup (mem_of_node? hfound) hm
    (id_of_node?_build hfound)]

/-! ### Warnings -/

theorem warnings_checkTargets (f : Flow) (n : Node) : (f.checkTargets n).warnings = [] := by
  refine warnings_all_eq_nil.2 fun r hr => ?_
  obtain ⟨t, -, rfl⟩ := List.mem_map.1 hr
  rfl

theorem warnings_checkRoots (f : Flow) : f.checkRoots.warnings = [] := by
  unfold checkRoots
  split
  · simp
  · rfl

theorem warnings_checkIdle (f : Flow) : f.checkIdle.warnings = [] := by
  unfold checkIdle
  split
  · rfl
  · simp

theorem warnings_checkApi (a : Api) : (checkApi a).warnings = [] := by
  unfold checkApi
  split <;> rfl

theorem warnings_checkQuestion (n : Node) (q : Question) : (checkQuestion n q).warnings = [] := by
  unfold checkQuestion
  simp only [append_warnings, List.append_eq_nil_iff, warnings_onlyIf]
  refine ⟨⟨?_, by simp⟩, ?_⟩
  · cases q.pattern with
    | none => rfl
    | some written => cases hp : Pattern.read written <;> simp [hp]
  · cases q.minLength <;> cases q.maxLength <;> simp

theorem warnings_checkModel (n : Node) (m : Model) : (checkModel n m).warnings = [] := by
  unfold checkModel
  cases m.role with
  | conversational => rfl
  | extractor => simp
  | classifier =>
    dsimp only
    split
    · rfl
    · cases m.defaultLabel <;> simp

/-- The warnings of a check, part by part. Only nodes, what is reached and cycles are warned of. -/
theorem warnings_check {f : Flow} (h : f.nodes.isEmpty = false) :
    f.check.warnings = f.nodes.flatMap (fun n => (f.checkNode n).warnings) ++
      f.checkReach.warnings ++ f.checkCycles.warnings := by
  have hrepeated : (all ((repeatedNodes [] f.nodes).map
      fun id => defect (.repeatedNode id))).warnings = [] := by
    refine warnings_all_eq_nil.2 fun r hr => ?_
    obtain ⟨id, -, rfl⟩ := List.mem_map.1 hr
    rfl
  have hapis : (all (f.apis.map checkApi)).warnings = [] := by
    refine warnings_all_eq_nil.2 fun r hr => ?_
    obtain ⟨a, -, rfl⟩ := List.mem_map.1 hr
    exact warnings_checkApi a
  have hnodes : (all (f.nodes.map fun n => f.checkTargets n ++ f.checkNode n)).warnings =
      f.nodes.flatMap fun n => (f.checkNode n).warnings := by
    show (f.nodes.map fun n => f.checkTargets n ++ f.checkNode n).flatMap (·.warnings) = _
    rw [List.flatMap_map]
    simp only [append_warnings, warnings_checkTargets, List.nil_append]
  unfold check
  rw [if_neg (by simp [h])]
  simp [hrepeated, hapis, hnodes, warnings_checkRoots, warnings_checkIdle]

/-- What a check remarks on the guard of a single edge. -/
def singleGuardRemark : String := "guard on a single edge; the flow ends when it fails"

/-- What a check remarks on nodes that no path from the entry leads to. -/
def unreachableRemark : String := "unreachable from the entry node"

/-- What a check remarks on nodes that never wait and lead back to themselves. -/
def cycleRemark : String :=
  "cycle without any node that waits for input; turns will hit the step cap"

theorem mem_warnings_checkNode {f : Flow} {n : Node} {w : Warning}
    (h : w ∈ (f.checkNode n).warnings) :
    w ∈ (checkEdges n false n.edges).warnings ∨ w ∈ (f.checkTask n).warnings ∨
      w.remark = singleGuardRemark := by
  unfold checkNode at h
  simp only [append_warnings, warnings_onlyIf, List.mem_append] at h
  rcases h with ((h | h) | h) | h
  · split at h <;> simp at h
  · exact .inl h
  · exact .inr (.inl h)
  · split at h
    · rw [List.mem_singleton.1 h]
      exact .inr (.inr rfl)
    · cases h

/-- Remarks on edges begin like this. -/
theorem head_of_checkEdges {n : Node} {closed : Bool} {edges : List Edge} {w : Warning}
    (h : w ∈ (checkEdges n closed edges).warnings) :
    w.remark.toList.head? = some 'e' ∨ w.remark.toList.head? = some '\x60' := by
  induction edges generalizing closed with
  | nil => cases h
  | cons e edges ih =>
    unfold checkEdges at h
    simp only [append_warnings, warnings_onlyIf, List.mem_append] at h
    rcases h with (h | h) | h
    · split at h
      · rw [List.mem_singleton.1 h]
        exact .inl (by simp)
      · cases h
    · unfold checkGuard at h
      split at h
      · cases h
      · split at h
        · rw [warnings_onlyIf] at h
          split at h
          · rw [List.mem_singleton.1 h]
            exact .inr (by simp)
          · cases h
        · cases h
    · exact ih h

theorem remark_of_checkReach {f : Flow} {w : Warning} (h : w ∈ f.checkReach.warnings) :
    w.remark = unreachableRemark := by
  unfold checkReach at h
  split at h
  · obtain ⟨r, hr, hw⟩ := mem_warnings_all.1 h
    obtain ⟨v, -, rfl⟩ := List.mem_map.1 hr
    rw [List.mem_singleton.1 hw]
    rfl
  · cases h

theorem remark_of_checkCycles {f : Flow} {w : Warning} (h : w ∈ f.checkCycles.warnings) :
    w.remark = cycleRemark := by
  unfold checkCycles at h
  rw [warnings_onlyIf] at h
  split at h
  · rw [List.mem_singleton.1 h]
    rfl
  · cases h

/-- A warning of a flow without defects comes from one of five places. -/
theorem cases_of_mem_warnings {f : Flow} (h : f.check.isValid = true) {w : Warning}
    (hw : w ∈ f.check.warnings) :
    (∃ n ∈ f.nodes, w ∈ (checkEdges n false n.edges).warnings) ∨
      (∃ n ∈ f.nodes, w ∈ (f.checkTask n).warnings) ∨ w.remark = singleGuardRemark ∨
        w ∈ f.checkReach.warnings ∨ w.remark = cycleRemark := by
  rw [warnings_check (defects_check h).1] at hw
  rcases List.mem_append.1 hw with hw | hw
  · rcases List.mem_append.1 hw with hw | hw
    · obtain ⟨n, hn, hw⟩ := List.mem_flatMap.1 hw
      rcases mem_warnings_checkNode hw with hw | hw | hw
      · exact .inl ⟨n, hn, hw⟩
      · exact .inr (.inl ⟨n, hn, hw⟩)
      · exact .inr (.inr (.inl hw))
    · exact .inr (.inr (.inr (.inl hw)))
  · exact .inr (.inr (.inr (.inr (remark_of_checkCycles hw))))

/-- A warning on a node is one of the check. -/
theorem mem_warnings_of_checkNode {f : Flow} (h : f.check.isValid = true) {n : Node}
    (hn : n ∈ f.nodes) {w : Warning}
    (hw : w ∈ (checkEdges n false n.edges).warnings ∨ w ∈ (f.checkTask n).warnings) :
    w ∈ f.check.warnings := by
  rw [warnings_check (defects_check h).1]
  refine List.mem_append_left _ (List.mem_append_left _ (List.mem_flatMap.2 ⟨n, hn, ?_⟩))
  unfold checkNode
  simp only [append_warnings, List.mem_append]
  rcases hw with hw | hw
  · exact .inl (.inl (.inr hw))
  · exact .inl (.inr hw)

/-! ### Warnings of dead ends -/

/-- What a check remarks on a router that may have no way out. -/
def deadEndRemark : String := "no default route; a turn may dead-end here"

/-- Whether a node is a router without a default whose edges all have guards. -/
def MayDeadEnd (n : Node) : Prop :=
  (∃ r, n.task = .router r ∧ r.default = none) ∧ ∀ e ∈ n.edges, e.guard? ≠ none

theorem hasOpenEdge_eq_false {n : Node} :
    hasOpenEdge n = false ↔ ∀ e ∈ n.edges, e.guard? ≠ none := by
  simp [hasOpenEdge, trimmedGuard?]

/-- A check of what a node does warns of a dead end exactly when there may be one. -/
theorem mem_warnings_checkTask {f : Flow} {n : Node} (h : (f.checkTask n).defects = [])
    {id : String} :
    ⟨id, deadEndRemark⟩ ∈ (f.checkTask n).warnings ↔ n.id = id ∧ MayDeadEnd n := by
  unfold checkTask at h ⊢
  cases hn : n.task with
  | router r =>
    rw [hn] at h
    have hm : MayDeadEnd n ↔ r.default = none ∧ hasOpenEdge n = false := by
      rw [hasOpenEdge_eq_false]
      refine ⟨fun ⟨⟨r', hr, hd⟩, he⟩ => ⟨?_, he⟩, fun ⟨hd, he⟩ => ⟨⟨r, hn, hd⟩, he⟩⟩
      cases hn.symm.trans hr
      exact hd
    dsimp only at h ⊢
    split at h
    · cases h
    · rename_i hr
      rw [if_neg hr, warnings_onlyIf, hm]
      cases r.default <;> cases hasOpenEdge n <;> simp [eq_comm, deadEndRemark]
  | trigger => simp [MayDeadEnd, hn]
  | message m => simp [MayDeadEnd, hn]
  | input q => simp [MayDeadEnd, hn, warnings_checkQuestion]
  | confirmation c => simp [MayDeadEnd, hn]
  | action a => simp [MayDeadEnd, hn]
  | model m => simp [MayDeadEnd, hn, warnings_checkModel]

/-- The remarks on what a node does are on dead ends. -/
theorem remark_of_checkTask {f : Flow} {n : Node} {w : Warning}
    (h : w ∈ (f.checkTask n).warnings) : w.remark = deadEndRemark := by
  unfold checkTask at h
  cases hn : n.task with
  | router r =>
    simp only [hn] at h
    split at h
    · cases h
    · rw [warnings_onlyIf] at h
      split at h
      · rw [List.mem_singleton.1 h]
        rfl
      · cases h
  | trigger => simp [hn] at h
  | message m => simp [hn] at h
  | input q => simp [hn, warnings_checkQuestion] at h
  | confirmation c => simp [hn] at h
  | action a => simp [hn] at h
  | model m => simp [hn, warnings_checkModel] at h

/-- **A flow without defects is warned of a dead end exactly for each router that may have one.** -/
theorem mem_warnings_check {f : Flow} (h : f.check.isValid = true) {id : String} :
    ⟨id, deadEndRemark⟩ ∈ f.check.warnings ↔ ∃ n ∈ f.nodes, n.id = id ∧ MayDeadEnd n := by
  obtain ⟨-, -, -, hnodes⟩ := defects_check h
  constructor
  · intro hw
    rcases cases_of_mem_warnings h hw with ⟨n, hn, hw⟩ | ⟨n, hn, hw⟩ | hw | hw | hw
    · rcases head_of_checkEdges hw with hh | hh
      · exact absurd (show deadEndRemark.toList.head? = _ from hh) (by decide)
      · exact absurd (show deadEndRemark.toList.head? = _ from hh) (by decide)
    · exact ⟨n, hn, (mem_warnings_checkTask (hnodes n hn).2.2).1 hw⟩
    · exact absurd (show deadEndRemark = singleGuardRemark from hw) (by decide)
    · exact absurd (show deadEndRemark = _ from remark_of_checkReach hw) (by decide)
    · exact absurd (show deadEndRemark = cycleRemark from hw) (by decide)
  · rintro ⟨n, hn, hm⟩
    exact mem_warnings_of_checkNode h hn (.inr ((mem_warnings_checkTask (hnodes n hn).2.2).2 hm))

end Flow

end Dialogue
