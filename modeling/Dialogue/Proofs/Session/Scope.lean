import Dialogue.Session.Basic
import Dialogue.Proofs.Value.Fields

/-!
# What a bare name stands for

A bare name is meant to stand for what the latest node has just produced under it, else for the value
of all nodes, else for the variable of the flow. The record of a node keeps what earlier visits have
produced, though, so that a value which the latest visit did not produce again comes first.

* `Session.get?_scopeFields`: where each bare name is looked up, in which order.
* `Session.field?_scope_merge`: what a name stands for after a visit, leftovers of earlier ones first.
* `Session.scope_merge_iff`: a name stands for what it is meant to exactly when no leftover differs.
-/

namespace Dialogue

namespace Fields

/-- The value under a name, unless it is null. -/
def known? (fields : Fields Value) (name : String) : Option Value :=
  (get? fields name).filter (· ≠ .null)

theorem known?_cons_of_ne {key name : String} (h : key ≠ name) (value : Value)
    (fields : Fields Value) : known? ((key, value) :: fields) name = known? fields name := by
  rw [known?, get?_cons, if_neg h, known?]

end Fields

namespace Session

open Fields (known? known?_cons_of_ne has insert Sorted get?_cons get?_eq_none get?_insert_self
  get?_insert_of_ne get?_merge sorted_insert sorted_merge)

variable {s : Session} {name node : String}

/-! ### Layers of a scope -/

/-- The names under which whole groups of values are found. -/
def reservedNames : List String := ["contact", "flow", "global", "last_message", "tenant"]

theorem get?_withRecords (records : Fields (Fields Value)) (root : Fields Value) (name : String) :
    Fields.get? (withRecords records root) name =
      (Fields.get? root name).or ((Fields.get? records name).map .record) := by
  induction records generalizing root with
  | nil => exact (Option.or_none).symm
  | cons entry records ih =>
    obtain ⟨node, record⟩ := entry
    have hstep : withRecords ((node, record) :: records) root =
        withRecords records (if has root node then root else insert node (.record record) root) :=
      rfl
    rw [hstep, ih, get?_cons]
    by_cases hn : node = name
    · subst hn
      cases hr : Fields.get? root node with
      | none => simp [has, hr]
      | some value => simp [has, hr]
    · rw [if_neg hn]
      split
      · rfl
      · rw [get?_insert_of_ne (Ne.symm hn)]

theorem get?_withKnown {record : Fields Value} (h : (record.map (·.1)).Nodup)
    (root : Fields Value) (name : String) :
    Fields.get? (withKnown record root) name = (known? record name).or (Fields.get? root name) := by
  induction record generalizing root with
  | nil => rfl
  | cons entry record ih =>
    obtain ⟨key, value⟩ := entry
    obtain ⟨hkey, hn⟩ := List.nodup_cons.1 h
    have hstep : withKnown ((key, value) :: record) root =
        withKnown record (if value = .null then root else insert key value root) := rfl
    rw [hstep, ih hn]
    by_cases hk : key = name
    · subst hk
      have hnone : known? record key = none := by rw [known?, get?_eq_none hkey]; rfl
      rw [hnone, known?, get?_cons, if_pos rfl]
      by_cases hv : value = .null
      · rw [if_pos hv, hv]
        rfl
      · rw [if_neg hv, get?_insert_self]
        simp [Option.filter, hv]
    · rw [known?_cons_of_ne hk]
      split
      · rfl
      · rw [get?_insert_of_ne (Ne.symm hk)]

/-! ### Exported values -/

theorem exported_cons (values : Fields Value) (name : String) (names : List String)
    (globals : Fields Value) : exported values (name :: names) globals =
      exported values names
        (((known? values name).map (insert name · globals)).getD globals) := by
  refine congrArg (exported values names) ?_
  dsimp only
  split
  · rename_i hv
    simp [known?, hv]
  · rename_i hv
    simp [known?, hv, Option.filter]
  · rename_i v hnull hv
    have hne : v ≠ .null := hnull
    simp [known?, hv, hne, Option.filter]

/-- What is exported and not null comes in place of what was there. -/
theorem get?_exported (values : Fields Value) (names : List String) (globals : Fields Value)
    (name : String) : Fields.get? (exported values names globals) name =
      (if name ∈ names then known? values name else none).or (Fields.get? globals name) := by
  induction names generalizing globals with
  | nil => simp [exported]
  | cons other names ih =>
    rw [exported_cons, ih]
    by_cases hname : name = other
    · subst hname
      -- When the name is exported again later on, it is with the same value.
      cases known? values name with
      | none => simp
      | some v => by_cases hm : name ∈ names <;> simp [hm]
    · have hkept : Fields.get? (((known? values other).map
          (insert other · globals)).getD globals) name = Fields.get? globals name := by
        cases known? values other with
        | none => rfl
        | some v => exact get?_insert_of_ne hname v globals
      simp [hkept, hname]

/-! ### Values in order -/

/-- A session keeps its values in the order of their names. -/
structure Orderly (s : Session) : Prop where
  globals : Sorted s.globals
  record : ∀ node, Sorted (s.record node)

theorem Orderly.latestRecord (h : s.Orderly) : Sorted s.latestRecord := by
  unfold Session.latestRecord
  cases s.latest with
  | none => exact .nil
  | some node => exact h.record node

theorem sorted_exported (values : Fields Value) (names : List String) {globals : Fields Value}
    (h : Sorted globals) : Sorted (exported values names globals) := by
  induction names generalizing globals with
  | nil => exact h
  | cons name names ih =>
    refine ih ?_
    dsimp only
    split
    · exact h
    · exact h
    · exact sorted_insert _ _ h

theorem getD_insert (records : Fields (Fields Value)) (node : String) (record : Fields Value)
    (other : String) :
    (Fields.get? (insert node record records) other).getD [] =
      if other = node then record else (Fields.get? records other).getD [] := by
  split
  · rename_i he
    rw [he, get?_insert_self]
    rfl
  · rename_i he
    rw [get?_insert_of_ne he]

theorem get?_node (s : Session) (name id : String) :
    s.get? name (.node id) = Fields.get? (s.record id) name := by
  show (Fields.get? s.records id).bind _ = Fields.get? ((Fields.get? s.records id).getD []) name
  cases Fields.get? s.records id <;> rfl

theorem record_set (s : Session) (name : String) (value : Value) (node other : String) :
    (s.set name value (.node node)).record other =
      if other = node then insert name value (s.record node) else s.record other :=
  getD_insert s.records node _ other

theorem record_merge (s : Session) (node : String) (values : Fields Value)
    (exports : List String) (other : String) :
    (s.merge node values exports).record other =
      if other = node then Fields.merge (s.record node) values else s.record other :=
  getD_insert s.records node _ other

theorem latestRecord_merge (s : Session) (node : String) (values : Fields Value)
    (exports : List String) :
    (s.merge node values exports).latestRecord = Fields.merge (s.record node) values := by
  show (s.merge node values exports).record node = _
  rw [record_merge, if_pos rfl]

namespace Orderly

theorem merge (h : s.Orderly) (node : String) {values : Fields Value} (exports : List String) :
    (s.merge node values exports).Orderly := by
  refine ⟨sorted_exported values exports h.globals, fun other => ?_⟩
  rw [record_merge]
  split
  · exact sorted_merge values (h.record node)
  · exact h.record other

theorem set (h : s.Orderly) (name : String) (value : Value) (space : Namespace) :
    (s.set name value space).Orderly := by
  cases space with
  | shared => exact ⟨sorted_insert name value h.globals, h.record⟩
  | node id =>
    refine ⟨h.globals, fun other => ?_⟩
    rw [record_set]
    split
    · exact sorted_insert name value (h.record id)
    · exact h.record other

end Orderly

/-! ### Whole scopes -/

/-- A bare name is looked up among the reserved names, then in the record of the latest node, then
among the values of all nodes and the variables of the flow, and then among the nodes. -/
theorem get?_scopeFields (h : s.Orderly) (constants : Fields Value) (name : String) :
    Fields.get? (s.scopeFields constants) name =
      (Fields.get? (s.reserved constants) name).or ((known? s.latestRecord name).or
        (((Fields.get? s.globals name).or (Fields.get? constants name)).or
          ((Fields.get? s.records name).map .record))) := by
  have hr : ((s.reserved constants).map (·.1)).Nodup :=
    show reservedNames.Nodup by decide
  rw [scopeFields, get?_merge hr, get?_withKnown h.latestRecord.nodup_names, get?_withRecords,
    get?_merge h.globals.nodup_names]

theorem get?_reserved (h : name ∉ reservedNames) (s : Session) (constants : Fields Value) :
    Fields.get? (s.reserved constants) name = none :=
  get?_eq_none h

/-! ### After a visit -/

/-- What a bare name is meant to stand for when the latest node has just produced some values. -/
def intended (s : Session) (values constants : Fields Value) (name : String) : Option Value :=
  (known? values name).or ((Fields.get? s.globals name).or (Fields.get? constants name))

/-- What a node has produced in earlier visits under a name under which it now produces nothing. -/
def leftover? (s : Session) (node : String) (values : Fields Value) (name : String) :
    Option Value :=
  if has values name then none else known? (s.record node) name

theorem known?_merge (s : Session) (node : String) {values : Fields Value} (hv : Sorted values)
    (name : String) :
    known? (Fields.merge (s.record node) values) name =
      (s.leftover? node values name).or (known? values name) := by
  unfold leftover? known? has
  rw [get?_merge hv.nodup_names]
  -- What the visit has produced, null included, takes the place of what was there before.
  cases Fields.get? values name with
  | none => exact (Option.or_none).symm
  | some value => rfl

/-- After a visit a bare name stands for a leftover, if there is one, and else for what it is meant
to stand for. -/
theorem field?_scope_merge (hs : s.Orderly) {values : Fields Value} (hv : Sorted values)
    {exports : List String} (hname : name ∉ reservedNames)
    (hnode : Fields.get? (s.merge node values exports).records name = none)
    (constants : Fields Value) :
    ((s.merge node values exports).scope constants).field? name =
      (s.leftover? node values name).or
        ((s.merge node values exports).intended values constants name) := by
  show Fields.get? ((s.merge node values exports).scopeFields constants) name = _
  rw [get?_scopeFields (hs.merge node exports), get?_reserved hname, hnode, Option.map_none,
    Option.or_none, Option.none_or, latestRecord_merge, known?_merge s node hv, Option.or_assoc]
  rfl

/-- A session that nodes have filled with values, one after the other. -/
inductive Filled : Session → Prop
  | start (id tenant contact : String) (f : Flow) (window : Nat) (idle : Span) (now : Moment) :
    Filled (.start id tenant contact f window idle now)
  | set {s : Session} (h : Filled s) (name : String) (value : Value) (space : Namespace) :
    Filled (s.set name value space)
  | merge {s : Session} (h : Filled s) (node : String) {values : Fields Value}
    (hv : Sorted values) (exports : List String) : Filled (s.merge node values exports)

theorem Filled.orderly (h : s.Filled) : s.Orderly := by
  induction h with
  | start _ _ _ _ _ _ _ => exact ⟨.nil, fun _ => .nil⟩
  | set _ name value space ih => exact ih.set name value space
  | merge _ node _ exports ih => exact ih.merge node exports

/-- **After a visit a bare name stands for what it is meant to, exactly when no leftover of earlier
visits differs from that**; a leftover is what it stands for. -/
theorem scope_merge_iff (hs : s.Filled) (node : String) {values : Fields Value}
    (hv : Sorted values) (exports : List String) (constants : Fields Value)
    (hname : name ∉ reservedNames)
    (hnode : Fields.get? (s.merge node values exports).records name = none) :
    let t := s.merge node values exports
    ((t.scope constants).field? name = t.intended values constants name ↔
        ∀ v, s.leftover? node values name = some v → t.intended values constants name = some v) ∧
      ∀ v, s.leftover? node values name = some v → (t.scope constants).field? name = some v := by
  intro t
  have hsees := field?_scope_merge hs.orderly hv hname hnode constants
  cases hl : s.leftover? node values name with
  | none =>
    rw [hl, Option.none_or] at hsees
    exact ⟨⟨fun _ _ => nofun, fun _ => hsees⟩, fun _ => nofun⟩
  | some v =>
    rw [hl, Option.some_or] at hsees
    refine ⟨⟨fun h w hw => ?_, fun h => hsees.trans (h v rfl).symm⟩, fun w hw => ?_⟩
    · cases hw
      exact h.symm.trans hsees
    · cases hw
      exact hsees

/-- A session in which a search has found a title, and a later node has set another one. -/
def searched : Session :=
  ((start "s" "acme" "555" (.new "acme" "libros" "Libros" "buscar") 20 (idleMinutes 30)
    ⟨0, 0⟩).merge "buscar" [("titulo", .text "Dune")] []).set "titulo" (.text "Solaris") .shared

theorem filled_searched : searched.Filled :=
  .set (.merge (.start _ _ _ _ _ _ _) _ (List.pairwise_singleton _ _) _) _ _ _

/-- A search that finds no title, and says so, leaves the title that was set. -/
theorem scope_merge_iff_of_null :
    let values : Fields Value := [("status", .int 200), ("titulo", .null)]
    let t := searched.merge "buscar" values []
    searched.Filled ∧ Sorted values ∧ "titulo" ∉ reservedNames ∧
      Fields.get? t.records "titulo" = none ∧
      (t.scope []).field? "titulo" = some (.text "Solaris") := by
  intro values t
  have hv : Sorted values := List.pairwise_pair.2 (by decide)
  have hname : "titulo" ∉ reservedNames := by decide
  have hnode : Fields.get? t.records "titulo" = none := by decide
  have hl : searched.leftover? "buscar" values "titulo" = none := by decide
  have hsees := (scope_merge_iff filled_searched "buscar" hv [] [] hname hnode).1.2
    fun v hm => by
      rw [hl] at hm
      cases hm
  exact ⟨filled_searched, hv, hname, hnode, hsees.trans (by decide)⟩

/-- A search that fails brings the title of the search before back, in place of the one that was
set. -/
theorem not_scope_merge_of_failure :
    let values : Fields Value := [("status", .int 500)]
    let t := searched.merge "buscar" values []
    searched.Filled ∧ Sorted values ∧ "titulo" ∉ reservedNames ∧
      Fields.get? t.records "titulo" = none ∧
      t.intended values [] "titulo" = some (.text "Solaris") ∧
      (t.scope []).field? "titulo" = some (.text "Dune") :=
  ⟨filled_searched, List.pairwise_singleton _ _, by decide, by decide, by decide, by decide⟩

end Session

end Dialogue
