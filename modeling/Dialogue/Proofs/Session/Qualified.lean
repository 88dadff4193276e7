import Dialogue.Proofs.Flow.Registered
import Dialogue.Proofs.Session.Scope
import Dialogue.Proofs.Text.Margins
import Dialogue.Proofs.Turn.Run
import Dialogue.Proofs.Value.Steps

/-!
# Qualified names

A name behind `global`, `flow` or the name of a node is meant to be sought in that namespace alone.
The groups of values and the bare names share one record, though, and the record of a node comes
last there: a value that goes by the name of the node covers it, and is looked into in its place.

* `Path.steps_qualified`: what is read of a name behind another one.
* `Session.field?_scope`: what stands under the name of a node.
* `Session.qualifies`: where each qualified name is sought, and when it is found in its namespace.
-/

namespace Dialogue

open Text

namespace Path

/-- A name in a namespace, as it is written. -/
def qualified (space name : String) : List Char := space.toList ++ '.' :: name.toList

/-- A text that can stand before the dot of a qualified name: without the marks of a path, and
without white space at its front. -/
structure IsQualifier (cs : List Char) : Prop where
  ne_nil : cs ≠ []
  head : ∀ c ∈ cs.head?, isBlank c = false
  marks : ∀ c ∈ cs, c ≠ '.' ∧ c ≠ '['

variable {cs : List Char}

theorem scan_qualified (hd : ∀ c ∈ cs, c ≠ '.' ∧ c ≠ '[') {name : List Char} (hn : IsName name) :
    scan false [] (cs ++ '.' :: name) = stepOfName cs.reverse ++ [.key (String.ofList name)] := by
  have hname := scan_name hn.marks [] []
  rw [List.append_nil, List.append_nil] at hname
  rw [scan_name hd, List.append_nil, scan, if_pos rfl, hname, scan, stepOfName_reverse hn.ne_nil]

theorem trim_qualified (hhead : ∀ c ∈ cs.head?, isBlank c = false) {name : List Char}
    (hn : IsName name) : trim (cs ++ '.' :: name) = cs ++ '.' :: name := by
  refine trim_of_firm (fun c hc => ?_) ?_
  · cases cs with
    | nil =>
      cases hc
      decide
    | cons d cs => exact hhead c hc
  · rw [List.append_cons]
    exact firm_append hn.firm hn.ne_nil _

/-- A name behind another one is a path of two steps. -/
theorem steps_qualified {space name : String} (hs : IsQualifier space.toList)
    (hn : IsName name.toList) : steps (qualified space name) = [.key space, .key name] := by
  rw [steps, qualified, trim_qualified hs.head hn, scan_qualified hs.marks hn,
    stepOfName_reverse hs.ne_nil, String.ofList_toList, String.ofList_toList]
  rfl

end Path

namespace Value

/-- A qualified name stands for a field of the value under its first part. -/
theorem lookup_qualified {space name : String} (hs : Path.IsQualifier space.toList)
    (hn : Path.IsName name.toList) (fields : Fields Value) :
    lookup (.record fields) (Path.qualified space name) =
      ((record fields).field? space).bind (step? (.key name)) := by
  rw [lookup, Path.steps_qualified hs hn]
  show (Fields.get? fields space).bind (fun v => (step? (.key name) v).bind some) = _
  simp only [Option.bind_fun_some]
  rfl

/-- White space before a qualified name is no part of it. -/
theorem lookup_blank_append {margin : List Char} (h : Blank margin) (scope : Value)
    (path : List Char) : lookup scope (margin ++ path) = lookup scope path := by
  simp only [lookup, Path.steps, trim_blank_append h]

/-- Behind nothing a name stands for what it stands for by itself. -/
theorem lookup_unqualified {name : String} (hn : Path.IsName name.toList) (fields : Fields Value) :
    lookup (.record fields) (Path.qualified "" name) = (record fields).field? name := by
  have hsteps : Path.steps (Path.qualified "" name) = [.key name] := by
    rw [Path.steps, Path.qualified, Path.trim_qualified (by simp) hn,
      Path.scan_qualified (by simp) hn, String.ofList_toList]
    rfl
  rw [lookup, hsteps]
  exact Option.bind_fun_some _

end Value

namespace Session

open Fields (known?)

variable {s : Session}

/-- What stands before the record of a node under the name of the node: what the session keeps for
itself, what the latest node has produced, a value of all nodes or a variable of the flow. -/
def cover? (s : Session) (constants : Fields Value) (node : String) : Option Value :=
  (Fields.get? (s.reserved constants) node).or
    ((known? s.latestRecord node).or ((Fields.get? s.globals node).or (Fields.get? constants node)))

/-- Under the name of a node stands its record, unless something covers it. -/
theorem field?_scope (h : s.Orderly) (constants : Fields Value) (node : String) :
    (s.scope constants).field? node =
      (s.cover? constants node).or ((Fields.get? s.records node).map .record) := by
  show Fields.get? (s.scopeFields constants) node = _
  simp only [get?_scopeFields h, cover?, Option.or_assoc]

/-- Where the qualified forms of a name are sought. -/
structure Qualifies (s : Session) (constants : Fields Value) (name : String) : Prop where
  /-- Behind `global` the name stands for the value of all nodes. -/
  shared : (s.scope constants).lookup (Path.qualified "global" name) = s.get? name .shared
  /-- Behind `flow` it stands for the variable of the flow. -/
  constant : (s.scope constants).lookup (Path.qualified "flow" name) = Fields.get? constants name
  /-- Behind the name of a node it stands for what the record of the node holds, exactly when what
  covers the record, if anything does, holds the same. -/
  node : ∀ id, Path.IsQualifier id.toList →
    ((s.scope constants).lookup (Path.qualified id name) = s.get? name (.node id) ↔
      ∀ v, s.cover? constants id = some v → Value.step? (.key name) v = s.get? name (.node id))
  /-- What covers the record of a node is looked into in its place. -/
  covered : ∀ id, Path.IsQualifier id.toList → ∀ v, s.cover? constants id = some v →
    (s.scope constants).lookup (Path.qualified id name) = Value.step? (.key name) v
  /-- White space at the front of the name of a node is not read. -/
  margin : ∀ blanks id, Blank blanks →
    (s.scope constants).lookup (Path.qualified (String.ofList blanks ++ id) name) =
      (s.scope constants).lookup (Path.qualified id name)
  /-- Behind an empty name it stands for what it stands for by itself. -/
  bare : (s.scope constants).lookup (Path.qualified "" name) = (s.scope constants).field? name

/-- **A qualified name reaches its own namespace**: always behind `global` and `flow`, and behind
the name of a node exactly when nothing that goes by this name covers the record of the node. -/
theorem qualifies (h : s.Orderly) (constants : Fields Value) {name : String}
    (hn : Path.IsName name.toList) : s.Qualifies constants name := by
  have hlookup : ∀ id, Path.IsQualifier id.toList →
      (s.scope constants).lookup (Path.qualified id name) =
        ((s.cover? constants id).or ((Fields.get? s.records id).map .record)).bind
          (Value.step? (.key name)) := fun id hid => by
    rw [← field?_scope h]
    exact Value.lookup_qualified hid hn _
  have hcovered : ∀ id, Path.IsQualifier id.toList → ∀ v, s.cover? constants id = some v →
      (s.scope constants).lookup (Path.qualified id name) = Value.step? (.key name) v :=
    fun id hid v hv => by rw [hlookup id hid, hv, Option.some_or, Option.bind_some]
  have hglobal : Path.IsQualifier "global".toList := ⟨by decide, by simp; decide, by simp⟩
  have hflow : Path.IsQualifier "flow".toList := ⟨by decide, by simp; decide, by simp⟩
  refine ⟨hcovered _ hglobal _ rfl, hcovered _ hflow _ rfl, fun id hid => ?_, hcovered,
    fun blanks id hb => ?_, Value.lookup_unqualified hn _⟩
  · cases hv : s.cover? constants id with
    | some v =>
      rw [hcovered id hid v hv]
      exact ⟨fun he w hw => Option.some.inj hw ▸ he, fun he => he v rfl⟩
    | none =>
      -- Nothing covers the record, so that the second step goes into it.
      refine iff_of_true ?_ fun v hv => by cases hv
      rw [hlookup id hid, hv, Option.none_or, Option.bind_map]
      rfl
  · rw [Path.qualified, String.toList_append, String.toList_ofList, List.append_assoc]
    exact Value.lookup_blank_append hb _ _

/-- The title that was found is told from the one that was set. -/
theorem qualifies_searched :
    searched.Orderly ∧ Path.IsName "titulo".toList ∧
      (searched.scope []).lookup (Path.qualified "global" "titulo") = some (.text "Solaris") ∧
      (searched.scope []).lookup (Path.qualified "buscar" "titulo") = some (.text "Dune") := by
  have hn : Path.IsName "titulo".toList := ⟨by decide, by decide, by simp⟩
  have hid : Path.IsQualifier "buscar".toList := ⟨by decide, by simp; decide, by simp⟩
  have hq := qualifies filled_searched.orderly [] hn
  have hcover : searched.cover? [] "buscar" = none := by decide
  refine ⟨filled_searched.orderly, hn, hq.shared, ((hq.node _ hid).2 fun v hv => ?_).trans rfl⟩
  rw [hcover] at hv
  cases hv

/-- A node that asks for a name and keeps it under its own name: the answer covers the record, and
the name is not found behind the name of the node. -/
theorem not_qualifies_askName :
    let f := Flow.askName "acme"
    let s := (start "s" "acme" "555" f.build 20 (idleMinutes 30) ⟨0, 0⟩).merge "nombre"
      [("nombre", .text "Ana")] ["nombre"]
    (∃ report r, Registry.register [] f = .ok (report, r)) ∧ (∃ n ∈ f.nodes, n.id = "nombre") ∧
      s.Filled ∧ Path.IsQualifier "nombre".toList ∧ Path.IsName "nombre".toList ∧
      s.get? "nombre" (.node "nombre") = some (.text "Ana") ∧
      (s.scope f.constants).lookup (Path.qualified "nombre" "nombre") = none :=
  ⟨⟨_, _, Registry.register_of_isValid (Flow.isValid_askName "acme") []⟩,
    ⟨_, List.mem_cons_self, rfl⟩, .merge (.start _ _ _ _ _ _ _) _ (List.pairwise_singleton _ _) _,
    ⟨by decide, by simp; decide, by simp⟩,
    ⟨by decide, by decide, by simp⟩, by decide, by decide⟩

end Session

end Dialogue
