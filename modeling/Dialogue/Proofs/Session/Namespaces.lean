import Mathlib.Data.List.Induction
import Dialogue.Proofs.Session.Scope

/-!
# Namespaces as logs

What nodes produce is merged into two kinds of namespaces at once: the record of the node, which
keeps everything, and the values of all nodes, which take what is exported and is not null. Read as
a log of productions, each namespace holds under each name what was last written there, and nothing
else makes a difference.

* `Production.write?`: what a production writes under a name in a namespace.
* `Session.get?_merge_production`: what one production does to each name.
* `Session.get?_absorb`: what a whole log does to it.
* `Session.logged_absorb`: the namespaces of a new session are logs in which the last write counts.
-/

namespace Dialogue

open Fields (Sorted known? get?_merge get?_insert_self get?_insert_of_ne)

/-- What a node has produced in a visit, and under which names it is exported. -/
structure Production where
  node : String
  values : Fields Value
  exports : List String
  sorted : Sorted values

namespace Production

/-- What a production writes under a name: for all nodes what it exports, unless that is null, and
for its own node whatever it has produced. -/
def write? (p : Production) (name : String) : Namespace → Option Value
  | .shared => if name ∈ p.exports then known? p.values name else none
  | .node id => if id = p.node then Fields.get? p.values name else none

/-- A production concerns a name in a namespace when it has produced something of that name, and the
namespace is not that of another node. -/
def concerns (p : Production) (name : String) (space : Namespace) : Bool :=
  Fields.has p.values name && match space with
    | .shared => true
    | .node id => id == p.node

variable {p : Production} {name : String}

theorem write?_eq_none {space : Namespace} (h : p.concerns name space = false) :
    p.write? name space = none := by
  cases space with
  | shared =>
    simp only [concerns, Bool.and_true, Fields.has, Option.isSome_eq_false_iff,
      Option.isNone_iff_eq_none] at h
    simp [write?, known?, h]
  | node id =>
    by_cases hid : id = p.node
    · simp only [concerns, hid, beq_self_eq_true, Bool.and_true, Fields.has,
        Option.isSome_eq_false_iff, Option.isNone_iff_eq_none] at h
      simp [write?, hid, h]
    · simp [write?, hid]

/-- Nothing that is written for all nodes is null. -/
theorem ne_null_of_write? {v : Value} (h : p.write? name .shared = some v) : v ≠ .null := by
  simp only [write?] at h
  split at h
  · simpa using (Option.filter_eq_some_iff.1 h).2
  · cases h

end Production

namespace Session

variable {s : Session} {name : String}

/-- The session after all productions of a log. -/
def absorb (s : Session) (log : List Production) : Session :=
  log.foldl (fun s p => s.merge p.node p.values p.exports) s

theorem absorb_concat (s : Session) (log : List Production) (p : Production) :
    s.absorb (log ++ [p]) = (s.absorb log).merge p.node p.values p.exports := by
  rw [absorb, List.foldl_append]
  rfl

/-! ### One production -/

/-- A production puts what it writes in place of what was there, and leaves all else. -/
theorem get?_merge_production (s : Session) (p : Production) (name : String) (space : Namespace) :
    (s.merge p.node p.values p.exports).get? name space =
      (p.write? name space).or (s.get? name space) := by
  cases space with
  | shared => exact get?_exported p.values p.exports s.globals name
  | node id =>
    show (Fields.get? (Fields.insert p.node _ s.records) id).bind _ = _
    by_cases hid : id = p.node
    · subst hid
      rw [get?_insert_self, Option.bind_some, get?_merge p.sorted.nodup_names, get?_node,
        Production.write?, if_pos rfl]
    · rw [get?_insert_of_ne hid, Production.write?, if_neg hid]
      rfl

/-! ### Whole logs -/

/-- After a log each name stands for what was last written under it, and else for what it stood for
before. -/
theorem get?_absorb (s : Session) (log : List Production) (name : String) (space : Namespace) :
    (s.absorb log).get? name space =
      (log.filterMap (·.write? name space)).getLast?.or (s.get? name space) := by
  induction log using List.reverseRecOn with
  | nil => rfl
  | append_singleton log p ih =>
    rw [absorb_concat, get?_merge_production, ih, List.filterMap_append]
    cases hw : p.write? name space with
    | none => simp [hw]
    | some v => simp [hw]

/-- What a namespace holds under a name depends on the productions that concern it. -/
theorem filterMap_write?_concerns (log : List Production) (name : String) (space : Namespace) :
    (log.filter (·.concerns name space)).filterMap (·.write? name space) =
      log.filterMap (·.write? name space) := by
  rw [List.filterMap_filter]
  refine congrArg (List.filterMap · log) (funext fun p => ?_)
  cases hc : p.concerns name space with
  | true => rfl
  | false => exact (Production.write?_eq_none hc).symm

/-- How a session keeps what a log has written. -/
structure Logged (before : Session) (log : List Production) (name : String) (space : Namespace) :
    Prop where
  /-- The last write counts; without any there is nothing. -/
  last : (before.absorb log).get? name space = (log.filterMap (·.write? name space)).getLast?
  /-- Only productions under this name, and for the record of a node only those of the node, make a
  difference. -/
  apart : (before.absorb log).get? name space =
    (before.absorb (log.filter (·.concerns name space))).get? name space
  /-- What all nodes know is never null. -/
  known : ∀ v, (before.absorb log).get? name .shared = some v → v ≠ .null
  /-- What is known once stays known, whatever is produced later. -/
  kept : ∀ later, ((before.absorb log).get? name space).isSome →
    ((before.absorb (log ++ later)).get? name space).isSome

/-- **The namespaces of a new session are logs**: after any productions each name stands for what
was last written under it there. -/
theorem logged_absorb (id tenant contact : String) (f : Flow) (window : Nat) (idle : Span)
    (now : Moment) (log : List Production) (name : String) (space : Namespace) :
    Logged (.start id tenant contact f window idle now) log name space := by
  have hlast : ∀ log space,
      ((start id tenant contact f window idle now).absorb log).get? name space =
        (log.filterMap (·.write? name space)).getLast? := by
    intro log space
    rw [get?_absorb]
    cases space <;> exact Option.or_none
  refine ⟨hlast log space, ?_, fun v hv => ?_, fun later hsome => ?_⟩
  · rw [hlast, hlast, filterMap_write?_concerns]
  · rw [hlast] at hv
    obtain ⟨p, -, hp⟩ := List.mem_filterMap.1 (List.mem_of_getLast? hv)
    exact Production.ne_null_of_write? hp
  · rw [hlast] at hsome ⊢
    rw [List.filterMap_append, List.getLast?_append]
    cases (later.filterMap (·.write? name space)).getLast? with
    | none => exact hsome
    | some v => rfl

/-- A title that was exported outlives a null under its name, in the record of whose node the null
takes its place. -/
example :
    let log : List Production :=
      [⟨"a", [("titulo", .text "Dune")], ["titulo"], List.pairwise_singleton _ _⟩,
        ⟨"a", [("titulo", .null)], ["titulo"], List.pairwise_singleton _ _⟩]
    let s := (start "s" "acme" "555" (.new "acme" "f" "F" "a") 20 (idleMinutes 30) ⟨0, 0⟩).absorb log
    s.get? "titulo" .shared = some (.text "Dune") ∧ s.get? "titulo" (.node "a") = some .null := by
  decide

end Session

end Dialogue
