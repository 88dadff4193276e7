import Dialogue.Guard.Reader
import Dialogue.Pattern.Report
import Dialogue.Url.Reader
import Dialogue.Flow.Choice
import Dialogue.Flow.Defect
import Dialogue.Flow.Reach

/-!
# Checking flows

A check reads a built flow and reports defects and warnings, both in a fixed order. A flow without
defects may be registered; warnings do not stand in the way.

* `Report.append_defects`: the defects of two reports, one after the other.
* `check_of_no_nodes`: a flow without nodes has this defect only.
-/

namespace Dialogue

/-- A remark on a node that does not stand in the way of its flow. -/
structure Warning where
  node : String
  remark : String
  deriving DecidableEq, Repr

/-- The wording of a warning. -/
def Warning.message (w : Warning) : String := "node `" ++ w.node ++ "`: " ++ w.remark

/-- What a check has found. -/
structure Report where
  defects : List Defect
  warnings : List Warning
  deriving DecidableEq, Repr, Inhabited

namespace Report

/-- Nothing found. -/
def empty : Report := ⟨[], []⟩

/-- A defect. -/
def defect (d : Defect) : Report := ⟨[d], []⟩

/-- A warning. -/
def warning (node remark : String) : Report := ⟨[], [⟨node, remark⟩]⟩

instance : Append Report := ⟨fun a b => ⟨a.defects ++ b.defects, a.warnings ++ b.warnings⟩⟩

@[simp] theorem append_defects (a b : Report) : (a ++ b).defects = a.defects ++ b.defects := rfl

@[simp] theorem append_warnings (a b : Report) : (a ++ b).warnings = a.warnings ++ b.warnings := rfl

/-- What was found in several places, one after the other. -/
def all (reports : List Report) : Report := ⟨reports.flatMap (·.defects), reports.flatMap (·.warnings)⟩

/-- A report that is made only when a condition holds. -/
def onlyIf (b : Bool) (r : Report) : Report := if b then r else empty

/-- Whether nothing stands in the way of the flow. -/
def isValid (r : Report) : Bool := r.defects.isEmpty

end Report

namespace Flow

open Report

/-- The nodes whose name stood before. -/
def repeatedNodes (known : List String) : List Node → List String
  | [] => []
  | n :: more =>
    if known.contains n.id then n.id :: repeatedNodes known more
    else repeatedNodes (n.id :: known) more

/-- Targets that no node has for its name. -/
def checkTargets (f : Flow) (n : Node) : Report :=
  all ((n.targets.filter fun t => (f.node? t).isNone).map fun t => defect (.dangling n.id t))

/-- Whether several edges may leave a node. -/
def mayFanOut (f : Flow) (n : Node) : Bool :=
  n.kind == .router || n.kind == .trigger || n.id == f.entry

/-- The guard of an edge without the white space around it. -/
def trimmedGuard? (e : Edge) : Option String :=
  (e.guard?).map fun c => String.ofList (Text.trim c.toList)

/-- The guard of an edge: whether it can be read, and whether its reading may surprise. -/
def checkGuard (n : Node) (e : Edge) : Report :=
  match trimmedGuard? e with
  | none => empty
  | some written =>
    match Guard.read written with
    | .ok g =>
      onlyIf g.isMixed
        (warning n.id ("`" ++ written ++ "` mixes AND/OR; it is evaluated left to right"))
    | .error e => defect (.badGuard n.id written e.fault.reason)

/-- The edges of a node in their order; `closed` says whether an edge before is always open. -/
def checkEdges (n : Node) : (closed : Bool) → List Edge → Report
  | _, [] => empty
  | closed, e :: more =>
    onlyIf closed (warning n.id ("edge to `" ++ e.target ++ "` is never taken"))
      ++ checkGuard n e ++ checkEdges n (closed || (trimmedGuard? e).isNone) more

/-- Whether a node has an edge without a guard. -/
def hasOpenEdge (n : Node) : Bool := n.edges.any fun e => (trimmedGuard? e).isNone

/-- The question of a node. -/
def checkQuestion (n : Node) (q : Question) : Report :=
  (match q.pattern with
    | none => empty
    | some p =>
      match Pattern.read p with
      | .ok _ => empty
      | .error reason => defect (.badPattern n.id reason)) ++
  onlyIf (q.maxAttempts == 0) (defect (.badSettings n.id "max_attempts must be at least 1")) ++
  (match q.minLength, q.maxLength with
    | some least, some most =>
      onlyIf (most < least) (defect (.badSettings n.id "min_length is larger than max_length"))
    | _, _ => empty)

/-- The call to a model of a node. -/
def checkModel (n : Node) (m : Model) : Report :=
  match m.role with
  | .conversational => empty
  | .extractor =>
    onlyIf m.fields.isEmpty (defect (.badSettings n.id "extractor declares no fields"))
  | .classifier =>
    if m.labels.isEmpty then defect (.badSettings n.id "classifier declares no labels")
    else
      match m.defaultLabel with
      | none => empty
      | some label =>
        onlyIf (!m.labels.contains label)
          (defect (.badSettings n.id ("default label `" ++ label ++ "` is not a label")))

/-- What a node does. -/
def checkTask (f : Flow) (n : Node) : Report :=
  match n.task with
  | .trigger | .message _ => empty
  | .router r =>
    if r.default.isNone && n.edges.isEmpty then defect (.noRoutes n.id)
    else
      onlyIf (r.default.isNone && !hasOpenEdge n)
        (warning n.id "no default route; a turn may dead-end here")
  | .input q => checkQuestion n q
  | .confirmation c =>
    onlyIf (c.maxAttempts == 0) (defect (.badSettings n.id "max_attempts must be at least 1"))
  | .action a => onlyIf (f.api? a.api).isNone (defect (.unknownApi n.id a.api))
  | .model m => checkModel n m

/-- One node by itself. -/
def checkNode (f : Flow) (n : Node) : Report :=
  onlyIf (!f.mayFanOut n && 1 < n.edges.length) (defect (.fansOut n.id n.kind n.edges.length)) ++
  checkEdges n false n.edges ++
  f.checkTask n ++
  onlyIf (!f.mayFanOut n && n.edges.length == 1 && n.edges.any (·.condition.isSome))
    (warning n.id "guard on a single edge; the flow ends when it fails")

/-- The node that no arc leads to: there has to be one only, the entry. -/
def checkRoots (f : Flow) : Report :=
  match f.graph.roots with
  | [root] =>
    onlyIf (root != f.entry && (f.node? f.entry).isSome) (defect (.entryIsNoRoot f.entry root))
  | roots => defect (.severalRoots (roots.mergeSort (· ≤ ·)))

/-- The nodes that no path from the entry leads to. -/
def checkReach (f : Flow) : Report :=
  if f.isIndexed f.entry then
    let reached := f.graph.explore [f.entry]
    let missed := f.graph.vertices.filter fun v => !reached.contains v
    all ((missed.mergeSort (· ≤ ·)).map fun v => warning v "unreachable from the entry node")
  else empty

/-- Whether a node never waits for a reply, whatever happens. -/
def passesThrough (n : Node) : Bool :=
  match n.task with
  | .trigger | .router _ | .action _ => true
  | .message m => !m.awaitReply
  | _ => false

/-- The graph of the nodes that never wait. -/
def passingGraph (f : Flow) : Graph :=
  let nodes := f.nodes.filter passesThrough
  let vertices := (nodes.map (·.id)).eraseDups
  { vertices, arcs := nodes.flatMap (arcsOf vertices) }

/-- Cycles without a node that waits. -/
def checkCycles (f : Flow) : Report :=
  onlyIf f.passingGraph.isCyclic
    (warning f.entry "cycle without any node that waits for input; turns will hit the step cap")

/-- The idle time that a flow asks for. -/
def checkIdle (f : Flow) : Report :=
  match f.settings.idleMinutes with
  | none => empty
  | some minutes =>
    onlyIf (longestIdle < minutes) (defect (.idleTooLong f.key minutes longestIdle))

/-- The address of a back end. -/
def checkApi (a : Api) : Report :=
  match Url.read a.baseUrl with
  | .ok _ => empty
  | .error fault => defect (.badAddress a.id fault.message)

/-- All that there is to say on a flow. -/
def check (f : Flow) : Report :=
  if f.nodes.isEmpty then defect (.noNodes f.id)
  else
    all ((repeatedNodes [] f.nodes).map fun id => defect (.repeatedNode id)) ++
    onlyIf (f.node? f.entry).isNone (defect (.noEntry f.entry)) ++
    all (f.nodes.map fun n => f.checkTargets n ++ f.checkNode n) ++
    f.checkRoots ++ f.checkReach ++ f.checkCycles ++ f.checkIdle ++
    all (f.apis.map checkApi)

theorem check_of_no_nodes {f : Flow} (h : f.nodes = []) : f.check = defect (.noNodes f.id) := by
  simp [check, h]

end Flow

end Dialogue
