import Dialogue.Value.Written
import Dialogue.Flow.Basic

/-!
# Defects of flows

A defect is a mistake in the definition of a flow. Most are found when a flow is checked; the others
end the turn in which they are met.
-/

namespace Dialogue

/-- A mistake in the definition of a flow. -/
inductive Defect where
  | noNodes (flow : String)
  | repeatedNode (node : String)
  | noEntry (entry : String)
  | severalRoots (roots : List String)
  | entryIsNoRoot (entry root : String)
  | dangling (source target : String)
  | fansOut (node : String) (kind : Kind) (count : Nat)
  | noRoutes (node : String)
  | deadEnd (node : String)
  | badGuard (node written reason : String)
  | badPattern (node reason : String)
  | unknownApi (node api : String)
  | badAddress (api reason : String)
  | badSettings (node reason : String)
  | idleTooLong (flow : String) (minutes limit : Nat)
  | unknownNode (node : String)
  | tooManySteps (limit : Nat)
  deriving DecidableEq, Repr

namespace Defect

/-- The wording of a defect. -/
def message : Defect → String
  | noNodes flow => "flow `" ++ flow ++ "` has no nodes"
  | repeatedNode node => "duplicate node id `" ++ node ++ "`"
  | noEntry entry => "entry node `" ++ entry ++ "` does not exist"
  | severalRoots roots =>
    "expected exactly one node without incoming edges, found " ++ toString roots.length ++ ": ["
      ++ String.intercalate ", " roots ++ "]"
  | entryIsNoRoot entry root =>
    "entry node `" ++ entry ++ "` has incoming edges; the only root is `" ++ root ++ "`"
  | dangling source target =>
    "node `" ++ source ++ "` points at unknown node `" ++ target ++ "`"
  | fansOut node kind count =>
    "node `" ++ node ++ "` (" ++ kind.name ++ ") has " ++ toString count
      ++ " outgoing edges; only routers may fan out"
  | noRoutes node => "router `" ++ node ++ "` has neither a default nor any edges"
  | deadEnd node => "router `" ++ node ++ "` matched no edge and has no default"
  | badGuard node written reason =>
    "node `" ++ node ++ "` has an invalid condition `" ++ written ++ "`: " ++ reason
  | badPattern node reason => "node `" ++ node ++ "` has an invalid pattern: " ++ reason
  | unknownApi node api => "node `" ++ node ++ "` references unknown api `" ++ api ++ "`"
  | badAddress api reason => "api `" ++ api ++ "` has an invalid base url: " ++ reason
  | badSettings node reason => "node `" ++ node ++ "` is misconfigured: " ++ reason
  | idleTooLong flow minutes limit =>
    "flow `" ++ flow ++ "` idle timeout of " ++ toString minutes ++ " minutes exceeds the "
      ++ toString limit ++ " minute limit"
  | unknownNode node => "node `" ++ node ++ "` not found"
  | tooManySteps limit => "turn exceeded " ++ toString limit ++ " steps"

/-- A defect as a document: its name with what belongs to it. -/
def toValue : Defect → Value
  | noNodes flow => .single "Empty" (.text flow)
  | repeatedNode node => .single "DuplicateNode" (.text node)
  | noEntry entry => .single "MissingEntry" (.text entry)
  | severalRoots roots => .single "EntryCount" (.list (roots.map .text))
  | entryIsNoRoot entry root =>
    .single "EntryNotRoot" (.record [("entry", .text entry), ("root", .text root)])
  | dangling source target =>
    .single "DanglingEdge" (.record [("from", .text source), ("to", .text target)])
  | fansOut node kind count =>
    .single "OutDegree"
      (.record [("node", .text node), ("kind", .text kind.name), ("count", .int count)])
  | noRoutes node => .single "RouterWithoutRoutes" (.text node)
  | deadEnd node => .single "RouterDeadEnd" (.text node)
  | badGuard node written reason =>
    .single "BadCondition"
      (.record [("node", .text node), ("expr", .text written), ("reason", .text reason)])
  | badPattern node reason =>
    .single "BadPattern" (.record [("node", .text node), ("reason", .text reason)])
  | unknownApi node api =>
    .single "UnknownApi" (.record [("node", .text node), ("api", .text api)])
  | badAddress api reason =>
    .single "BadBaseUrl" (.record [("api", .text api), ("reason", .text reason)])
  | badSettings node reason =>
    .single "BadConfig" (.record [("node", .text node), ("reason", .text reason)])
  | idleTooLong flow minutes limit =>
    .single "IdleTimeoutTooLong"
      (.record [("flow", .text flow), ("mins", .int minutes), ("max", .int limit)])
  | unknownNode node => .single "UnknownNode" (.text node)
  | tooManySteps limit => .single "StepLimit" (.int limit)

end Defect

end Dialogue
