import Dialogue.Call.Fault
import Dialogue.Flow.Defect
import Dialogue.Text.Class

/-!
# Outcomes of nodes

An outcome says what a node has produced, what the bot says, where the conversation goes next, and
whether the turn ends there. It is built up from one of three beginnings.
-/

namespace Dialogue

open Text

/-- Where the conversation goes after a node: along the first open edge, to a node that the settings
name, nowhere, or to the end of the flow. -/
inductive Next where
  | edges
  | node (id : String)
  | stay
  | finish
  deriving DecidableEq, Repr, Inhabited

/-- What a node has produced. The count of refused answers is forgotten unless it is given. -/
structure Outcome where
  outputs : Fields Value
  exports : List String
  messages : List String
  next : Next
  awaiting : Bool
  refused : Option Nat
  deriving DecidableEq, Repr, Inhabited

namespace Outcome

/-- On along the edges. -/
def follow : Outcome := ⟨[], [], [], .edges, false, none⟩

/-- On to a node. -/
def goto (target : String) : Outcome := { follow with next := .node target }

/-- On to a node when it is set, and else along the edges. -/
def gotoOr (target : Option String) : Outcome := (target.map goto).getD follow

/-- Adds a message unless it is blank. -/
def say (o : Outcome) (text : String) : Outcome :=
  if trim text.toList = [] then o else { o with messages := o.messages ++ [text] }

/-- Stays on the node until the contact replies. -/
def wait (prompt : String) : Outcome := { follow with next := .stay, awaiting := true }.say prompt

/-- Puts a value under a name, which may be exported. -/
def set (o : Outcome) (name : String) (value : Value) (export? : Bool) : Outcome :=
  { o with
    outputs := Fields.insert name value o.outputs
    exports := if export? && !o.exports.contains name then o.exports ++ [name] else o.exports }

/-- Puts all values of a record. -/
def setAll (o : Outcome) (values : Fields Value) (export? : Bool) : Outcome :=
  values.foldl (fun o (name, value) => o.set name value export?) o

/-- Notes how many answers were refused. -/
def withRefused (o : Outcome) (count : Nat) : Outcome := { o with refused := some count }

end Outcome

/-- Why a turn cannot go on after a node. -/
inductive NodeFault where
  | defect (d : Defect)
  | call (f : CallFault)
  | exhausted (node : String)
  deriving DecidableEq, Repr

/-- The wording of a fault. -/
def NodeFault.message : NodeFault → String
  | defect d => d.message
  | call f => f.message
  | exhausted node => "attempts exhausted at node `" ++ node ++ "` with no fallback"

/-- What comes of a node. -/
abbrev NodeResult := Except NodeFault Outcome

end Dialogue
