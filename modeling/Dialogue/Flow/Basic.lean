import Dialogue.Value.Basic

/-!
# Flows

A flow is a conversation graph of one tenant: nodes with what they do, edges with guards, and the
back ends that nodes call. A node is a definition; what happens in a conversation is kept elsewhere.

`Flow.build` settles the graph of a flow, whose arcs stand in the order in which nodes declare them.
-/

namespace Dialogue

/-- An edge to another node, with a guard and a label. -/
structure Edge where
  target : String
  condition : Option String
  label : Option String
  deriving DecidableEq, Repr, Inhabited

namespace Edge

/-- An edge without a guard. -/
def toward (target : String) : Edge := ⟨target, none, none⟩

/-- An edge with a guard. -/
def when (target condition : String) : Edge := ⟨target, some condition, none⟩

end Edge

/-- How a flow is chosen for a contact: by keywords, or always. -/
inductive TriggerMode where
  | keyword
  | always
  deriving DecidableEq, Repr, Inhabited

/-- When a flow is chosen for a contact without a conversation. -/
structure Triggers where
  keywords : List String
  priority : Int
  mode : TriggerMode
  deriving DecidableEq, Repr

instance : Inhabited Triggers := ⟨⟨[], 0, .keyword⟩⟩

/-- What a flow settles for itself instead of taking it from the engine. -/
structure FlowSettings where
  idleMinutes : Option Nat
  allowAbandon : Bool
  abandonKeywords : Option (List String)
  abandonMessage : Option String
  fallbackMessage : Option String
  humanContact : Option String
  deriving DecidableEq, Repr

instance : Inhabited FlowSettings := ⟨⟨none, true, none, none, none, none⟩⟩

/-- Where a key is sent. -/
inductive KeyPlace where
  | header
  | query
  deriving DecidableEq, Repr, Inhabited

/-- How a back end knows who calls. -/
inductive Credentials where
  | bearer (token : String) (header : Option String)
  | apiKey (key name : String) (place : KeyPlace)
  | basic (username password : String)
  deriving DecidableEq, Repr

/-- A back end that nodes call. -/
structure Api where
  id : String
  baseUrl : String
  headers : Fields String
  credentials : Option Credentials
  timeoutMs : Option Nat
  maxAttempts : Option Nat
  deriving DecidableEq, Repr

/-- The kinds of nodes. -/
inductive Kind where
  | trigger
  | input
  | confirmation
  | message
  | action
  | router
  | model
  deriving DecidableEq, Repr, Inhabited

namespace Kind

/-- The name of a kind. -/
def name : Kind → String
  | trigger => "trigger"
  | input => "input"
  | confirmation => "confirmation"
  | message => "message"
  | action => "action"
  | router => "router"
  | model => "llm"

end Kind

/-- What an answer has to be. -/
inductive AnswerType where
  | text
  | number
  | email
  | phone
  | date
  deriving DecidableEq, Repr, Inhabited

/-- A question: the variable for its answer and the rules that the answer has to meet. With options
it is a menu. -/
structure Question where
  variableName : String
  options : Fields String
  answerType : AnswerType
  pattern : Option String
  minLength : Option Nat
  maxLength : Option Nat
  required : Bool
  maxAttempts : Nat
  fallback : Option String
  errorMessage : Option String
  isGlobal : Bool
  deriving DecidableEq, Repr

/-- A question for a text, with the usual three attempts. -/
def Question.named (name : String) : Question :=
  ⟨name, [], .text, none, none, none, true, 3, none, none, true⟩

/-- A question to be answered with yes or no. -/
structure Confirmation where
  variableName : String
  onYes : Option String
  onNo : Option String
  maxAttempts : Nat
  fallback : Option String
  errorMessage : Option String
  isGlobal : Bool
  deriving DecidableEq, Repr

/-- A message, after which the turn may end until the contact replies. -/
structure Announcement where
  awaitReply : Bool
  deriving DecidableEq, Repr

/-- The methods of calls. -/
inductive Method where
  | get
  | post
  | put
  | patch
  | delete
  deriving DecidableEq, Repr, Inhabited

namespace Method

/-- The name of a method. -/
def name : Method → String
  | get => "GET"
  | post => "POST"
  | put => "PUT"
  | patch => "PATCH"
  | delete => "DELETE"

end Method

/-- What is taken out of a response: fields of the response, or of each item of a list in it. -/
structure Extraction where
  arrayPath : Option String
  fields : Fields String
  into : Option String
  deriving DecidableEq, Repr

/-- A call to a back end. -/
structure Action where
  api : String
  method : Method
  path : String
  params : Fields String
  query : Fields String
  headers : Fields String
  body : Option Value
  output : Option String
  extract : Option Extraction
  timeoutMs : Option Nat
  onSuccess : Option String
  onError : Option String
  isGlobal : Bool
  deriving DecidableEq, Repr

/-- A choice between edges. -/
structure Router where
  default : Option String
  deriving DecidableEq, Repr

/-- What a language model is asked for. -/
inductive Role where
  | conversational
  | extractor
  | classifier
  deriving DecidableEq, Repr, Inhabited

/-- The types of fields that a model is asked for. -/
inductive FieldType where
  | string
  | number
  | boolean
  | date
  | any
  deriving DecidableEq, Repr, Inhabited

namespace FieldType

/-- The name of a type. -/
def name : FieldType → String
  | string => "string"
  | number => "number"
  | boolean => "boolean"
  | date => "date"
  | any => "any"

end FieldType

/-- A field that a model is asked for. -/
structure FieldSpec where
  name : String
  type : FieldType
  required : Bool
  description : Option String
  examples : List String
  deriving DecidableEq, Repr

/-- Text that a conversational model is given to know. -/
structure Knowledge where
  title : String
  content : String
  keywords : List String
  deriving DecidableEq, Repr

/-- A call to a language model. -/
structure Model where
  role : Role
  model : Option String
  temperature : Option Binary64
  maxTokens : Option Nat
  output : Option String
  persona : Option String
  knowledge : List Knowledge
  collect : List FieldSpec
  completionToken : Option String
  fields : List FieldSpec
  labels : List String
  defaultLabel : Option String
  maxAttempts : Nat
  reprompt : Option String
  onError : Option String
  isGlobal : Bool
  deriving DecidableEq, Repr

/-- A model in a role, everything else as usual. -/
def Model.inRole (role : Role) : Model :=
  ⟨role, none, none, none, none, none, [], [], none, [], [], none, 3, none, none, true⟩

/-- What a node does. -/
inductive Task where
  | trigger
  | input (q : Question)
  | confirmation (c : Confirmation)
  | message (m : Announcement)
  | action (a : Action)
  | router (r : Router)
  | model (m : Model)
  deriving DecidableEq, Repr

namespace Task

/-- The kind of what a node does. -/
def kind : Task → Kind
  | trigger => .trigger
  | input _ => .input
  | confirmation _ => .confirmation
  | message _ => .message
  | action _ => .action
  | router _ => .router
  | model _ => .model

/-- The names of the nodes that the settings of a task lead to, each with what it stands for. -/
def outcomeTargets : Task → List (String × String)
  | trigger | message _ => []
  | input q => [("fallback", q.fallback)].filterMap set?
  | confirmation c =>
    [("on_yes", c.onYes), ("on_no", c.onNo), ("fallback", c.fallback)].filterMap set?
  | action a => [("on_success", a.onSuccess), ("on_error", a.onError)].filterMap set?
  | router r => [("default", r.default)].filterMap set?
  | model m => [("on_error", m.onError)].filterMap set?
where
  /-- A name with a target, when there is one. -/
  set? (named : String × Option String) : Option (String × String) :=
    named.2.map fun target => (named.1, target)

end Task

/-- A step of a flow. -/
structure Node where
  id : String
  task : Task
  template : Option String
  edges : List Edge
  deriving DecidableEq, Repr

namespace Node

/-- A node without a text and without edges. -/
def of (id : String) (task : Task) : Node := ⟨id, task, none, []⟩

/-- The kind of a node. -/
def kind (n : Node) : Kind := n.task.kind

/-- The names of the nodes that a node leads to: along its edges, then by its settings. -/
def targets (n : Node) : List String :=
  n.edges.map (·.target) ++ n.task.outcomeTargets.map (·.2)

end Node

/-- What an arc of a graph stands for: an edge, or a target in the settings of a task. -/
inductive Link where
  | edge
  | outcome (name : String)
  deriving DecidableEq, Repr

/-- An arc of a graph. -/
structure Arc where
  source : String
  target : String
  link : Link
  deriving DecidableEq, Repr

/-- The graph of a flow: the names of its nodes, each once and in order of first occurrence, and the
arcs between them in order of declaration. -/
structure Graph where
  vertices : List String
  arcs : List Arc
  deriving DecidableEq, Repr

instance : Inhabited Graph := ⟨⟨[], []⟩⟩

/-- A conversation of one tenant. The positions of nodes and the graph belong to the nodes that were
there when the flow was last built. -/
structure Flow where
  tenant : String
  id : String
  name : String
  version : Nat
  active : Bool
  entry : String
  constants : Fields Value
  triggers : Triggers
  apis : List Api
  settings : FlowSettings
  nodes : List Node
  positions : List (String × Nat)
  graph : Graph
  deriving DecidableEq, Repr

namespace Flow

/-- The longest idle time that a flow may ask for, in minutes: one year. -/
def longestIdle : Nat := 525600

/-- A flow without nodes. -/
def new (tenant id name entry : String) : Flow :=
  ⟨tenant, id, name, 1, true, entry, [], default, [], default, [], [], default⟩

/-- Adds a node at the end. -/
def addNode (f : Flow) (n : Node) : Flow := { f with nodes := f.nodes ++ [n] }

/-- Sets the keywords that choose the flow, and its priority. -/
def withKeywords (f : Flow) (keywords : List String) (priority : Int) : Flow :=
  { f with triggers := { f.triggers with keywords, priority } }

/-- Sets a constant of the flow. -/
def withConstant (f : Flow) (name : String) (value : Value) : Flow :=
  { f with constants := Fields.insert name value f.constants }

/-- Adds a back end. -/
def withApi (f : Flow) (api : Api) : Flow := { f with apis := f.apis ++ [api] }

/-- The key of a flow among those of all tenants. -/
def keyOf (tenant id : String) : String := tenant ++ "/" ++ id

/-- The key of this flow among those of all tenants. -/
def key (f : Flow) : String := keyOf f.tenant f.id

/-- Names with the position of the first node of each; `i` is the position of the first node. -/
def positionsFrom (i : Nat) (known : List String) : List Node → List (String × Nat)
  | [] => []
  | n :: more =>
    if known.contains n.id then positionsFrom (i + 1) known more
    else (n.id, i) :: positionsFrom (i + 1) (n.id :: known) more

/-- The arcs from a node to those of its targets that exist. -/
def arcsOf (vertices : List String) (n : Node) : List Arc :=
  let named := n.edges.map (fun e => (⟨n.id, e.target, .edge⟩ : Arc))
    ++ n.task.outcomeTargets.map fun (name, target) => ⟨n.id, target, .outcome name⟩
  named.filter fun a => vertices.contains a.target

/-- Settles the positions of nodes and the graph. -/
def build (f : Flow) : Flow :=
  let positions := positionsFrom 0 [] f.nodes
  let vertices := positions.map (·.1)
  { f with positions, graph := ⟨vertices, f.nodes.flatMap (arcsOf vertices)⟩ }

/-- The node of a name. -/
def node? (f : Flow) (id : String) : Option Node :=
  match f.positions.find? (·.1 == id) with
  | some (_, i) => f.nodes[i]?
  | none => f.nodes.find? (·.id == id)

/-- Whether the graph has a vertex of this name. -/
def isIndexed (f : Flow) (id : String) : Bool := f.graph.vertices.contains id

/-- The back end of a name. -/
def api? (f : Flow) (id : String) : Option Api := f.apis.find? (·.id == id)

end Flow

end Dialogue
