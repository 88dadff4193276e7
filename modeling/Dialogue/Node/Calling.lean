import Dialogue.Call.Extract
import Dialogue.Call.Path
import Dialogue.Node.Visit

/-!
# Nodes that call a back end

The call of an action is filled in with the values that the node sees; the values taken out of the
reply become outputs, and the node's own text already sees them.
-/

namespace Dialogue

open Text

namespace Action

/-- The address of a call: that of the back end, and the path after one slash. -/
def address (base path : List Char) : List Char :=
  if path = [] then base
  else dropEndWhile (· == '/') base ++ '/' :: path.dropWhile (· == '/')

/-- Credentials with their values filled in. -/
def fill (c : Context) : Credentials → Credentials
  | .bearer token header => .bearer (c.render token) header
  | .apiKey key name place => .apiKey (c.render key) name place
  | .basic username password => .basic (c.render username) (c.render password)

/-- The call of an action to its back end. Query parameters without a value are left out. -/
def request (a : Action) (api : Api) (c : Context) : ActionCall :=
  let path := expandPath a.path a.params c.scope
  let filled (fields : Fields String) : List (String × String) :=
    fields.map fun (name, value) => (name, c.render value)
  let usual := c.settings.httpPolicy
  { method := a.method
    url := String.ofList (address api.baseUrl.toList path.toList)
    query := (filled a.query).filter (·.2 != "")
    headers := filled api.headers ++ filled a.headers
    body := a.body.map (Template.renderValue c.scope)
    credentials := api.credentials.map (fill c)
    policy :=
      { maxAttempts := api.maxAttempts.getD usual.maxAttempts
        baseDelay := usual.baseDelay
        timeout := ((a.timeoutMs.or api.timeoutMs).map Span.ofMillis).getD usual.timeout } }

/-- The values under the names of outputs, over those of a scope. -/
def overlay (scope : Value) (outputs : Fields Value) : Value :=
  match scope with
  | .record root => .record (Fields.merge root outputs)
  | other => other

/-- The outcome of a call that was answered. -/
def succeed (a : Action) (c : Context) (n : Node) (reply : ActionReply) : Outcome :=
  let o := (Outcome.gotoOr a.onSuccess).set "status" (.int reply.status) false
  let o := match a.output with
    | some name => o.set name reply.body a.isGlobal
    | none => o
  let o := match a.extract with
    | some e => o.setAll (e.values reply.body) a.isGlobal
    | none => o
  o.say (n.prompt (overlay c.scope o.outputs))

/-- The outcome of a call that has failed, to the node that is set for this case. -/
def recover (target : String) (f : CallFault) : Outcome :=
  let o := (Outcome.goto target).set "error" (.text f.message) false
  match f with
  | .status _ s _ _ => o.set "status" (.int s) false
  | _ => o

/-- Calls the back end of an action. -/
def visit (a : Action) (c : Context) (n : Node) : Visit :=
  match c.flow.api? a.api with
  | none => .fault (.defect (.unknownApi n.id a.api))
  | some api =>
    .call (a.request api c) fun
      | .ok reply => .ok (a.succeed c n reply)
      | .error f =>
        match a.onError with
        | some target => .ok (recover target f)
        | none => .error (.call f)

end Action

end Dialogue
