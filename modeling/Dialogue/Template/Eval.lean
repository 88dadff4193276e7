import Dialogue.Template.Helper

/-!
# Rendering elements

A rendering walks the elements of a template under a stack of frames, one for the whole and one for
each block that moves to another place of the scope. It fails where a helper is unknown or lacks an
argument and where a list is asked for a name that is no index.

* `render_nil`: no elements, no text.
-/

namespace Dialogue.Template

/-- What a name given by a block stands for: the place of the block, or a value. -/
inductive Binding where
  | place
  | value (v : Value)
  deriving Repr

/-- A block that moved to another place: the path to it from the whole scope, or a value that has no
place there, with the variables and names of the block. -/
structure Frame where
  path : List String
  value : Option Value
  own : Fields Value
  names : List (String × Binding)
  deriving Repr

/-- The frame of the whole scope. -/
def Frame.whole : Frame := ⟨[], none, [], []⟩

/-- What a reference leads to: nothing, a place in the scope, or a value without a place. -/
inductive Found where
  | missing
  | place (v : Value) (path : List String)
  | value (v : Value)
  deriving Repr

namespace Found

/-- The value found; nothing counts as null. -/
def get : Found → Value
  | missing => .null
  | place v _ => v
  | value v => v

/-- The place found. -/
def path? : Found → Option (List String)
  | place _ path => some path
  | _ => none

end Found

/-- Walks names into a value. The outer option is empty where a list is asked for a name that is no
index. -/
def walk : List String → Value → Option (Option Value)
  | [], v => some (some v)
  | name :: more, .list items =>
    match naturalOf? name.toList with
    | none => none
    | some i =>
      match items[i]? with
      | some v => walk more v
      | none => some none
  | name :: more, .record fields =>
    match Fields.get? fields name with
    | some v => walk more v
    | none => some none
  | _ :: _, _ => some none

/-- The names of a reference. -/
def namesOf (parts : List RefPart) : List String :=
  parts.filterMap fun
    | .named name => some name
    | _ => none

/-- What stands at a path from the whole scope. -/
def atPath (scope : Value) (path : List String) : Option Found :=
  (walk path scope).map fun
    | some v => .place v path
    | none => .missing

/-- What stands at a path from a value without a place. -/
def atValue (v : Value) (path : List String) : Option Found :=
  (walk path v).map fun
    | some v => .value v
    | none => .missing

/-- What stands at a path from a frame. -/
def atFrame (scope : Value) (frame : Frame) (path : List String) : Option Found :=
  match frame.value with
  | some v => atValue v path
  | none => atPath scope (frame.path ++ path)

/-- The innermost frame that gives a name, with what it stands for. -/
def findName (frames : List Frame) (name : String) : Option (Frame × Binding) :=
  frames.findSome? fun frame =>
    (frame.names.find? (·.1 == name)).map fun (_, binding) => (frame, binding)

/-- What a reference leads to. -/
def resolve (scope : Value) (frames : List Frame) (parts : List RefPart) : Option Found :=
  let ups (parts : List RefPart) : Nat := (parts.takeWhile (· = .up)).length
  let inner := frames.headD .whole
  match parts with
  | .own :: more =>
    match more.drop (ups more) with
    | .named name :: _ =>
      some (match (frames[ups more]?).bind (fun frame => Fields.get? frame.own name) with
        | some v => .value v
        | none => .missing)
    | _ => atFrame scope inner (namesOf parts)
  | .root :: _ => atPath scope (namesOf parts)
  | _ =>
    let depth := ups parts
    let named := match parts.drop depth with
      | .named name :: more => (findName frames name).map fun found => (found, namesOf more)
      | _ => none
    match named with
    | some ((_, .value v), more) => atValue v more
    | some ((frame, .place), more) => atPath scope (frame.path ++ more)
    | none =>
      if depth = 0 then atFrame scope inner (namesOf parts)
      else atFrame scope ((frames[depth]?).getD inner) (namesOf parts)

/-- Whether the level that options ask of the log is one of its levels. -/
def logLevel (options : List (String × Value)) : Bool :=
  match options.find? (·.1 == "level") with
  | some (_, .text level) => logLevels.contains level.toLower
  | _ => true

mutual

/-- What an argument stands for. -/
def expand (scope : Value) (frames : List Frame) : Argument → Option Found
  | .name _ => some .missing
  | .reference parts _ => resolve scope frames parts
  | .literal v => some (.value v)
  | .call head arguments options => do
    let name ← headName scope frames head
    let found ← expandAll scope frames arguments
    let named ← expandOptions scope frames options
    let values := found.map Found.get
    match ← Helper.ofName? name with
    | .computing h => (h.compute values).map .value
    | .showing .default => some (.value (.text (String.ofList (defaultText values))))
    | .showing .log =>
      if logLevel named then some (.value (.text "")) else none
    | .showing .raw => some (.value (.text ""))
    | .showing _ => if values.isEmpty then none else some (.value (.text ""))

/-- What arguments stand for. -/
def expandAll (scope : Value) (frames : List Frame) : List Argument → Option (List Found)
  | [] => some []
  | a :: more => do
    let found ← expand scope frames a
    let others ← expandAll scope frames more
    some (found :: others)

/-- What named options stand for. -/
def expandOptions (scope : Value) (frames : List Frame) :
    List (String × Argument) → Option (List (String × Value))
  | [] => some []
  | (name, a) :: more => do
    let found ← expand scope frames a
    let others ← expandOptions scope frames more
    some ((name, found.get) :: others)

/-- The name of the helper that the head of an expression means. -/
def headName (scope : Value) (frames : List Frame) : Argument → Option String
  | .name name => some name
  | .reference _ written => some written
  | .literal v => some (String.ofList (shown v))
  | .call head arguments options =>
    (expand scope frames (.call head arguments options)).map fun found =>
      String.ofList (shown found.get)

end

/-- The option of a name; of several with one name the last counts. -/
def option? (options : List (String × Value)) (name : String) : Option Value :=
  (options.reverse.find? (·.1 == name)).map (·.2)

/-- The frame of a place or of a value without one. -/
def Frame.ofFound (found : Found) : Frame :=
  match found.path? with
  | some path => { Frame.whole with path }
  | none => { Frame.whole with value := some found.get }

/-- What the names that a block gives stand for at one of its items. -/
def bindings (found : Found) (names : List String) (item position : Value) :
    List (String × Binding) :=
  let here : Binding := if found.path?.isSome then .place else .value item
  match names with
  | [] => []
  | [name] => [(name, here)]
  | name :: second :: _ =>
    if name = second then [(name, .value position)]
    else [(name, here), (second, .value position)]

/-- The frame of one item of a list or record. -/
def itemFrame (found : Found) (names : List String) (count i : Nat) (key : Option String)
    (item : Value) : Frame :=
  let name := key.getD (toString i)
  let position : Value := match key with
    | some key => .text key
    | none => .int i
  let own : Fields Value := Fields.ofList
    [("first", .bool (i == 0)), ("last", .bool (i + 1 == count)),
      (if key.isSome then "key" else "index", position)]
  let frame : Frame := match found.path? with
    | some path => { Frame.whole with path := path ++ [name] }
    | none => { Frame.whole with value := some item }
  { frame with own, names := bindings found names item position }

/-- The frames of all items of a value, or nothing when it has none to show. -/
def itemFrames (found : Found) (names : List String) (hasOtherwise : Bool) :
    Option (List Frame) :=
  match found.get with
  | .list items =>
    if items.isEmpty && hasOtherwise then none
    else some (items.zipIdx.map fun (item, i) =>
      itemFrame found names items.length i none item)
  | .record fields =>
    if fields.isEmpty && hasOtherwise then none
    else some (fields.zipIdx.map fun ((key, item), i) =>
      itemFrame found names fields.length i (some key) item)
  | _ => none

/-- What an expression shows outside of blocks. -/
def showExpression (scope : Value) (frames : List Frame) (e : Expression) :
    Option (List Char) := do
  let name ← headName scope frames e.head
  let alone := e.arguments.isEmpty && e.options.isEmpty
  match Helper.ofName? name with
  | none =>
    if alone then
      let found ← expand scope frames e.head
      some (shown found.get)
    else none
  | some helper =>
    let found ← expandAll scope frames e.arguments
    let options ← expandOptions scope frames e.options
    let values := found.map Found.get
    match helper with
    | .computing h => (h.compute values).map shown
    | .showing .default => some (defaultText values)
    | .showing .log => if logLevel options then some [] else none
    | .showing .raw => some []
    | .showing _ => if values.isEmpty then none else some []

mutual

/-- The text of one element. -/
def renderElement (scope : Value) (frames : List Frame) : Element → Option (List Char)
  | .text cs => some cs
  | .refused => none
  | .value e => showExpression scope frames e
  | .block e body otherwise => do
    let name ← headName scope frames e.head
    let helper ← Helper.ofName? name
    let found ← expandAll scope frames e.arguments
    let options ← expandOptions scope frames e.options
    let values := found.map Found.get
    match helper with
    | .computing h => (h.compute values).map shown
    | .showing .default => some (defaultText values)
    | .showing .log => if logLevel options then some [] else none
    | .showing .raw => render scope frames body
    | .showing .ifTrue =>
      let value ← values[0]?
      let includeZero := ((option? options "includeZero").bind Value.bool?).getD false
      if isTruthy includeZero value then render scope frames body
      else renderOtherwise scope frames otherwise
    | .showing .unlessTrue =>
      let value ← values[0]?
      let includeZero := ((option? options "includeZero").bind Value.bool?).getD false
      if isTruthy includeZero value then renderOtherwise scope frames otherwise
      else render scope frames body
    | .showing .with =>
      let first ← found[0]?
      if isTruthy false first.get then
        let names := match e.itemNames with
          | [name] => bindings first [name] first.get .null
          | _ => []
        render scope ({ Frame.ofFound first with names } :: frames) body
      else renderOtherwise scope frames otherwise
    | .showing .each =>
      let first ← found[0]?
      match itemFrames first e.itemNames otherwise.isSome with
      | some items =>
        let texts ← items.mapM fun frame => render scope (frame :: frames) body
        some texts.flatten
      | none => renderOtherwise scope frames otherwise

/-- The text of the other case of a block, if it has one. -/
def renderOtherwise (scope : Value) (frames : List Frame) :
    Option (List Element) → Option (List Char)
  | none => some []
  | some body => render scope frames body

/-- The text of elements. -/
def render (scope : Value) (frames : List Frame) : List Element → Option (List Char)
  | [] => some []
  | e :: more => do
    let text ← renderElement scope frames e
    let rest ← render scope frames more
    some (text ++ rest)

end

@[simp] theorem render_nil (scope : Value) (frames : List Frame) :
    render scope frames [] = some [] := by simp [render]

end Dialogue.Template
