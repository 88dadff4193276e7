import Dialogue.Flow.Basic
import Dialogue.Value.Path

/-!
# Taking values out of responses

An extraction names parts of a response by their paths: of the response itself, or of each item of a
list in it. Parts that are missing become null.
-/

namespace Dialogue.Extraction

open Text

/-- What is kept of an item: all of it, or the named parts. -/
def project (e : Extraction) (item : Value) : Value :=
  if e.fields.isEmpty then item
  else .record (Fields.ofList (e.fields.map fun (name, source) =>
    (name, (Value.lookup item source.toList).getD .null)))

/-- The list that a path leads to; a blank path, a point and a dollar sign mean the body itself. -/
def itemsAt (body : Value) (path : List Char) : List Value :=
  let found := match String.ofList (trim path) with
    | "" | "." | "$" => some body
    | trimmed => Value.lookup body trimmed.toList
  match found with
  | some (.list items) => items
  | _ => []

/-- The values that an extraction takes out of a body. -/
def values (e : Extraction) (body : Value) : Fields Value :=
  match e.arrayPath with
  | some path =>
    let items := (itemsAt body path.toList).map e.project
    let into := e.into.getD "items"
    Fields.insert into (.list items)
      (Fields.insert (into ++ "_count") (.int items.length) [])
  | none =>
    match e.project body with
    | .record fields => Fields.ofList fields
    | _ => []

end Dialogue.Extraction
