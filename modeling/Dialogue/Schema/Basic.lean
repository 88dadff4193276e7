import Dialogue.Fields
import Dialogue.Value.Basic

/-!
# Schemas of documents

A schema is itself a document: it says of which type a document is, which fields it has and which of
them it needs. Schemas are put together from small ones.
-/

namespace Dialogue

/-- A schema, as the document that it is written as. -/
abbrev Schema := Value

namespace Schema

/-- Adds a keyword to a schema. -/
def with_ (name : String) (value : Value) : Schema → Schema
  | .record fields => .record (Fields.insert name value fields)
  | s => s

/-- The schema of a type. -/
def ofType (name : String) : Schema := .single "type" (.text name)

/-- Texts. -/
def text : Schema := ofType "string"

/-- Truth values. -/
def truth : Schema := ofType "boolean"

/-- Makes the value of a schema's type optional. -/
def orNothing : Schema → Schema
  | .record fields =>
    match Fields.get? fields "type" with
    | some type => .record (Fields.insert "type" (.list [type, .text "null"]) fields)
    | none => .single "anyOf" (.list [.record fields, ofType "null"])
  | s => s

/-- Integers in a format. -/
def integer (format : String) : Schema := with_ "format" (.text format) (ofType "integer")

/-- Natural numbers of a number of bits. -/
def natural (bits : Nat) : Schema :=
  with_ "minimum" (.int 0) (integer ("uint" ++ toString bits))

/-- Lists. -/
def list (item : Schema) : Schema := with_ "items" item (ofType "array")

/-- Records with any names. -/
def map (item : Schema) : Schema := with_ "additionalProperties" item (ofType "object")

/-- Any document. -/
def any : Schema := .bool true

/-- One of several names. -/
def oneOf (names : List String) : Schema :=
  with_ "enum" (.list (names.map .text)) text

/-- A schema that is defined under a name. -/
def named (name : String) : Schema := .single "$ref" (.text ("#/$defs/" ++ name))

/-- A schema with a description. -/
def described (description : String) (s : Schema) : Schema :=
  with_ "description" (.text description) s

/-- A schema with the value that stands for a missing one. -/
def orElse (value : Value) (s : Schema) : Schema := with_ "default" value s

/-- Records with fields; those in the first list are needed. -/
def record (needed : List String) (fields : List (String × Schema)) : Schema :=
  let s := with_ "properties" (.record (Fields.ofList fields)) (ofType "object")
  if needed = [] then s else with_ "required" (.list (needed.map .text)) s

/-- Records in which one field names the form. -/
def form (tag name : String) (needed : List String) (fields : List (String × Schema)) : Schema :=
  record (tag :: needed) ((tag, with_ "const" (.text name) text) :: fields)

/-- Records in one of several forms. -/
def forms (cases : List Schema) : Schema := .single "oneOf" (.list cases)

/-- A schema that stands by itself, with a title and definitions. -/
def document (title : String) (definitions : List (String × Schema)) (s : Schema) : Schema :=
  let s := with_ "$schema" (.text "https://json-schema.org/draft/2020-12/schema")
    (with_ "title" (.text title) s)
  if definitions = [] then s else with_ "$defs" (.record (Fields.ofList definitions)) s

end Schema

end Dialogue
