import Dialogue.Document.Decode

/-!
# Records with a tag

Data of a type with several forms is written as a record in which one field, the tag, names the form;
the other fields belong to the form. In a list the tag comes first.
-/

namespace Dialogue.Decoder

variable {α : Type}

/-- The form that a tag names. -/
def formOf (forms : List (String × Decoder α)) (d : Document) : Except Misfit (Decoder α) :=
  match scalarText? d with
  | some name =>
    match forms.find? (·.1 == name) with
    | some (_, f) => .ok f
    | none => .error (.unknownVariant name (forms.map (·.1)))
  | none => expected "variant identifier" d

/-- Looks for the tag among fields in the order of the text, and sets the others aside. -/
def findTag (tag : String) (forms : List (String × Decoder α)) (found : Option (Decoder α)) :
    List (String × Document) → Except Misfit (Option (Decoder α) × List (String × Document))
  | [] => .ok (found, [])
  | (name, d) :: more =>
    if name = tag then
      if found.isSome then .error (.repeated tag)
      else
        match formOf forms d.reading with
        | .error m => .error m
        | .ok f => findTag tag forms (some f) more
    else
      match d.toValue with
      | .error fault => .error (.malformed fault)
      | .ok _ =>
        match findTag tag forms found more with
        | .error m => .error m
        | .ok (found, others) => .ok (found, (name, d.settled) :: others)

/-- Data whose form a tag names, under the name of its type. -/
def tagged (tag type : String) (forms : List (String × Decoder α)) : Decoder α := fun _ d =>
  match d with
  | .record fs end? =>
    match findTag tag forms none fs, end? with
    | .error m, _ => .error m
    | .ok _, some fault => .error (.malformed fault)
    | .ok (none, _), none => .error (.missing tag)
    | .ok (some f, others), none => f .aside (.record others none)
  | .list (first :: others) end? =>
    match formOf forms first with
    | .error m => .error m
    | .ok f => f .aside (.list others end?)
  | .list [] none => .error (.missing tag)
  | .list [] (some fault) => .error (.malformed fault)
  | d => expected ("internally tagged enum " ++ type) d

/-- A form without fields; other fields are passed over. -/
def form (a : α) : Decoder α := fun _ d =>
  match d with
  | .list [] none | .record _ none => .ok a
  | .list ds none => .error (.wrongLength ds.length "0 elements in sequence")
  | .list _ (some fault) | .record _ (some fault) => .error (.malformed fault)
  | d => expected "unit" d

end Dialogue.Decoder
