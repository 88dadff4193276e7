import Dialogue.Document.Json
import Dialogue.Flow.Basic
import Dialogue.Number.Reading
import Dialogue.Text.Words
import Dialogue.Value.Written

/-!
# Replies of language models

A model is asked for a record but may wrap it in prose. The record is sought from each opening brace
in turn, and the first one that reads as a whole is taken. The values of declared fields are brought
into their types; a label has to be one of the known ones.

* `Reply.recordFrom_cons`: how the search for a record goes on.
* `Reply.label?_mem`: a label that is found is one of the labels given.
-/

namespace Dialogue

open Text

/-- A reply that does not hold what was asked for. -/
structure ReplyFault where
  reason : String
  raw : String
  deriving DecidableEq, Repr

/-- The wording of a fault. -/
def ReplyFault.message (f : ReplyFault) : String := "could not parse model output: " ++ f.reason

namespace Reply

/-- The record at the front of a text, whatever follows it. -/
def recordHere (cs : List Char) : Except TextFault (Option (Fields Value)) :=
  match (Json.readPart cs).1.toValue with
  | .ok (.record fields) => .ok (some fields)
  | .ok _ => .ok none
  | .error fault => .error fault

/-- The first record that begins at an opening brace; `first` is the first mistake met so far. -/
def recordFrom (first : Option TextFault) : List Char → Except (Option TextFault) (Fields Value)
  | [] => .error first
  | c :: cs =>
    if c = '\x7b' then
      match recordHere (c :: cs) with
      | .ok (some fields) => .ok fields
      | .ok none => recordFrom first cs
      | .error fault => recordFrom (first <|> some fault) cs
    else recordFrom first cs

/-- At a brace the record there is taken, or the search goes on; elsewhere it goes on. -/
theorem recordFrom_cons (first : Option TextFault) (c : Char) (cs : List Char) :
    recordFrom first (c :: cs) =
      if c = '\x7b' then
        match recordHere (c :: cs) with
        | .ok (some fields) => .ok fields
        | .ok none => recordFrom first cs
        | .error fault => recordFrom (first <|> some fault) cs
      else recordFrom first cs := by
  rw [recordFrom]

/-- The record in a reply. -/
def record (reply : String) : Except ReplyFault (Fields Value) :=
  match recordFrom none reply.toList with
  | .ok fields => .ok fields
  | .error (some fault) => .error ⟨fault.message, reply⟩
  | .error none => .error ⟨"no JSON object in reply", reply⟩

/-- The number that a text writes, with a comma or a point before its fraction. -/
def numberOf? (s : String) : Option Value := do
  let x ← Binary64.read? ((trim s.toList).map fun c => if c = ',' then '.' else c)
  if !x.isFinite then none
  else
    match x.toInt? with
    | some i => if i.natAbs < tenTo 15 then some (.int i) else some (.real x)
    | none => some (.real x)

/-- A value brought into the type of a field, as far as it goes; a blank text is no value. -/
def coerce (type : FieldType) (v : Value) : Value :=
  match v with
  | .text s =>
    if trim s.toList = [] then .null
    else
      match type with
      | .number => (numberOf? s).getD v
      | .boolean =>
        match normalize s with
        | "true" | "si" | "yes" => .bool true
        | "false" | "no" => .bool false
        | _ => v
      | _ => v
  | .int _ | .real _ => if type = .string then .text v.compact else v
  | v => v

/-- The values of declared fields; missing ones are null. Without declared fields everything is
kept. -/
def fieldsOf (declared : List FieldSpec) (found : Fields Value) : Fields Value :=
  if declared.isEmpty then found
  else
    (declared.foldl (fun (kept : Fields Value × Fields Value) spec =>
      let value := (Fields.get? kept.2 spec.name).getD .null
      (Fields.insert spec.name (coerce spec.type value) kept.1, Fields.erase kept.2 spec.name))
      ([], found)).1

/-- The declared fields in a reply. -/
def fields (declared : List FieldSpec) (reply : String) : Except ReplyFault (Fields Value) :=
  (record reply).map (fieldsOf declared)

/-- The label with the normal form of a candidate. -/
def known? (labels : List String) (candidate : String) : Option String :=
  labels.find? fun l => normalize l == normalize candidate

/-- The confidence that a record states. -/
def confidence? (found : Fields Value) : Option Binary64 :=
  match Fields.get? found "confidence" with
  | some (.text s) => Binary64.read? (trim s.toList)
  | some v => v.number?
  | none => none

/-- The only label whose words occur in a text. -/
def named? (labels : List String) (reply : String) : Option String :=
  match labels.filter fun l => containsWords (normalize reply) (normalize l) with
  | [label] => some label
  | _ => none

/-- The label in a reply, with the confidence that a record states. A reply without a record may be
a label or name exactly one. -/
def label? (labels : List String) (reply : String) : Option (String × Option Binary64) :=
  match record reply with
  | .ok found => do
    let written ← (Fields.get? found "label").bind Value.text?
    let label ← known? labels written
    some (label, confidence? found)
  | .error _ => ((known? labels reply).or (named? labels reply)).map (·, none)

/-- A label that is known is one of the labels given. -/
theorem known?_mem {labels : List String} {candidate label : String}
    (h : known? labels candidate = some label) : label ∈ labels :=
  List.mem_of_find?_eq_some h

/-- A label that is named is one of the labels given. -/
theorem named?_mem {labels : List String} {reply label : String}
    (h : named? labels reply = some label) : label ∈ labels := by
  unfold named? at h
  split at h
  · rename_i l hl
    have : l ∈ labels.filter fun l => containsWords (normalize reply) (normalize l) := by
      rw [hl]; simp
    simp only [Option.some.injEq] at h
    exact h ▸ (List.mem_filter.1 this).1
  · simp at h

/-- A label that is found is one of the labels given. -/
theorem label?_mem {labels : List String} {reply label : String} {c : Option Binary64}
    (h : label? labels reply = some (label, c)) : label ∈ labels := by
  unfold label? at h
  split at h
  · simp only [Option.bind_eq_bind, Option.bind_eq_some_iff, Option.some.injEq,
      Prod.mk.injEq] at h
    obtain ⟨_, _, l, hl, rfl, _⟩ := h
    exact known?_mem hl
  · simp only [Option.map_eq_some_iff, Prod.mk.injEq] at h
    obtain ⟨l, hl, rfl, _⟩ := h
    rcases Option.or_eq_some_iff.1 hl with hk | ⟨_, hn⟩
    · exact known?_mem hk
    · exact named?_mem hn

end Reply

end Dialogue
