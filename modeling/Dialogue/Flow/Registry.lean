import Dialogue.Flow.File
import Dialogue.Text.Words

/-!
# Registered flows

A registry holds flows without defects under their keys; a flow that is registered again replaces the
earlier one as a whole. For a contact without a conversation, the flows of the tenant whose triggers
match the text compete on priority.

* `Registry.get?_put`: a flow is found under its own key.
* `Registry.best?_mem`: the flow chosen is one of the candidates.
-/

namespace Dialogue

open Text

/-- Flows by their keys. -/
abbrev Registry := Fields Flow

namespace Triggers

/-- Whether a keyword occurs in a text; both in their normal form. -/
def hears (said keyword : String) : Bool :=
  keyword != "" && (said == keyword || containsWords said keyword)

/-- Whether a text in its normal form sets off a flow. -/
def matchText (t : Triggers) (said : String) : Bool :=
  match t.mode with
  | .always => true
  | .keyword => t.keywords.any fun k => hears said (normalize k)

end Triggers

namespace Registry

/-- The flow of a tenant under an id. -/
def flow? (r : Registry) (tenant id : String) : Option Flow := Fields.get? r (Flow.keyOf tenant id)

/-- Puts a flow under its key. -/
def put (r : Registry) (f : Flow) : Registry := Fields.insert f.key f r

/-- Registers a flow unless it has defects. The report comes with the registry. -/
def register (r : Registry) (f : Flow) : Except FlowFault (Report × Registry) :=
  let f := f.build
  let report := f.check
  if report.isValid then .ok (report, r.put f) else .error (.invalid report.defects)

/-- Removes the flow of a tenant under an id. -/
def remove (r : Registry) (tenant id : String) : Registry := Fields.erase r (Flow.keyOf tenant id)

/-- The flows of a tenant in the order of their ids. -/
def ofTenant (r : Registry) (tenant : String) : List Flow :=
  ((r.map (·.2)).filter (·.tenant == tenant)).mergeSort fun a b => a.id ≤ b.id

/-- The candidate of highest priority, the first one of those. -/
def best? (candidates : List Flow) : Option Flow :=
  candidates.foldl (fun best f =>
    match best with
    | some b => if f.triggers.priority ≤ b.triggers.priority then some b else some f
    | none => some f) none

/-- The flow of a tenant that a text sets off. -/
def select (r : Registry) (tenant text : String) : Option Flow :=
  let said := normalize text
  best? ((r.ofTenant tenant).filter fun f => f.active && f.triggers.matchText said)

/-- Loads and registers the flows in files, in the order of their paths; files of other kinds and
files that fail are passed over. The number of registered flows comes with the registry. -/
def loadFiles (r : Registry) (files : Fields String) : Nat × Registry :=
  files.foldl (fun (count, r) (path, contents) =>
    match FlowFormat.ofExtension? (extensionOf path) with
    | none => (count, r)
    | some _ =>
      match Flow.ofFile path (some contents) with
      | .error _ => (count, r)
      | .ok f =>
        match r.register f with
        | .error _ => (count, r)
        | .ok (_, r) => (count + 1, r)) (0, r)

/-- A flow is found under its own key. -/
theorem get?_put (r : Registry) (f : Flow) : (r.put f).flow? f.tenant f.id = some f :=
  Fields.get?_insert_self f.key f r

/-- The better one of two is one of the two. -/
theorem best?_mem {candidates : List Flow} {f : Flow} (h : best? candidates = some f) :
    f ∈ candidates := by
  have key : ∀ (l : List Flow) (b : Option Flow),
      l.foldl (fun best f =>
        match best with
        | some b => if f.triggers.priority ≤ b.triggers.priority then some b else some f
        | none => some f) b = some f → b = some f ∨ f ∈ l := by
    intro l
    induction l with
    | nil => exact fun b hb => .inl hb
    | cons g l ih =>
      intro b hb
      rcases ih _ hb with hs | hs
      · cases b with
        | none => exact .inr (by simp_all)
        | some b =>
          dsimp only at hs
          split at hs
          · exact .inl hs
          · exact .inr (by simp_all)
      · exact .inr (List.mem_cons_of_mem _ hs)
  rcases key candidates none h with h | h
  · exact absurd h (by simp)
  · exact h

end Registry

end Dialogue
