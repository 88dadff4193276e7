import Dialogue.Proofs.Turn.Setback
import Dialogue.Proofs.Value.Steps

/-!
# What an action says of its results, and what the next node sees of them

The text of an action is filled in with its results laid over all else that the node sees. The next
node sees what the session makes of the same results: names that the session keeps for itself stay
what they are, and a null leaves what was known before.

* `Session.get?_scopeFields_apply`: what a name stands for after a visit that has produced it.
* `Setting.Answers.visits`: what comes of an action whose call is answered.
* `Session.Shows`: each result as the text of its action and as the next node see it.
* `Setting.shows_of_answers`: the results of an action whose call is answered are seen in these ways.
-/

namespace Dialogue

open Fields (Sorted get?_merge get?_insert_of_ne sorted_insert sorted_merge)

/-! ### Results in order -/

theorem Fields.ne_nil_of_get? {α : Type} {fields : Fields α} {name : String} {value : α}
    (h : get? fields name = some value) : fields ≠ [] := by
  rintro rfl
  cases h

namespace Outcome

variable {o : Outcome}

theorem sorted_set (h : Sorted o.outputs) (name : String) (value : Value) (export? : Bool) :
    Sorted (o.set name value export?).outputs := sorted_insert name value h

theorem sorted_setAll (values : Fields Value) (h : Sorted o.outputs) (export? : Bool) :
    Sorted (o.setAll values export?).outputs := by
  unfold setAll
  induction values generalizing o with
  | nil => exact h
  | cons entry values ih => exact ih (o.sorted_set h entry.1 entry.2 export?)

theorem mem_exports_set {x name : String} {value : Value} {export? : Bool} :
    x ∈ (o.set name value export?).exports ↔ x ∈ o.exports ∨ export? = true ∧ x = name := by
  cases export? with
  | false => simp [set]
  | true =>
    by_cases h : name ∈ o.exports
    · simp only [set, List.contains_iff_mem.2 h, Bool.not_true, Bool.and_false]
      exact ⟨.inl, fun hx => hx.elim id fun hx => hx.2 ▸ h⟩
    · simp [set, h]

theorem outputs_say (o : Outcome) (text : String) : (o.say text).outputs = o.outputs := by
  unfold say
  split <;> rfl

theorem sorted_gotoOr (target : Option String) : Sorted (gotoOr target).outputs := by
  cases target <;> exact .nil

end Outcome

namespace Action

/-- What an answered action has produced, before it says anything. -/
def produced (a : Action) (reply : ActionReply) : Outcome :=
  let o := (Outcome.gotoOr a.onSuccess).set "status" (.int reply.status) false
  let o := match a.output with
    | some name => o.set name reply.body a.isGlobal
    | none => o
  match a.extract with
  | some e => o.setAll (e.values reply.body) a.isGlobal
  | none => o

/-- An answered action says its text, filled in with its results over what the node sees. -/
theorem succeed_eq (a : Action) (c : Context) (n : Node) (reply : ActionReply) :
    a.succeed c n reply =
      (a.produced reply).say (n.prompt (overlay c.scope (a.produced reply).outputs)) := rfl

theorem sorted_produced (a : Action) (reply : ActionReply) : Sorted (a.produced reply).outputs := by
  have hstatus := Outcome.sorted_set (Outcome.sorted_gotoOr a.onSuccess) "status"
    (.int reply.status) false
  unfold produced
  cases a.output with
  | none =>
    cases a.extract with
    | none => exact hstatus
    | some extraction => exact Outcome.sorted_setAll _ hstatus _
  | some name =>
    have hbody := Outcome.sorted_set hstatus name reply.body a.isGlobal
    cases a.extract with
    | none => exact hbody
    | some extraction => exact Outcome.sorted_setAll _ hbody _

theorem sorted_succeed (a : Action) (c : Context) (n : Node) (reply : ActionReply) :
    Sorted (a.succeed c n reply).outputs := by
  rw [succeed_eq, Outcome.outputs_say]
  exact sorted_produced a reply

/-- Over a scope, what is found under the name of a result is the result. -/
theorem field?_overlay {outputs : Fields Value} (ho : Sorted outputs) {name : String} {value : Value}
    (hv : Fields.get? outputs name = some value) (root : Fields Value) :
    (overlay (.record root) outputs).field? name = some value := by
  show Fields.get? (Fields.merge root outputs) name = some value
  rw [get?_merge ho.nodup_names, hv, Option.some_or]

end Action

namespace Session

variable {s : Session} {node name : String} {o : Outcome}

/-- What a name stands for that the session does not keep for itself and under which the latest node
has produced nothing: a value of all nodes, else a variable of the flow, else the record of a node. -/
def background? (s : Session) (constants : Fields Value) (name : String) : Option Value :=
  ((Fields.get? s.globals name).or (Fields.get? constants name)).or
    ((Fields.get? s.records name).map .record)

theorem latestRecord_apply (s : Session) (node : String) (o : Outcome) (now : Moment)
    (h : o.outputs ≠ []) :
    (s.apply node o now).latestRecord = Fields.merge (s.record node) o.outputs := by
  have hlatest : (s.apply node o now).latest = some node := by
    obtain ⟨history, hs⟩ := s.exists_apply_eq node o now
    rw [hs, if_neg (by simpa using h)]
    cases o.refused <;> rfl
  rw [latestRecord, hlatest]
  show (s.apply node o now).record node = _
  rw [record_apply, if_pos rfl]

/-- A visit keeps the values of a session in order. -/
theorem Orderly.apply (h : s.Orderly) (node : String) (o : Outcome) (now : Moment) :
    (s.apply node o now).Orderly where
  globals := by
    by_cases ho : o.outputs = []
    · obtain ⟨history, hs⟩ := s.exists_apply_eq node o now
      rw [hs, if_pos (by simp [ho])]
      cases o.refused <;> exact h.globals
    · rw [globals_apply s node o now ho]
      exact sorted_exported o.outputs o.exports h.globals
  record := fun id => by
    rw [record_apply]
    split
    · exact sorted_merge o.outputs (h.record node)
    · exact h.record id

/-- A null is never exported. -/
theorem get?_exported_of_null {values : Fields Value} (h : Fields.get? values name = some .null)
    (names : List String) (globals : Fields Value) :
    Fields.get? (exported values names globals) name = Fields.get? globals name := by
  simp [get?_exported, Fields.known?, h, Option.filter]

/-- What a name stands for after a visit that has produced it: what the session keeps for itself
under that name, else what was produced, unless it is null, else what is known without it. -/
theorem get?_scopeFields_apply (h : s.Orderly) (ho : Sorted o.outputs) {value : Value}
    (hv : Fields.get? o.outputs name = some value) (node : String) (now : Moment)
    (constants : Fields Value) :
    Fields.get? ((s.apply node o now).scopeFields constants) name =
      (Fields.get? ((s.apply node o now).reserved constants) name).or
        (if value = .null then (s.apply node o now).background? constants name else some value) := by
  have hne := Fields.ne_nil_of_get? hv
  have hlatest : Fields.known? (s.apply node o now).latestRecord name =
      if value = .null then none else some value := by
    rw [latestRecord_apply s node o now hne, Fields.known?, get?_merge ho.nodup_names, hv]
    by_cases hnull : value = .null <;> simp [hnull, Option.filter]
  rw [get?_scopeFields (h.apply node o now), hlatest]
  split <;> rfl

/-- A null leaves what is known without it, unless it goes by the name of its node. -/
theorem background?_apply (h : Fields.get? o.outputs name = some .null) (hname : name ≠ node)
    (now : Moment) (constants : Fields Value) :
    (s.apply node o now).background? constants name = s.background? constants name := by
  rw [background?, globals_apply s node o now (Fields.ne_nil_of_get? h), get?_exported_of_null h,
    s.records_apply_of_ne node o now hname, background?]

/-- The names that a session keeps for itself stand for something. -/
theorem isSome_reserved (h : name ∈ reservedNames) (s : Session) (constants : Fields Value) :
    (Fields.get? (s.reserved constants) name).isSome := by
  simp only [reservedNames, List.mem_cons, List.not_mem_nil, or_false] at h
  rcases h with rfl | rfl | rfl | rfl | rfl <;> rfl

/-- How a result of a node is seen: in the values shown to the node itself, and in the scope of the
session that has absorbed it. -/
structure Shows (before after : Session) (constants : Fields Value) (node : String) (shown : Value)
    (name : String) (value : Value) : Prop where
  /-- The node itself is shown the result as it is. -/
  own : shown.field? name = some value
  /-- The next node sees what the session keeps for itself under the name, else the result, unless it
  is null, else what is known without it. -/
  next : (after.scope constants).field? name =
    (Fields.get? (after.reserved constants) name).or
      (if value = .null then after.background? constants name else some value)
  /-- A null leaves what is known without it. -/
  background : value = .null → name ≠ node →
    after.background? constants name = before.background? constants name
  /-- Both see the same exactly when the session keeps the result itself under the name, or keeps
  nothing under it and knows nothing that a null would leave. Nothing counts as null. -/
  alike : ((after.scope constants).field? name).getD .null = (shown.field? name).getD .null ↔
    (name ∈ reservedNames → Fields.get? (after.reserved constants) name = some value) ∧
      (name ∉ reservedNames → value = .null → (after.background? constants name).getD .null = .null)
  /-- A name in a token stands for what is seen under it. -/
  token : Path.IsName name.toList → Value.splitFallback name.toList = none →
    shown.resolve name.toList = shown.field? name ∧
      (after.scope constants).resolve name.toList = (after.scope constants).field? name

/-- What a visit has produced is seen in these ways. -/
theorem shows_apply (h : s.Orderly) (ho : Sorted o.outputs) {value : Value}
    (hv : Fields.get? o.outputs name = some value) (node : String) (now : Moment)
    (constants : Fields Value) :
    s.Shows (s.apply node o now) constants node (Action.overlay (s.scope constants) o.outputs) name
      value := by
  have hown : (Action.overlay (s.scope constants) o.outputs).field? name = some value :=
    Action.field?_overlay ho hv (s.scopeFields constants)
  have hnext : ((s.apply node o now).scope constants).field? name = _ :=
    get?_scopeFields_apply h ho hv node now constants
  refine ⟨hown, hnext, fun hnull hname => background?_apply (hnull ▸ hv) hname now constants, ?_,
    fun hname hbars => ⟨Value.resolve_name hname hbars _, Value.resolve_name hname hbars _⟩⟩
  rw [hown, hnext]
  by_cases hr : name ∈ reservedNames
  · obtain ⟨kept, hkept⟩ := Option.isSome_iff_exists.1
      (isSome_reserved hr (s.apply node o now) constants)
    rw [hkept]
    simp [hr]
  · rw [get?_reserved hr, Option.none_or]
    by_cases hnull : value = .null <;> simp [hr, hnull]

end Session

/-- An action is visited by the usual handler of actions. -/
theorem Handlers.visit_of_action {hs : Handlers} (hh : hs .action = Handlers.usual .action)
    {n : Node} {a : Action} (hn : n.task = .action a) (c : Context) :
    hs.visit c n = a.visit c n := by
  have hk : n.kind = .action := by rw [Node.kind, hn]; rfl
  rw [Handlers.visit, hk, hh]
  unfold Handlers.usual Handler.of
  rw [hn]

namespace Setting

variable {σ : Type} {e : Setting σ} {w v : Walk σ} {n : Node} {a : Action} {reply : ActionReply}
variable {p : Progress σ}

/-- The back end of the action at which a walk stands answers its call. -/
structure Answers (e : Setting σ) (w : Walk σ) (n : Node) (a : Action) (reply : ActionReply) :
    Prop where
  node : e.flow.node? w.session.current = some n
  task : n.task = .action a
  usual : e.handlers .action = Handlers.usual .action
  answered : ∃ api, e.flow.api? a.api = some api ∧
    (e.partners.call (a.request api (e.context w)) w.world).1 = .ok reply

/-- What comes of an action whose call is answered. -/
theorem Answers.visits (h : e.Answers w n a reply) :
    e.Visits w n (a.succeed (e.context w) n reply) := by
  refine ⟨h.node, ?_⟩
  obtain ⟨api, hapi, hreply⟩ := h.answered
  have hcall : ∃ resume, a.visit (e.context w) n = .call (a.request api (e.context w)) resume ∧
      resume (.ok reply) = .ok (a.succeed (e.context w) n reply) := by
    unfold Action.visit
    rw [show (e.context w).flow.api? a.api = some api from hapi]
    exact ⟨_, rfl, rfl⟩
  obtain ⟨resume, hresume, hok⟩ := hcall
  rw [result, Handlers.visit_of_action h.usual h.task, hresume]
  show resume (e.partners.call (a.request api (e.context w)) w.world).1 = _
  rw [hreply, hok]

/-- The node after a visit sees what the session holds after it. -/
theorem scope_of_onward {o : Outcome} (hv : e.Visits w n o) (h : e.step w = .onward v) :
    (e.context v).scope = (e.absorbed w n o).session.scope e.flow.constants := by
  have hs := e.steps_step w
  rw [h] at hs
  cases hs with
  | @moves m u target hm _ _ _ =>
    obtain rfl : m = n := Option.some.inj (hm.node.symm.trans hv.node)
    obtain rfl : u = o := Except.ok.inj (hm.outcome.symm.trans hv.outcome)
    rfl

/-- **The text of an action shows its results as they are, and the next node sees what the session
makes of them**: what the session keeps for itself under a name comes first, and a null leaves what
is known without it. Both see the same exactly when neither makes a difference. -/
theorem shows_of_answers (h : e.Answers w n a reply) (hs : w.session.Orderly) :
    let o := a.succeed (e.context w) n reply
    let own := Action.overlay (e.context w).scope o.outputs
    let after := (e.absorbed w n o).session
    (e.result w n).1 = .ok o ∧ o = (a.produced reply).say (n.prompt own) ∧
      (∀ v, e.step w = .onward v → (e.context v).scope = after.scope e.flow.constants) ∧
      ∀ name value, Fields.get? o.outputs name = some value →
        w.session.Shows after e.flow.constants n.id own name value := by
  intro o own after
  refine ⟨h.visits.outcome, ?_, fun v hv => scope_of_onward h.visits hv, fun name value hv => ?_⟩
  · show a.succeed (e.context w) n reply = _
    rw [Action.succeed_eq, ← Outcome.outputs_say (a.produced reply), ← Action.succeed_eq]
  · exact Session.shows_apply hs (a.sorted_succeed (e.context w) n reply) hv n.id e.now
      e.flow.constants

end Setting

/-! ### A search -/

/-- A search for a title at a back end, whose whole reply goes by the name of the tenant. -/
def Action.titles : Action :=
  ⟨"catalogo", .get, "", [], [], [], none, some "tenant", some ⟨none, [("titulo", "title")], none⟩,
    none, none, none, true⟩

/-- The node that searches for a title and shows what it has found. -/
def Node.titles : Node :=
  { Node.of "buscar" (.action .titles) with
    template := "[\x7b\x7btitulo\x7d\x7d] [\x7b\x7btenant\x7d\x7d]"
    edges := [.toward "mostrar"] }

/-- A flow that knows a title, searches for another one and then shows what is known. -/
def Flow.titles : Flow :=
  { Flow.new "acme" "libros" "Libros" "buscar" with
    constants := [("titulo", .text "Dune")]
    apis := [⟨"catalogo", "https://libros", [], none, none, none⟩]
    nodes := [.titles, { Node.of "mostrar" (.message ⟨false⟩) with template := Node.titles.template }] }

/-- A back end that answers every call with the same body. -/
def Partners.answering (body : Value) : Partners Unit :=
  ⟨fun _ world => (.ok ⟨200, body, 1⟩, world), fun _ world => (.error .noModelKey, world)⟩

/-- The search with such a back end. -/
def Setting.titles (body : Value) : Setting Unit :=
  ⟨Flow.titles.build, .usual, .usual, .answering body, ⟨0, 0⟩⟩

/-- The walk of a new contact who comes to the search. -/
def Walk.titles : Walk Unit :=
  Setting.start (Session.start "s" "acme" "555" Flow.titles.build 20 Settings.usual.idle ⟨0, 0⟩)
    "hola" ()

namespace Setting

theorem answers_titles (body : Value) :
    (titles body).Answers .titles .titles .titles ⟨200, body, 1⟩ :=
  ⟨rfl, rfl, rfl, _, rfl, rfl⟩

theorem orderly_titles : Walk.titles.session.Orderly := ⟨.nil, fun _ => .nil⟩

/-- What the search has produced, whatever it says. -/
theorem outputs_titles (c : Context) (reply : ActionReply) :
    (Action.titles.succeed c .titles reply).outputs = (Action.titles.produced reply).outputs := by
  rw [Action.succeed_eq, Outcome.outputs_say]

/-- A title that was found is seen in the text of the search and by the message behind it. -/
theorem shows_of_answers_titles :
    let reply : ActionReply := ⟨200, .record [("title", .text "Emma")], 1⟩
    let e := titles reply.body
    let o := Action.titles.succeed (e.context .titles) .titles reply
    e.Answers .titles .titles .titles reply ∧ Walk.titles.session.Orderly ∧
      (Action.overlay (e.context .titles).scope o.outputs).field? "titulo" = some (.text "Emma") ∧
      ((e.absorbed .titles .titles o).session.scope e.flow.constants).field? "titulo" =
        some (.text "Emma") := by
  intro reply e o
  have hanswers := answers_titles reply.body
  have hv : Fields.get? o.outputs "titulo" = some (.text "Emma") := by
    rw [outputs_titles]
    decide +kernel
  obtain ⟨-, -, -, hshows⟩ := shows_of_answers hanswers orderly_titles
  have htitle := hshows "titulo" (.text "Emma") hv
  refine ⟨hanswers, orderly_titles, htitle.own, htitle.next.trans ?_⟩
  rw [Session.get?_reserved (by decide), Option.none_or, if_neg (by decide)]

/-- Whatever the search says, a null for the title leaves the one that is known, and the tenant stays
the tenant. -/
theorem field?_titles (body : Value) {o : Outcome} (ho : Sorted o.outputs) {value : Value}
    (htitle : Fields.get? o.outputs "titulo" = some .null)
    (htenant : Fields.get? o.outputs "tenant" = some value) :
    let next := ((titles body).absorbed .titles .titles o).session.scopeFields Flow.titles.constants
    Fields.get? next "titulo" = some (.text "Dune") ∧
      Fields.get? next "tenant" = some (.text "acme") := by
  intro next
  constructor
  · have hsees := Session.get?_scopeFields_apply orderly_titles ho htitle "buscar" ⟨0, 0⟩
      Flow.titles.constants
    rw [Session.get?_reserved (by decide), Option.none_or, if_pos rfl,
      Session.background?_apply htitle (by decide)] at hsees
    exact hsees
  · have hsees := Session.get?_scopeFields_apply orderly_titles ho htenant "buscar" ⟨0, 0⟩
      Flow.titles.constants
    have hframe := Session.frame_apply Walk.titles.session "buscar" o ⟨0, 0⟩
    have hkept : (Walk.titles.session.apply "buscar" o ⟨0, 0⟩).tenant = "acme" :=
      congrArg Frame.tenant hframe
    refine hsees.trans ?_
    rw [show Fields.get? (Session.reserved _ _) "tenant" = some (Value.text _) from rfl, hkept]
    rfl

/-- When no title was found, the text of the search has none, and the reply as the tenant; the message
behind it sees the title that was known and the tenant of the flow. -/
theorem not_alike_titles :
    let e := titles (.text "nada")
    let o := Action.titles.succeed (e.context .titles) .titles ⟨200, .text "nada", 1⟩
    let own := Action.overlay (e.context .titles).scope o.outputs
    let next := (e.absorbed .titles .titles o).session.scope e.flow.constants
    (own.field? "titulo" = some .null ∧ next.field? "titulo" = some (.text "Dune")) ∧
      (own.field? "tenant" = some (.text "nada") ∧ next.field? "tenant" = some (.text "acme")) ∧
      ¬∀ (e : Setting Unit) (w : Walk Unit) (n : Node) (a : Action) (reply : ActionReply),
        e.Answers w n a reply → w.session.Orderly →
          let o := a.succeed (e.context w) n reply
          ∀ name value, Fields.get? o.outputs name = some value →
            (Action.overlay (e.context w).scope o.outputs).resolve name.toList =
              ((e.absorbed w n o).session.scope e.flow.constants).resolve name.toList := by
  intro e o own next
  have hsorted : Sorted o.outputs := Action.sorted_succeed _ _ _ _
  have htitle : Fields.get? o.outputs "titulo" = some .null := by
    rw [outputs_titles]
    decide +kernel
  have htenant : Fields.get? o.outputs "tenant" = some (.text "nada") := by
    rw [outputs_titles]
    decide +kernel
  obtain ⟨hnextTitle, hnextTenant⟩ := field?_titles (.text "nada") hsorted htitle htenant
  have hownTenant : own.field? "tenant" = some (.text "nada") :=
    Action.field?_overlay hsorted htenant _
  refine ⟨⟨Action.field?_overlay hsorted htitle _, hnextTitle⟩, ⟨hownTenant, hnextTenant⟩, fun h => ?_⟩
  have halike := h e .titles .titles .titles _ (answers_titles (.text "nada")) orderly_titles "tenant"
    (.text "nada") htenant
  have hname : Path.IsName "tenant".toList := ⟨by decide, by decide, by simp⟩
  have hbars : Value.splitFallback "tenant".toList = none := by decide
  have hown : own.resolve "tenant".toList = own.field? "tenant" := Value.resolve_name hname hbars _
  have hnext : next.resolve "tenant".toList = next.field? "tenant" :=
    Value.resolve_name hname hbars _
  have hsame : own.field? "tenant" = next.field? "tenant" := hown.symm.trans (halike.trans hnext)
  have htexts := hownTenant.symm.trans (hsame.trans hnextTenant)
  exact absurd htexts (by decide)

end Setting

end Dialogue
