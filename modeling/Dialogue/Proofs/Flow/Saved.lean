import Dialogue.Flow.File
import Dialogue.Proofs.Document.Printed
import Dialogue.Proofs.Flow.Blocks

/-!
# Flows that are saved and read again

The settings of a node pass through an untyped value: what they are read as is written in a block of
its own and read again once the kind of the node is known. A flow is read again from the text that is
written for it, with the same positions and the same graph.

* `restores_node`, `restores_flow`: nodes and flows are restored.
* `Flow.ofJson_toText`: a saved flow is read again, and is the same exactly when each temperature in it
  is finite.
-/

namespace Dialogue

open Decoder (ReadAs Restores)
open RecordDecoder (Entry Keeps Lays Entered restores_decode)
open Written

/-! ### Tasks -/

/-- A task whose temperature, if it has one, is finite. -/
def Task.cooled : Task → Task
  | .model m => .model m.cooled
  | task => task

/-- A node whose temperature, if it has one, is finite. -/
def Node.cooled (n : Node) : Node := { n with task := n.task.cooled }

/-- A flow in which all temperatures are finite. -/
def Flow.cooled (f : Flow) : Flow := { f with nodes := f.nodes.map Node.cooled }

section Tasks

variable {n : Nat}

/-- What is read from settings is read again from the block that is written for it. -/
theorem exists_of_ofValue {α : Type} {f : Decoder α} {write : α → Value} {after : α → α}
    (hf : Restores n f write after) {v : Value} (hv : v.Fits n) {c : α → Task} {task : Task}
    (h : (f.ofValue v).map c = .ok task) :
    ∃ a, c a = task ∧ (write a).Fits n ∧ (f.ofValue (write a)).map c = .ok (c (after a)) := by
  obtain ⟨a, ha, rfl⟩ := of_map_ok h
  obtain ⟨hfits, hread⟩ := hf .value _ a (Document.fits_ofValue hv) ha
  refine ⟨a, rfl, hfits, ?_⟩
  rw [Decoder.ofValue, hread]
  rfl

/-- A task that is read from settings is read again from its block; a trigger has none. -/
theorem ofSettings_sorted {kind : Kind} {v : Value} (hv : v.Fits n) {task : Task}
    (h : Task.ofSettings kind v = .ok task) :
    task.kind = kind ∧ task.settings.sorted.Fits n ∧
      (task = .trigger ∨ task.settings.sorted ≠ .null ∧
        Task.ofSettings kind task.settings.sorted = .ok task.cooled) := by
  cases kind with
  | trigger =>
    cases h
    exact ⟨rfl, .null n, .inl rfl⟩
  | input =>
    obtain ⟨q, rfl, hfits, hread⟩ := exists_of_ofValue (restores_question n) hv h
    exact ⟨rfl, hfits, .inr ⟨sorted_record_ne_null _, hread⟩⟩
  | confirmation =>
    obtain ⟨c, rfl, hfits, hread⟩ := exists_of_ofValue (restores_confirmation n) hv h
    exact ⟨rfl, hfits, .inr ⟨sorted_record_ne_null _, hread⟩⟩
  | message =>
    obtain ⟨m, rfl, hfits, hread⟩ := exists_of_ofValue (restores_announcement n) hv h
    exact ⟨rfl, hfits, .inr ⟨sorted_record_ne_null _, hread⟩⟩
  | action =>
    obtain ⟨a, rfl, hfits, hread⟩ := exists_of_ofValue (restores_action n) hv h
    exact ⟨rfl, hfits, .inr ⟨sorted_record_ne_null _, hread⟩⟩
  | router =>
    obtain ⟨r, rfl, hfits, hread⟩ := exists_of_ofValue (restores_router n) hv h
    exact ⟨rfl, hfits, .inr ⟨sorted_record_ne_null _, hread⟩⟩
  | model =>
    obtain ⟨m, rfl, hfits, hread⟩ := exists_of_ofValue (restores_model n) hv h
    exact ⟨rfl, hfits, .inr ⟨sorted_record_ne_null _, hread⟩⟩

end Tasks

/-! ### Nodes -/

/-- A field for any value may be written as another value, in which nothing stands for null. -/
theorem keeps_any_as {n : Nat} {name : String} {Q : Value → List Entry → Value → Prop}
    (h : ∀ v, v.Fits n → ∃ u, u.Fits n ∧ u.Ordered ∧
      Q v [(name, if u = .null then none else some u)] u) :
    Keeps n (RecordDecoder.fieldOr name Decoder.any .null) Q := by
  intro origin find v hfind hv
  have hfits : v.Fits n := by
    cases hname : find name with
    | none =>
      rw [RecordDecoder.make_fieldOr_none hname] at hv
      cases hv
      exact .null n
    | some d =>
      rw [RecordDecoder.make_fieldOr_some hname] at hv
      exact (Decoder.any_eq_ok (hfind name d hname) hv).1
  obtain ⟨u, hu, hordered, hQ⟩ := h v hfits
  refine ⟨_, u, RecordDecoder.recovers_fieldOr ?_, hQ⟩
  split
  · rename_i hnull
    exact congrArg some hnull.symm
  · exact ⟨hu, Decoder.any_ofValue hordered⟩

namespace NodeOutline

/-- The settings of an outline; absent ones are empty. -/
def given (settings : Value) : Value := if settings = .null then .record [] else settings

theorem complete_of_ok {n : NodeOutline} {task : Task}
    (h : Task.ofSettings n.kind (given n.settings) = .ok task) :
    n.complete = .ok ⟨n.id, task, n.template, n.edges⟩ := by
  unfold complete
  unfold given at h
  dsimp only
  rw [h]

theorem complete_eq_ok {n : NodeOutline} {node : Node} (h : n.complete = .ok node) :
    ∃ task, Task.ofSettings n.kind (given n.settings) = .ok task := by
  cases ht : Task.ofSettings n.kind (given n.settings) with
  | ok task => exact ⟨task, rfl⟩
  | error misfit =>
    unfold complete at h
    unfold given at ht
    dsimp only at h
    rw [ht] at h
    cases h

theorem fits_given {n : Nat} {settings : Value} (h : settings.Fits (n + 1)) :
    (given settings).Fits (n + 1) := by
  unfold given
  split
  · exact .record (by simp)
  · exact h

/-- A task is read again from what its outline is given, its block or nothing. -/
theorem ofSettings_given {n : Nat} {kind : Kind} {v : Value} (hv : v.Fits n) {task : Task}
    (h : Task.ofSettings kind v = .ok task) :
    Task.ofSettings kind (given task.settings.sorted) = .ok task.cooled := by
  obtain ⟨rfl, -, rfl | ⟨hnull, hread⟩⟩ := ofSettings_sorted hv h
  · rfl
  · rw [given, if_neg hnull, hread]

end NodeOutline

theorem named_kind (kind : Kind) : Decoder.named Kind.names kind.name = .ok kind := by
  cases kind <;> rfl

namespace NodeOutline

/-- What is made of an outline again, when the node of the first one is what is written. -/
def Completes (o : NodeOutline) (entries : List Entry) (o' : NodeOutline) : Prop :=
  ∀ node, o.complete = .ok node → Lays node.toValue entries ∧ o'.complete = .ok node.cooled

/-- The block of settings is written for the task that they were read as, so that it may differ from
the settings in the document. -/
theorem exists_of_decode {n : Nat} {origin : Origin} {d : Document} {o : NodeOutline}
    (hd : d.Fits (n + 2)) (h : decode origin d = .ok o) :
    ∃ entries o', Completes o entries o' ∧ ∀ v, Lays v entries → ReadAs (n + 2) decode v o' := by
  refine Keeps.decode (fun m hm => ?_) (by decide) hd h
  obtain rfl : m = n + 1 := by omega
  iterate 4 refine .ap ?_
  refine .map (.text fun name => .oneOf named_kind fun kind => .text? fun template => ?_)
  refine keeps_any_as fun v hv => ?_
  have hgiven := fits_given hv
  cases htask : Task.ofSettings kind (given v) with
  | error misfit =>
    refine ⟨.null, .null _, .null, ?_⟩
    refine .unlessEmpty rfl (restores_listOf _ restores_edge) fun edges node hnode => ?_
    obtain ⟨task, ht⟩ := complete_eq_ok hnode
    cases htask.symm.trans ht
  | ok task =>
    obtain ⟨rfl, hfits, -⟩ := ofSettings_sorted hgiven htask
    refine ⟨task.settings.sorted, hfits, Value.ordered_sorted _, ?_⟩
    refine .unlessEmpty rfl (restores_listOf _ restores_edge) fun edges node hnode => ?_
    cases (complete_of_ok htask).symm.trans hnode
    refine ⟨lays ?_, complete_of_ok (ofSettings_given hgiven htask)⟩
    simp [put, text?, list?, map_unless, Node.kind, Function.comp_def]

end NodeOutline

/-- A node is restored. -/
theorem restores_node (n : Nat) : Restores (n + 2) Node.decode Node.toValue Node.cooled := by
  intro origin d node hd h
  unfold Node.decode at h
  cases houtline : NodeOutline.decode origin d with
  | error misfit =>
    rw [houtline] at h
    cases h
  | ok outline =>
    rw [houtline] at h
    obtain ⟨entries, outline', hcompletes, hread⟩ := NodeOutline.exists_of_decode hd houtline
    obtain ⟨hlays, hcomplete⟩ := hcompletes node h
    obtain ⟨hfits, hdecode⟩ := hread _ hlays
    refine ⟨hfits, fun origin => ?_⟩
    unfold Node.decode
    rw [hdecode]
    exact hcomplete

/-! ### Flows -/

theorem restores_constants (n : Nat) :
    Restores n (Decoder.fields Decoder.any) Value.record id := by
  have h := restores_fieldsOf n Decoder.restores_any
  have hid : (fun as : Fields Value => Value.record (as.map fun p => (p.1, id p.2))) = .record := by
    funext as
    simp
  rw [hid] at h
  exact h

/-- A flow is restored, temperatures that are not finite apart. -/
theorem restores_flow (n : Nat) : Restores (n + 5) Flow.decode Flow.toValue Flow.cooled := by
  refine restores_decode (by decide) fun m hm => ?_
  obtain rfl : m = n + 4 := by omega
  -- the defaults are what an empty record is read as
  have htriggers : ReadAs (n + 4) Triggers.decode (default : Triggers).toValue default :=
    restores_triggers (n + 2) .value (.record [] none) default (.record (by simp)) rfl
  have hsettings : ReadAs (n + 4) FlowSettings.decode (default : FlowSettings).toValue default :=
    restores_settings (n + 4) .value (.record [] none) default (.record (by simp)) rfl
  have hnodes : Restores (n + 4) (Decoder.list Node.decode)
      (fun nodes => .list (nodes.map Node.toValue)) (List.map Node.cooled) := by
    refine Decoder.restores_list fun k hk => ?_
    obtain rfl : k = n + 1 + 2 := by omega
    exact restores_node (n + 1)
  iterate 10 refine .ap ?_
  refine .map (.text fun tenant => .text fun key => .text fun name => ?_)
  refine .natOr (by decide) (by decide) fun version => .boolOr fun active => .text fun entry => ?_
  refine .unlessEmpty rfl (restores_constants _) fun constants => ?_
  refine .fieldOr htriggers (restores_triggers (n + 2)) fun triggers => ?_
  refine .unlessEmpty rfl (restores_listOf _ restores_api) fun apis => ?_
  refine .fieldOr hsettings (restores_settings _) fun settings => ?_
  refine .field hnodes fun nodes => ?_
  refine ⟨lays ?_, rfl⟩
  simp [put, list?, map_unless, Flow.decode.make]

namespace Flow

variable {f : Flow}

/-! ### The graph -/

theorem outcomeTargets_cooled (task : Task) : task.cooled.outcomeTargets = task.outcomeTargets := by
  cases task <;> rfl

theorem positionsFrom_cooled (i : Nat) (known : List String) (nodes : List Node) :
    positionsFrom i known (nodes.map Node.cooled) = positionsFrom i known nodes := by
  induction nodes generalizing i known with
  | nil => rfl
  | cons n nodes ih =>
    rw [List.map_cons, positionsFrom, positionsFrom, ih, ih]
    rfl

theorem arcsOf_cooled (vertices : List String) (n : Node) :
    arcsOf vertices n.cooled = arcsOf vertices n := by
  unfold arcsOf Node.cooled
  dsimp only
  rw [outcomeTargets_cooled]

/-- Temperatures do not matter to positions and to the graph. -/
theorem build_cooled (f : Flow) : f.cooled.build = f.build.cooled := by
  have harcs : ∀ vertices, (f.nodes.map Node.cooled).flatMap (arcsOf vertices) =
      f.nodes.flatMap (arcsOf vertices) := by
    intro vertices
    rw [List.flatMap_map]
    exact List.flatMap_congr fun n _ => arcsOf_cooled vertices n
  unfold build cooled
  dsimp only
  rw [positionsFrom_cooled, harcs]

/-! ### Temperatures -/

theorem cooled_model_eq {m : Model} :
    m.cooled = m ↔ ∀ t, m.temperature = some t → t.isFinite = true := by
  have hfield : m.cooled = m ↔ m.temperature.filter Binary64.isFinite = m.temperature := by
    constructor
    · exact congrArg Model.temperature
    · intro h
      rw [Model.cooled, h]
  rw [hfield]
  cases m.temperature <;> simp [Option.filter_some]

theorem cooled_node_eq {n : Node} : n.cooled = n ↔
    ∀ m t, n.task = .model m → m.temperature = some t → t.isFinite = true := by
  obtain ⟨id, task, template, edges⟩ := n
  cases task with
  | model m =>
    have hnode : Node.cooled ⟨id, .model m, template, edges⟩ = ⟨id, .model m, template, edges⟩ ↔
        m.cooled = m := by
      simp [Node.cooled, Task.cooled]
    rw [hnode, cooled_model_eq]
    constructor
    · rintro h m' t ⟨⟩
      exact h t
    · exact fun h t => h m t rfl
  | _ => simp [Node.cooled, Task.cooled]

/-- A flow stays the same exactly when all its temperatures are finite. -/
theorem cooled_eq : f.cooled = f ↔
    ∀ n ∈ f.nodes, ∀ m t, n.task = .model m → m.temperature = some t → t.isFinite = true := by
  have hnodes : f.cooled = f ↔ f.nodes.map Node.cooled = f.nodes := by
    constructor
    · exact congrArg Flow.nodes
    · intro h
      rw [cooled, h]
  have hall : f.nodes.map Node.cooled = f.nodes ↔ ∀ n ∈ f.nodes, n.cooled = n := by
    conv_lhs => rhs; rw [← List.map_id f.nodes]
    exact List.map_inj_left
  rw [hnodes, hall]
  exact forall₂_congr fun n _ => cooled_node_eq

/-! ### Saved flows -/

theorem run_eq_ok {α : Type} {decoder : Decoder α} {origin : Origin} {d : Document}
    {atEnd : Option TextFault} {a : α} :
    decoder.run origin d atEnd = .ok a ↔ decoder origin d = .ok a ∧ atEnd = none := by
  unfold Decoder.run
  cases decoder origin d with
  | error misfit => simp
  | ok b => cases atEnd <;> simp

theorem ofJson_eq (text : String) :
    ofJson text = (decode.run .text (Json.read text).1 (Json.read text).2).map build := rfl

/-- A flow is read from the characters of a text. -/
theorem ofJson_of_toList {text : String} {chars : List Char} (ht : text.toList = chars)
    (hread : (decode.run .text (Json.readPart chars).1 none).map build = .ok f)
    (hend : (Json.readPart chars).2 = some []) : ofJson text = .ok f := by
  rw [ofJson_eq, ← hread, Json.read, ht]
  generalize Json.readPart chars = part at hend ⊢
  obtain ⟨document, rest⟩ := part
  cases hend
  rfl

/-- A flow that is read from a text is built from one that is read again. -/
theorem exists_of_ofJson {text : String} (h : ofJson text = .ok f) :
    ∃ g : Flow, g.build = f ∧ ReadAs 127 decode g.toValue g.cooled := by
  rw [ofJson_eq] at h
  obtain ⟨g, hg, rfl⟩ := of_map_ok h
  exact ⟨g, rfl, restores_flow 122 .text _ g (Json.fits_read text) (run_eq_ok.1 hg).1⟩

/-- A saved flow is read again, with all temperatures finite. -/
theorem ofJson_toText_eq {text : String} (h : ofJson text = .ok f)
    (hn : ∀ x ∈ f.toValue.reals, Json.Survives x) : ofJson (f.toText .json) = .ok f.cooled := by
  obtain ⟨g, rfl, hfits, hread⟩ := exists_of_ofJson h
  have htext : Json.read (g.build.toText .json) = (Document.ofValue g.toValue, none) :=
    Json.read_pretty hfits hn
  rw [ofJson_eq, htext, run_eq_ok.2 ⟨hread .text, rfl⟩, ← build_cooled]
  rfl

/-- A saved flow is read again with the same positions and the same graph, and with the same fields
exactly when each temperature is finite. One beyond every number of single precision is written as
null, and is then left out. -/
theorem ofJson_toText {text : String} (h : ofJson text = .ok f)
    (hn : ∀ x ∈ f.toValue.reals, Json.Survives x) :
    ofJson (f.toText .json) = .ok f.cooled ∧
      (ofJson (f.toText .json) = .ok f ↔ ∀ n ∈ f.nodes, ∀ m t,
        n.task = .model m → m.temperature = some t → t.isFinite = true) := by
  have hagain := ofJson_toText_eq h hn
  refine ⟨hagain, ?_⟩
  rw [hagain, Except.ok.injEq]
  exact cooled_eq

/-- The document of a flow with one node, a model of some temperature. -/
def heatedText (temperature : String) : String :=
  "\x7b\"tenant_id\":\"acme\",\"id\":\"f\",\"name\":\"F\",\"entry_node\":\"m\",\"nodes\":["
    ++ "\x7b\"id\":\"m\",\"kind\":\"llm\",\"config\":\x7b\"role\":\"conversational\",\"temperature\":"
    ++ temperature ++ "\x7d\x7d]\x7d"

/-- The characters of texts that are put together, without their bytes. -/
theorem toList_append_ofList (a b c d : List Char) :
    (String.ofList a ++ String.ofList b ++ String.ofList c ++ String.ofList d).toList =
      a ++ b ++ c ++ d := by
  simp only [String.toList_append, String.toList_ofList]

/-- A flow with one node, a model of some temperature. -/
def heated (temperature : Binary64) : Flow :=
  build { new "acme" "f" "F" "m" with
    nodes := [.of "m" (.model { Model.inRole .conversational with temperature })] }

/-- A temperature of 0.7 is rounded to single precision once and then stays. -/
theorem ofJson_toText_mild :
    let f := heated (.finite false 6305039370944512 (-53))
    ofJson (heatedText "0.7") = .ok f ∧ (∀ x ∈ f.toValue.reals, Json.Survives x) ∧
      (ofJson (f.toText .json) = .ok f.cooled ∧
        (ofJson (f.toText .json) = .ok f ↔ ∀ n ∈ f.nodes, ∀ m t,
          n.task = .model m → m.temperature = some t → t.isFinite = true)) := by
  have hread : ofJson (heatedText "0.7") = .ok (heated (.finite false 6305039370944512 (-53))) :=
    ofJson_of_toList (toList_append_ofList _ _ _ _) (by decide +kernel) (by decide +kernel)
  have hnumbers : ∀ x ∈ (heated (.finite false 6305039370944512 (-53))).toValue.reals,
      Json.Survives x := by
    decide +kernel
  exact ⟨hread, hnumbers, ofJson_toText hread hnumbers⟩

/-- The text of a temperature of 1e39 is read and written again as it is, but the flow that is read with
it is not the flow that was saved. -/
theorem ofJson_toText_ne_of_hot :
    let x := Binary64.finite false 6617444900424221 77
    let f := heated (.infinite false)
    (Json.readPart "1e39".toList = (.real x, some []) ∧ Json.Survives x) ∧
      ofJson (heatedText "1e39") = .ok f ∧ (∀ x ∈ f.toValue.reals, Json.Survives x) ∧
        ofJson (f.toText .json) ≠ .ok f := by
  have hread : ofJson (heatedText "1e39") = .ok (heated (.infinite false)) :=
    ofJson_of_toList (toList_append_ofList _ _ _ _) (by decide +kernel) (by decide +kernel)
  have hnumbers : ∀ x ∈ (heated (.infinite false)).toValue.reals, Json.Survives x := by
    decide +kernel
  refine ⟨⟨by rfl, by decide +kernel⟩, hread, hnumbers, ?_⟩
  rw [ofJson_toText_eq hread hnumbers]
  decide +kernel

end Flow

end Dialogue
