import Dialogue.Flow.Reading
import Dialogue.Proofs.Document.Restored
import Dialogue.Proofs.Number.Rounding

/-!
# The parts of a flow, written and read again

Each part of a flow is restored: what is left out because it is unset or empty is filled in again by
the same default. The settings of a node are written with their fields in ascending order. A model
whose temperature is beyond every number of single precision loses it; nothing else is lost.

* `restores_edge`, `restores_triggers`, `restores_settings`, `restores_api`: the parts that are
  written in the order of their description.
* `restores_question`, `restores_action`, `restores_model` and so on: the settings of nodes.
-/

namespace Dialogue

open Document (ofValue)
open Decoder (ReadAs Restores restores_text restores_bool restores_natural restores_integer
  restores_oneOf restores_list restores_fields restores_any restores_any_sorted)
open RecordDecoder (Entry Keeps Lays Entered laid restores_decode)

/-! ### Fields -/

namespace RecordDecoder.Keeps

variable {n : Nat} {name : String}

theorem text {Q : String → List Entry → String → Prop}
    (hQ : ∀ s, Q s [(name, some (.text s))] s) : Keeps n (RecordDecoder.field name Decoder.text) Q :=
  .field (restores_text n) hQ

theorem text? {Q : Option String → List Entry → Option String → Prop}
    (hQ : ∀ s, Q s [(name, s.map .text)] s) : Keeps n (RecordDecoder.option name Decoder.text) Q := by
  refine .option (fun _ _ _ _ _ _ => by simp) (restores_text n) fun s => ?_
  rw [Option.map_id]
  exact hQ s

theorem textOr {default : String} {Q : String → List Entry → String → Prop}
    (hQ : ∀ s, Q s [(name, some (.text s))] s) :
    Keeps n (RecordDecoder.fieldOr name Decoder.text default) Q :=
  .fieldOr ⟨.text n default, fun _ => rfl⟩ (restores_text n) hQ

theorem boolOr {default : Bool} {Q : Bool → List Entry → Bool → Prop}
    (hQ : ∀ b, Q b [(name, some (.bool b))] b) :
    Keeps n (RecordDecoder.fieldOr name Decoder.bool default) Q :=
  .fieldOr ⟨.bool n default, fun _ => rfl⟩ (restores_bool n) hQ

theorem nat? {bits : Nat} (hb : bits ≤ 64) {type : String}
    {Q : Option Nat → List Entry → Option Nat → Prop}
    (hQ : ∀ k, Q k [(name, k.map fun k : Nat => .int k)] k) :
    Keeps n (RecordDecoder.option name (Decoder.natural bits type)) Q := by
  refine .option (fun _ _ _ _ _ _ => by simp) (restores_natural n hb type) fun k => ?_
  rw [Option.map_id]
  exact hQ k

theorem natOr {bits default : Nat} (hb : bits ≤ 64) (hd : default < twoTo bits) {type : String}
    {Q : Nat → List Entry → Nat → Prop} (hQ : ∀ k, Q k [(name, some (.int k))] k) :
    Keeps n (RecordDecoder.fieldOr name (Decoder.natural bits type) default) Q := by
  have hbound := twoTo_mono hb
  have hgreatest : (Json.greatestNatural : Int) = twoTo 64 - 1 := by decide
  refine .fieldOr ⟨.int n (by omega) (by omega), fun origin => ?_⟩ (restores_natural n hb type) hQ
  rw [Decoder.natural, ofValue, Decoder.integer_ofValue (by omega) (by omega)]
  rfl

theorem oneOf {α : Type} {names : List (String × α)} {nameOf : α → String}
    (h : ∀ a, Decoder.named names (nameOf a) = .ok a) {Q : α → List Entry → α → Prop}
    (hQ : ∀ a, Q a [(name, some (.text (nameOf a)))] a) :
    Keeps n (RecordDecoder.field name (Decoder.oneOf names)) Q :=
  .field (restores_oneOf n h) hQ

theorem oneOfOr {α : Type} {names : List (String × α)} {nameOf : α → String} {default : α}
    (h : ∀ a, Decoder.named names (nameOf a) = .ok a) {Q : α → List Entry → α → Prop}
    (hQ : ∀ a, Q a [(name, some (.text (nameOf a)))] a) :
    Keeps n (RecordDecoder.fieldOr name (Decoder.oneOf names) default) Q := by
  have hd : ReadAs n (Decoder.oneOf names) (.text (nameOf default)) default :=
    ⟨.text n _, fun _ => h default⟩
  exact .fieldOr hd (restores_oneOf n h) hQ

end RecordDecoder.Keeps

/-! ### Lists and named texts -/

section Collections

variable {α : Type} {f : Decoder α} {write : α → Value}

theorem restores_listOf (n : Nat) (hf : ∀ m, Restores m f write id) :
    Restores n (Decoder.list f) (fun as => .list (as.map write)) id := by
  have h := restores_list (n := n) fun m _ => hf m
  rw [List.map_id_fun] at h
  exact h

theorem restores_textList (n : Nat) :
    Restores n (Decoder.list Decoder.text) (fun ks => .list (ks.map .text)) id :=
  restores_listOf n restores_text

theorem restores_fieldsOf (n : Nat) (hf : ∀ m, Restores m f write id) :
    Restores n (Decoder.fields f) (fun as => .record (as.map fun p => (p.1, write p.2))) id := by
  have h := restores_fields (n := n) fun m _ => hf m
  have hid : (List.map fun p : String × α => (p.1, id p.2)) = id := by
    funext as
    simp
  rw [hid] at h
  exact h

theorem restores_texts (n : Nat) :
    Restores n (Decoder.fields Decoder.text) Written.texts id :=
  restores_fieldsOf n restores_text

theorem restores_texts_sorted (n : Nat) :
    Restores n (Decoder.fields Decoder.text) (fun fields => (Written.texts fields).sorted) id := by
  intro origin d fields hd h
  obtain ⟨ds, pairs, -, -, rfl⟩ := Decoder.fields_eq_ok h
  have hordered : (Written.texts (Fields.ofList pairs)).Ordered := by
    refine .record (Decoder.sorted_map Value.text (Fields.sorted_ofList pairs)) fun p hp => ?_
    obtain ⟨q, -, rfl⟩ := List.mem_map.1 hp
    exact .text q.2
  dsimp only
  rw [hordered.sorted_eq]
  exact restores_texts n origin d _ hd h

end Collections

/-! ### Written fields -/

theorem Written.map_unless {α β : Type} (p : Prop) [Decidable p] (a : α) (f : α → β) :
    (if p then none else some a).map f = if p then none else some (f a) := by
  split <;> rfl

theorem Written.nat?_eq (name : String) (n : Option Nat) :
    Written.nat? name n = n.map fun k : Nat => (name, .int k) := by
  cases n <;> rfl

theorem Written.texts?_eq (name : String) (fields : Fields String) :
    Written.texts? name fields =
      if fields.isEmpty then none else some (name, Written.texts fields) := rfl

theorem Written.record_eq_laid {fields : List (Option (String × Value))} {entries : List Entry}
    (h : fields = entries.map fun p => p.2.map fun v => (p.1, v)) :
    Written.record fields = .record (laid entries) := by
  rw [Written.record, h, laid, List.filterMap_map]
  rfl

theorem Written.record_eq_cons_laid {name : String} {v : Value}
    {fields : List (Option (String × Value))} {entries : List Entry}
    (h : fields = entries.map fun p => p.2.map fun v => (p.1, v)) :
    Written.record (Written.put name v :: fields) = .record ((name, v) :: laid entries) := by
  rw [Written.record, Written.put, h, laid]
  show Value.record ((name, v) :: List.filterMap id _) = _
  rw [List.filterMap_map]
  rfl

theorem Written.lays {fields : List (Option (String × Value))} {entries : List Entry}
    (h : fields = entries.map fun p => p.2.map fun v => (p.1, v)) :
    Lays (Written.record fields) entries :=
  .inl (Written.record_eq_laid h)

theorem Written.lays_sorted {fields : List (Option (String × Value))} {entries : List Entry}
    (h : fields.map (Option.map fun p => (p.1, p.2.sorted)) =
      entries.map fun p => p.2.map fun v => (p.1, v)) :
    Lays (Written.record fields).sorted entries := by
  refine .inr ?_
  have hlaid : (fields.filterMap id).map (fun p => (p.1, p.2.sorted)) = laid entries :=
    calc (fields.filterMap id).map (fun p => (p.1, p.2.sorted))
        = (fields.map (Option.map fun p => (p.1, p.2.sorted))).filterMap id := by
          rw [List.map_filterMap, List.filterMap_map]
          rfl
      _ = (entries.map fun p => p.2.map fun v => (p.1, v)).filterMap id := by rw [h]
      _ = laid entries := by
          rw [List.filterMap_map]
          rfl
  rw [Written.record, Value.sorted_record, hlaid]

/-! ### Parts in the order of their description -/

open Written

section Parts

variable (n : Nat)

theorem restores_edge : Restores n Edge.decode Edge.toValue id := by
  refine restores_decode (by decide) fun m _ => ?_
  refine .ap (.ap (.map ?_))
  refine .text fun target => .text? fun condition => .text? fun label => ?_
  exact ⟨lays (by simp [put, text?, Function.comp_def]), rfl⟩

/-- Triggers are written with a list of keywords even when there are none, so that they need two
levels. -/
theorem restores_triggers : Restores (n + 2) Triggers.decode Triggers.toValue id := by
  refine restores_decode (by decide) fun m hm => ?_
  obtain rfl : m = n + 1 := by omega
  have hnone : ReadAs (n + 1) (Decoder.list Decoder.text) (.list ([].map .text)) [] :=
    ⟨.list (by simp), fun _ => rfl⟩
  have hzero : ReadAs (n + 1) Decoder.integer32 (.int 0) 0 :=
    ⟨.int _ (by decide) (by decide), fun _ => rfl⟩
  have hmode : ∀ mode, Decoder.named [("keyword", TriggerMode.keyword), ("always", .always)]
      (Triggers.modeName mode) = .ok mode := by
    intro mode
    cases mode <;> rfl
  refine .ap (.ap (.map ?_))
  refine .fieldOr hnone (restores_textList _) fun keywords => ?_
  refine .fieldOr hzero (restores_integer _ (by decide) (by decide) _) fun priority => ?_
  refine .oneOfOr hmode fun mode => ?_
  exact ⟨lays (by simp [put, textList]), rfl⟩

theorem restores_settings : Restores n FlowSettings.decode FlowSettings.toValue id := by
  refine restores_decode (by decide) fun m _ => ?_
  iterate 5 refine .ap ?_
  refine .map (.nat? (by decide) fun idle => .boolOr fun allow => ?_)
  refine .option (fun _ _ _ _ _ _ => by simp) (restores_textList m) fun keywords => ?_
  refine .text? fun abandon => .text? fun fallback => .text? fun human => ?_
  exact ⟨lays (by simp [put, text?, nat?_eq, textList, Function.comp_def]), by simp⟩

/-- What is made of the fields after a tag, when the tag and they are what is written. -/
def Credentials.Follows (tag : String) (c : Credentials) (entries : List Entry) (c' : Credentials) :
    Prop :=
  c.toValue = .record (("type", .text tag) :: laid entries) ∧
    (∀ p ∈ entries, p.1 ≠ "type" ∧ ∀ v ∈ p.2, v.Ordered) ∧ c' = c

theorem Credentials.follows {n : Nat} {r : RecordDecoder Credentials} {tag type : String}
    (hn : (r.rules.map (·.name)).Nodup) (h : ∀ m, Keeps m r (Follows tag)) {origin : Origin}
    {d : Document} {c : Credentials} (hd : d.Fits n) (hc : r.decode type origin d = .ok c) :
    ∃ fields, c.toValue = .record (("type", .text tag) :: fields) ∧
      (∀ q ∈ fields, q.1 ≠ "type" ∧ q.2.Ordered) ∧ ReadAs n (r.decode type) (.record fields) c := by
  obtain ⟨entries, c', ⟨hvalue, hentries, rfl⟩, hread⟩ := Keeps.decode (fun m _ => h m) hn hd hc
  refine ⟨laid entries, hvalue, fun q hq => ?_, hread _ (.inl rfl)⟩
  obtain ⟨hname, hordered⟩ := hentries _ (RecordDecoder.mem_laid.1 hq)
  exact ⟨hname, hordered _ rfl⟩

theorem restores_credentials : Restores n Credentials.decode Credentials.toValue id := by
  have hplace : ∀ place, Decoder.named [("header", KeyPlace.header), ("query", .query)]
      (Credentials.placeName place) = .ok place := by
    intro place
    cases place <;> rfl
  refine Decoder.restores_tagged (by decide) fun p hp origin d c hd hc => ?_
  rcases List.mem_cons.1 hp with rfl | hp
  · refine Credentials.follows (by decide) (fun m => ?_) hd hc
    refine .ap (.map (.text fun token => .text? fun header => ?_))
    refine ⟨record_eq_cons_laid ?_, ?_, rfl⟩
    · simp [put, text?, Function.comp_def]
    · simp [Value.Ordered.text]
  rcases List.mem_cons.1 hp with rfl | hp
  · refine Credentials.follows (by decide) (fun m => ?_) hd hc
    refine .ap (.ap (.map (.text fun key => .text fun name => .oneOfOr hplace fun place => ?_)))
    refine ⟨record_eq_cons_laid ?_, ?_, rfl⟩
    · simp [put]
    · simp [Value.Ordered.text]
  rcases List.mem_singleton.1 hp with rfl
  · refine Credentials.follows (by decide) (fun m => ?_) hd hc
    refine .ap (.map (.text fun username => .text fun password => ?_))
    refine ⟨record_eq_cons_laid ?_, ?_, rfl⟩
    · simp [put]
    · simp [Value.Ordered.text]

theorem Credentials.toValue_ne_null (c : Credentials) : c.toValue ≠ .null := by
  cases c <;> simp [toValue, Written.record]

theorem restores_api : Restores n Api.decode Api.toValue id := by
  refine restores_decode (by decide) fun m _ => ?_
  iterate 5 refine .ap ?_
  refine .map (.text fun name => .text fun baseUrl => ?_)
  refine .unlessEmpty rfl (restores_texts m) fun headers => ?_
  refine .option (fun _ _ c _ _ _ => c.toValue_ne_null) (restores_credentials m) fun credentials => ?_
  refine .nat? (by decide) fun timeoutMs => .nat? (by decide) fun maxAttempts => ?_
  exact ⟨lays (by simp [put, texts?_eq, nat?_eq, map_unless, Function.comp_def]), by simp⟩

/-! ### Settings of nodes -/

theorem restores_question : Restores n Question.decode (fun q => q.toValue.sorted) id := by
  have htype : ∀ type, Decoder.named [("text", AnswerType.text), ("number", .number),
      ("email", .email), ("phone", .phone), ("date", .date)] type.name = .ok type := by
    intro type
    cases type <;> rfl
  refine restores_decode (by decide) fun m _ => ?_
  iterate 10 refine .ap ?_
  refine .map (.text fun variableName => ?_)
  refine .unlessEmpty rfl (restores_texts_sorted m) fun options => ?_
  refine .oneOfOr htype fun answerType => .text? fun pattern => ?_
  refine .nat? (by decide) fun minLength => .nat? (by decide) fun maxLength => ?_
  refine .boolOr fun required => .natOr (by decide) (by decide) fun maxAttempts => ?_
  refine .text? fun fallback => .text? fun errorMessage => .boolOr fun isGlobal => ?_
  exact ⟨lays_sorted (by
    simp [put, text?, texts?_eq, nat?_eq, map_unless, Function.comp_def]), rfl⟩

theorem restores_confirmation :
    Restores n Confirmation.decode (fun c => c.toValue.sorted) id := by
  refine restores_decode (by decide) fun m _ => ?_
  iterate 6 refine .ap ?_
  refine .map (.textOr fun variableName => .text? fun onYes => .text? fun onNo => ?_)
  refine .natOr (by decide) (by decide) fun maxAttempts => .text? fun fallback => ?_
  refine .text? fun errorMessage => .boolOr fun isGlobal => ?_
  exact ⟨lays_sorted (by simp [put, text?, Function.comp_def]), rfl⟩

theorem restores_announcement :
    Restores n Announcement.decode (fun a => a.toValue.sorted) id := by
  refine restores_decode (by decide) fun m _ => ?_
  refine .map (.boolOr fun awaitReply => ?_)
  exact ⟨lays_sorted (by simp [put]), rfl⟩

theorem restores_extraction : Restores n Extraction.decode (fun e => e.toValue.sorted) id := by
  refine restores_decode (by decide) fun m _ => ?_
  refine .ap (.ap (.map (.text? fun arrayPath => ?_)))
  refine .unlessEmpty rfl (restores_texts_sorted m) fun fields => .text? fun into => ?_
  exact ⟨lays_sorted (by simp [text?, texts?_eq, map_unless, Function.comp_def]), rfl⟩

theorem sorted_record_ne_null (fields : List (Option (String × Value))) :
    (Written.record fields).sorted ≠ .null := by
  rw [Written.record, Value.sorted_record]
  exact Value.noConfusion

theorem Extraction.sorted_ne_null (e : Extraction) : e.toValue.sorted ≠ .null :=
  sorted_record_ne_null _

theorem any_sorted_ne_null {origin : Origin} {d : Document} {v : Value} (hd : d.Fits n)
    (hnull : d ≠ .null) (h : Decoder.any origin d = .ok v) : v.sorted ≠ .null := by
  rw [(Decoder.any_eq_ok hd h).2.sorted_eq]
  rintro rfl
  exact hnull (hd.eq_null_of_toValue (Decoder.any_eq_ok_iff.1 h))

theorem restores_action : Restores n Action.decode (fun a => a.toValue.sorted) id := by
  have hmethod : ∀ method, Decoder.named Method.names method.name = .ok method := by
    intro method
    cases method <;> rfl
  refine restores_decode (by decide) fun m _ => ?_
  iterate 12 refine .ap ?_
  refine .map (.text fun api => .oneOfOr hmethod fun method => .textOr fun path => ?_)
  refine .unlessEmpty rfl (restores_texts_sorted m) fun params => ?_
  refine .unlessEmpty rfl (restores_texts_sorted m) fun query => ?_
  refine .unlessEmpty rfl (restores_texts_sorted m) fun headers => ?_
  refine .option (fun _ _ _ hd hnull h => any_sorted_ne_null m hd hnull h)
    (restores_any_sorted m) fun body => .text? fun output => ?_
  refine .option (fun _ _ e _ _ _ => e.sorted_ne_null) (restores_extraction m)
    fun extract => ?_
  refine .nat? (by decide) fun timeoutMs => .text? fun onSuccess => .text? fun onError => ?_
  refine .boolOr fun isGlobal => ?_
  exact ⟨lays_sorted (by
    simp [put, text?, texts?_eq, nat?_eq, map_unless, Function.comp_def]), by simp⟩

theorem restores_router : Restores n Router.decode (fun r => r.toValue.sorted) id := by
  refine restores_decode (by decide) fun m _ => ?_
  refine .map (.text? fun default => ?_)
  exact ⟨lays_sorted (by simp [text?, Function.comp_def]), rfl⟩

theorem restores_fieldSpec : Restores n FieldSpec.decode (fun f => f.toValue.sorted) id := by
  have htype : ∀ type, Decoder.named [("string", FieldType.string), ("number", .number),
      ("boolean", .boolean), ("date", .date), ("any", .any)] type.name = .ok type := by
    intro type
    cases type <;> rfl
  refine restores_decode (by decide) fun m _ => ?_
  iterate 4 refine .ap ?_
  refine .map (.text fun name => .oneOfOr htype fun type => .boolOr fun required => ?_)
  refine .text? fun description => .unlessEmpty rfl (restores_textList m) fun examples => ?_
  exact ⟨lays_sorted (by
    simp [put, text?, list?, Value.sorted_list, map_unless, Function.comp_def]), rfl⟩

theorem restores_knowledge : Restores n Knowledge.decode (fun k => k.toValue.sorted) id := by
  refine restores_decode (by decide) fun m _ => ?_
  refine .ap (.ap (.map (.text fun title => .text fun content => ?_)))
  refine .unlessEmpty rfl (restores_textList m) fun keywords => ?_
  exact ⟨lays_sorted (by
    simp [put, list?, Value.sorted_list, map_unless, Function.comp_def]), rfl⟩

theorem single_eq_ok {origin : Origin} {d : Document} {t : Binary64}
    (h : Decoder.single origin d = .ok t) : t.toSingle = t := by
  unfold Decoder.single at h
  split at h
  · cases h
    exact Binary64.toSingle_toSingle _
  · cases h
    exact Binary64.toSingle_singleOfQuotient _ _ Nat.one_pos
  · exact absurd h Decoder.expected_ne_ok

/-- A temperature is written as null when it is not finite, and then left out. -/
theorem keeps_temperature {m : Nat} {name : String}
    {Q : Option Binary64 → List Entry → Option Binary64 → Prop}
    (hQ : ∀ t, Q t [(name, t.map Value.ofNumber)] (t.filter Binary64.isFinite)) :
    Keeps m (RecordDecoder.option name Decoder.single) Q := by
  refine .fieldOr_entry (fun t => t.map Value.ofNumber) (fun t => t.filter Binary64.isFinite) rfl ?_ hQ
  intro origin d t _ ht
  cases t with
  | none => rfl
  | some t =>
    have hsingle : t.toSingle = t := single_eq_ok (RecordDecoder.optional_eq_ok ht).2
    show ReadAs m (Decoder.optional Decoder.single) (Value.ofNumber t) _
    rw [Option.filter_some, Value.ofNumber]
    split
    · refine ⟨.real m t, fun _ => ?_⟩
      show Except.ok (some t.toSingle) = _
      rw [hsingle]
    · exact ⟨.null m, fun _ => rfl⟩

@[simp] theorem Value.sorted_ofNumber (x : Binary64) :
    (Value.ofNumber x).sorted = Value.ofNumber x := by
  unfold ofNumber
  split <;> rfl

/-- A model without a temperature that is not finite. -/
def Model.cooled (m : Model) : Model :=
  { m with temperature := m.temperature.filter Binary64.isFinite }

theorem restores_model :
    Restores n Model.decode (fun m => m.toValue.sorted) Model.cooled := by
  have hrole : ∀ role, Decoder.named [("conversational", Role.conversational),
      ("extractor", .extractor), ("classifier", .classifier)] role.name = .ok role := by
    intro role
    cases role <;> rfl
  refine restores_decode (by decide) fun m _ => ?_
  iterate 15 refine .ap ?_
  refine .map (.oneOf hrole fun role => .text? fun model => keeps_temperature fun temperature => ?_)
  refine .nat? (by decide) fun maxTokens => .text? fun output => .text? fun persona => ?_
  refine .unlessEmpty rfl (restores_listOf m restores_knowledge) fun knowledge => ?_
  refine .unlessEmpty rfl (restores_listOf m restores_fieldSpec) fun collect => ?_
  refine .text? fun completionToken => ?_
  refine .unlessEmpty rfl (restores_listOf m restores_fieldSpec) fun fields => ?_
  refine .unlessEmpty rfl (restores_textList m) fun labels => .text? fun defaultLabel => ?_
  refine .natOr (by decide) (by decide) fun maxAttempts => .text? fun reprompt => ?_
  refine .text? fun onError => .boolOr fun isGlobal => ?_
  exact ⟨lays_sorted (by
    simp [put, text?, nat?_eq, list?, Value.sorted_list, map_unless, Function.comp_def]), rfl⟩

end Parts

end Dialogue
