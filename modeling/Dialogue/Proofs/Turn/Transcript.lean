import Dialogue.Proofs.Turn.Log

/-!
# What a session remembers

The history of a session is a window on the transcript of its conversation: for each message since
the session began, what the contact said and what was replied. A model that converses is told exactly
this window.

* `Session.Recalls`: a session remembers the last part of all that was said; saying something more
  keeps this.
* `Setting.voiced_turn`: in a turn the text of the contact and then the messages of the reply are
  added, and each node knows those up to then.
* `Engine.transcribes_run`: what every run of an engine without sessions leaves behind and asks.
-/

namespace Dialogue

/-! ### Windows -/

namespace Session

variable {α : Type}

theorem lastOf_nil (n : Nat) : lastOf n ([] : List α) = [] := List.drop_nil

/-- To forget early is to forget late. -/
theorem lastOf_lastOf_append (n : Nat) (front back : List α) :
    lastOf n (lastOf n front ++ back) = lastOf n (front ++ back) := by
  have hle : front.length - n ≤ front.length := Nat.sub_le _ _
  unfold lastOf
  rw [← List.drop_append_of_le_length hle, List.drop_drop]
  congr 1
  simp only [List.length_drop, List.length_append]
  omega

theorem getLast?_lastOf {n : Nat} (hn : n ≠ 0) (front : List α) (x : α) :
    (lastOf n (front ++ [x])).getLast? = some x := by
  have hle : (front ++ [x]).length - n ≤ front.length := by
    simp only [List.length_append, List.length_singleton]
    omega
  rw [lastOf, List.drop_append_of_le_length hle, List.getLast?_concat]

/-- A session remembers the last part, as long as its window, of all that was said. -/
structure Recalls (s : Session) (window : Nat) (said : List Utterance) : Prop where
  window_eq : s.window = window
  history_eq : s.history = lastOf window said

/-- What a turn adds to a transcript: the text of the contact and the messages of the bot. -/
def spoken (text : String) (messages : List String) (now : Moment) : List Utterance :=
  ⟨.contact, text, now⟩ :: messages.map fun m => ⟨.bot, m, now⟩

theorem spoken_append (text : String) (messages more : List String) (now : Moment) :
    spoken text (messages ++ more) now =
      spoken text messages now ++ more.map fun m => (⟨.bot, m, now⟩ : Utterance) := by
  simp [spoken]

variable {s : Session} {window : Nat} {said : List Utterance}

namespace Recalls

theorem say (h : s.Recalls window said) (party : Party) (text : String) (now : Moment) :
    (s.say party text now).Recalls window (said ++ [⟨party, text, now⟩]) := by
  refine ⟨h.window_eq, ?_⟩
  rw [history_say, h.window_eq, h.history_eq, lastOf_lastOf_append]

theorem hear (h : s.Recalls window said) (text : String) (now : Moment) :
    (s.hear text now).Recalls window (said ++ [⟨.contact, text, now⟩]) :=
  ⟨h.window_eq, (h.say .contact text now).history_eq⟩

theorem foldl_say (h : s.Recalls window said) (messages : List String) (now : Moment) :
    (messages.foldl (fun s m => s.say .bot m now) s).Recalls window
      (said ++ messages.map fun m => ⟨.bot, m, now⟩) := by
  induction messages generalizing s said with
  | nil => simpa using h
  | cons m messages ih => simpa using ih (h.say .bot m now)

/-- After a visit the messages of its outcome are remembered too. -/
theorem apply (h : s.Recalls window said) (node : String) (o : Outcome) (now : Moment) :
    (s.apply node o now).Recalls window (said ++ o.messages.map fun m => ⟨.bot, m, now⟩) := by
  unfold Session.apply
  refine foldl_say ?_ _ _
  -- Neither outputs nor refusals are part of what is said.
  cases o.refused <;> split <;> exact ⟨h.window_eq, h.history_eq⟩

end Recalls

end Session

open Session (spoken)

/-! ### Turns -/

/-- What is known at a stop: a window on what was said before the turn, the text of the contact and
some first messages of the turn. Who sees the text sees it before there are any. -/
structure Stop.Knows (stop : Stop) (handlers : Handlers) (window : Nat) (before : List Utterance)
    (text : String) (said : List String) (now : Moment) : Prop where
  recalls : stop.context.session.Recalls window (before ++ spoken text said now)
  inbound : ∀ t, stop.context.inbound = some t → t = text ∧ said = []
  request : stop.request = (handlers.visit stop.context stop.node).request?

namespace Setting

variable {σ : Type} {e : Setting σ} {w : Walk σ} {p : Progress σ}

/-- A step adds the messages of one outcome, or none, and they are remembered. -/
theorem Steps.said (h : e.Steps w p) :
    ∃ more, p.walk.messages = w.messages ++ more ∧ ∀ window said,
      w.session.Recalls window said →
        p.walk.session.Recalls window (said ++ more.map fun m => ⟨.bot, m, e.now⟩) := by
  have hnone : ∃ more, w.messages = w.messages ++ more ∧ ∀ window said,
      w.session.Recalls window said →
        w.session.Recalls window (said ++ more.map fun m => ⟨.bot, m, e.now⟩) :=
    ⟨[], by simp, fun _ _ hs => by simpa using hs⟩
  -- Where the session stands afterwards is no part of what it remembers.
  have hsome : ∀ n o (t : Session), t.history = (e.absorbed w n o).session.history →
      t.window = (e.absorbed w n o).session.window →
      ∃ more, (e.absorbed w n o).messages = w.messages ++ more ∧ ∀ window said,
        w.session.Recalls window said →
          t.Recalls window (said ++ more.map fun m => ⟨.bot, m, e.now⟩) :=
    fun n o t hh hw => ⟨o.messages, rfl, fun _ _ hs =>
      have ha := hs.apply n.id o e.now
      ⟨hw.trans ha.window_eq, hh.trans ha.history_eq⟩⟩
  cases h with
  | lost _ => exact hnone
  | broken _ _ => exact hnone
  | stays _ _ => exact hsome _ _ _ rfl rfl
  | finishes _ _ => exact hsome _ _ _ rfl rfl
  | strays _ _ _ => exact hsome _ _ _ rfl rfl
  | parks _ _ _ _ => exact hsome _ _ _ rfl rfl
  | moves _ _ _ _ => exact hsome _ _ _ rfl rfl

/-- A walk remembers what was said before its turn, the text and its own messages so far, and so did
each of its stops. -/
structure Voiced (e : Setting σ) (window : Nat) (before : List Utterance) (text : String)
    (w : Walk σ) : Prop where
  recalls : w.session.Recalls window (before ++ spoken text w.messages e.now)
  stops : ∀ stop ∈ w.trail, ∃ said, said <+: w.messages ∧
    stop.Knows e.handlers window before text said e.now

variable {window : Nat} {before : List Utterance} {text : String}

theorem Voiced.step (hw : e.Voiced window before text w)
    (hi : ∀ t, w.inbound = some t → t = text ∧ w.messages = []) (h : e.Steps w p) :
    e.Voiced window before text p.walk := by
  obtain ⟨more, hm, hr⟩ := h.said
  refine ⟨?_, fun stop hs => ?_⟩
  · rw [hm, Session.spoken_append, ← List.append_assoc]
    exact hr _ _ hw.recalls
  · rw [hm]
    have hold : stop ∈ w.trail → ∃ said, said <+: w.messages ++ more ∧
        stop.Knows e.handlers window before text said e.now := fun hs =>
      let ⟨said, hp, hk⟩ := hw.stops stop hs
      ⟨said, hp.trans (List.prefix_append _ _), hk⟩
    rcases h.trail_eq with ht | ⟨n, -, ht⟩
    · exact hold (ht ▸ hs)
    · rcases List.mem_append.1 (ht ▸ hs) with hs | hs
      · exact hold hs
      · rw [List.mem_singleton.1 hs]
        exact ⟨w.messages, List.prefix_append _ _, hw.recalls, hi, rfl⟩

/-- **A turn adds the text of the contact and then its messages to what is remembered**, and at each
stop those up to then are remembered. -/
theorem voiced_turn {s : Session} (hs : s.Recalls window before) (text : String) (world : σ) :
    e.Voiced window before text (e.turn s text world).2 := by
  rw [turn_eq]
  have hstart : e.Voiced window before text (start (s.hear text e.now) text world) :=
    ⟨hs.hear text e.now, fun _ hm => absurd hm List.not_mem_nil⟩
  -- Only the first node sees the text: the walk starts without messages, and afterwards the text
  -- is gone.
  refine walkFrom_induct (e := e)
    (fun w => e.Voiced window before text w ∧
      ∀ t, w.inbound = some t → t = text ∧ w.messages = [])
    (fun _ w => e.Voiced window before text w) ?_ (fun w how v hw h => hw.1.step hw.2 h)
    (fun w hw => hw.1) _ ⟨hstart, fun t ht => ?_⟩
  · intro w v hw h
    refine ⟨hw.1.step hw.2 h, fun t ht => ?_⟩
    rw [h.inbound_onward] at ht
    cases ht
  · refine ⟨?_, rfl⟩
    change (if s.awaiting then some text else none) = some t at ht
    split at ht
    · exact (Option.some.inj ht).symm
    · cases ht

end Setting

/-! ### Models that converse -/

/-- A node of a model is visited as the model says, where models have their usual handler. -/
theorem Handlers.visit_of_model {hs : Handlers} (hh : hs .model = Handlers.usual .model) {n : Node}
    {m : Model} (hn : n.task = .model m) (c : Context) : hs.visit c n = m.visit c n := by
  have hk : n.kind = .model := by rw [Node.kind, hn]; rfl
  rw [Handlers.visit, hk, hh]
  unfold Handlers.usual Handler.of
  rw [hn]

namespace Model

variable {m : Model} {c : Context}

/-- The messages to a model that converses are its instructions and all that is remembered: the text
of the contact is remembered already, and is not added. -/
theorem transcript_of_recalls {window : Nat} {before : List Utterance} {text : String}
    {said : List String} {now : Moment}
    (hr : c.session.Recalls window (before ++ spoken text said now)) (hw : window ≠ 0)
    (hi : ∀ t, c.inbound = some t → t = text ∧ said = []) :
    m.transcript c = .of .system (m.systemPrompt c.scope) :: remembered c := by
  unfold transcript
  cases hc : c.inbound with
  | none => rfl
  | some t =>
    obtain ⟨rfl, rfl⟩ := hi t hc
    have hlast : c.session.history.getLast? = some ⟨.contact, t, now⟩ := by
      rw [hr.history_eq]
      exact Session.getLast?_lastOf hw before _
    dsimp only
    rw [if_pos]
    rw [List.getLast?_cons, remembered, List.getLast?_map, hlast]
    rfl

/-- What a model that converses is asked. -/
theorem messages_of_request {hs : Handlers} (hh : hs .model = Handlers.usual .model) {n : Node}
    (hn : n.task = .model m) (hm : m.role = .conversational) {r : ModelRequest}
    (hr : (hs.visit c n).request? = some (.ask r)) : r.messages = m.transcript c := by
  rw [Handlers.visit_of_model hh hn, visit, hm] at hr
  dsimp only at hr
  split at hr
  · cases hr
  · cases hr
    rfl

end Model

/-! ### Conversations -/

/-- What was said in an exchange. -/
def Exchange.utterances (x : Exchange) : List Utterance :=
  spoken x.message.text x.reply.messages x.time

/-- What was said in some exchanges. -/
def transcript (xs : List Exchange) : List Utterance := xs.flatMap Exchange.utterances

/-- The exchanges with the contact of a key, from the last one on that found no live session. -/
def conversation (key : String) (log : List Exchange) : List Exchange :=
  (log.filter (·.key == key)).foldl (fun xs x => if x.anew then [x] else xs ++ [x]) []

/-- What an exchange goes on with: the conversation so far, unless it begins anew. -/
def conversationBefore (log : List Exchange) (x : Exchange) : List Exchange :=
  if x.anew then [] else conversation x.key log

theorem conversation_append (log : List Exchange) (x : Exchange) :
    conversation x.key (log ++ [x]) = conversationBefore log x ++ [x] := by
  cases ha : x.anew <;> simp [conversation, conversationBefore, List.filter_append, ha]

theorem conversation_append_of_ne {key : String} {x : Exchange} (h : x.key ≠ key)
    (log : List Exchange) : conversation key (log ++ [x]) = conversation key log := by
  simp [conversation, List.filter_append, h]

theorem transcript_append (xs : List Exchange) (x : Exchange) :
    transcript (xs ++ [x]) = transcript xs ++ x.utterances := by
  simp [transcript]

/-- A session was begun by the first of some exchanges. -/
def Session.BegunBy (s : Session) (xs : List Exchange) : Prop :=
  ∃ x more, xs = x :: more ∧ x.anew = true ∧ s.id = x.id ∧ s.created = x.time

/-- A session was begun by the first of some exchanges and remembers a window on all of them. -/
structure Session.Recounts (s : Session) (window : Nat) (xs : List Exchange) : Prop where
  recalls : s.Recalls window (transcript xs)
  begun : s.BegunBy xs

namespace Engine

variable {σ : Type}

/-- The sessions of an engine recount what was said in the past, and what is fixed for all of them
has not changed. -/
structure Remembers (window : Nat) (handlers : Handlers) (past : List Exchange) (e : Engine) :
    Prop where
  keyed : e.sessions.Keyed
  sorted : Fields.Sorted e.sessions.store
  window_eq : e.sessions.window = window
  handlers_eq : e.handlers = handlers
  recounts : ∀ key s, Fields.get? e.sessions.store key = some s →
    s.Recounts (max 1 window) (conversation key past)

variable {e : Engine} {window : Nat} {handlers : Handlers} {past : List Exchange} {p : Partners σ}
  {world : σ} {m : Inbound} {now : Moment} {id : String}

/-- The session with which a turn begins remembers what was said before the turn, and was begun
before the turn or with it. -/
theorem Remembers.opening (he : e.Remembers window handlers past) (p : Partners σ) (world : σ)
    {f : Flow} {s : Session} (ho : e.opening? m now id = some (f, s)) :
    let x := e.exchange p world m now id
    s.Recalls (max 1 window) (transcript (conversationBefore past x)) ∧
      s.BegunBy (conversationBefore past x ++ [x]) := by
  intro x
  have ha : x.anew = (e.live? m now).isNone := rfl
  cases hl : e.live? m now with
  | some opened =>
    rw [opening?, hl] at ho
    cases ho
    obtain ⟨hr, y, more, hc, hy⟩ := he.recounts _ s (live?_eq_some hl).1
    have hb : conversationBefore past x = conversation x.key past := by
      rw [conversationBefore, ha, hl]
      rfl
    rw [hb]
    exact ⟨hr, y, more ++ [x], congrArg (· ++ [x]) hc, hy⟩
  | none =>
    rw [opening?, hl] at ho
    obtain ⟨g, -, hp⟩ := Option.map_eq_some_iff.1 ho
    cases hp
    have hb : conversationBefore past x = [] := by
      rw [conversationBefore, ha, hl]
      rfl
    rw [hb]
    refine ⟨⟨?_, (Session.lastOf_nil _).symm⟩, x, [], rfl, by rw [ha, hl]; rfl, rfl, rfl⟩
    rw [← he.window_eq]
    exact Nat.max_comm _ _

/-- A session that waits after a turn recounts the turn with what was said before it. -/
theorem recounts_converse {xs : List Exchange} {x : Exchange} {f : Flow} {s s' : Session}
    (hr : s.Recalls window (transcript xs)) (hb : s.BegunBy (xs ++ [x]))
    (hu : x.utterances = spoken m.text (e.converse p world f s m now).reply.messages now)
    (hs : (e.converse p world f s m now).engine.sessions.get? m.tenant m.contact = some s')
    (hk : s.key = Session.keyOf m.tenant m.contact) : s'.Recounts window (xs ++ [x]) := by
  rw [converse_eq] at hu hs
  have hv := Setting.voiced_turn (e := ⟨f, e.settings, e.handlers, p, now⟩) hr m.text world
  have hf := Setting.frame_turn ⟨f, e.settings, e.handlers, p, now⟩ s m.text world
  generalize Setting.turn _ s m.text world = ended at hv hf hu hs
  obtain ⟨how, w⟩ := ended
  cases how with
  | completed => cases (e.get?_forget m).symm.trans hs
  | failed _ => cases (e.get?_forget m).symm.trans hs
  | awaiting =>
    have hkey : w.session.key = Session.keyOf m.tenant m.contact :=
      (Session.key_eq_of_frame hf).trans hk
    rw [get?_conclude hkey] at hs
    cases hs
    obtain ⟨y, more, hy, hanew, hid, hcreated⟩ := hb
    refine ⟨?_, y, more, hy, hanew, (congrArg Frame.id hf).trans hid,
      (congrArg Frame.created hf).trans hcreated⟩
    rw [transcript_append, hu]
    exact hv.recalls

/-- What is said in a turn is recounted with what was said before it. -/
theorem Remembers.handle (he : e.Remembers window handlers past) :
    Remembers window handlers (past ++ [e.exchange p world m now id])
      (e.handle p world m now id).engine := by
  obtain ⟨store, hstore⟩ := e.engine_handle p world m now id
  refine ⟨keyed_handle he.keyed p world m now id,
    sorted_after he.sorted p world (.message m now id), by rw [hstore]; exact he.window_eq,
    by rw [hstore]; exact he.handlers_eq, fun key s hs => ?_⟩
  by_cases hk : key = Session.keyOf m.tenant m.contact
  · subst hk
    have hx : (e.exchange p world m now id).key = Session.keyOf m.tenant m.contact := rfl
    have hu : (e.exchange p world m now id).utterances =
        spoken m.text (e.handle p world m now id).reply.messages now := rfl
    have hb := fun f s (ho : e.opening? m now id = some (f, s)) => he.opening p world ho
    rw [← hx, conversation_append]
    generalize e.exchange p world m now id = x at hx hu hb ⊢
    have ht := e.handles_handle p world m now id
    generalize e.handle p world m now id = t at ht hs hu
    cases ht with
    | abandons _ _ => cases (e.get?_forget m).symm.trans hs
    | ignores _ => cases (e.get?_forget m).symm.trans hs
    | converses ho _ =>
      obtain ⟨hr, hbegun⟩ := hb _ _ ho
      exact recounts_converse hr hbegun hu hs (key_of_opening? he.keyed ho)
  · rw [conversation_append_of_ne (Ne.symm hk)]
    rw [get?_handle_of_ne he.keyed p world hk] at hs
    exact he.recounts key s hs

/-- Where nothing is said and no session is added everything stays recounted. -/
theorem Remembers.after_silence {e' : Engine} {xs : List Exchange}
    (he : e.Remembers window handlers past) (hx : xs = []) (hk : e'.sessions.Keyed)
    (hs : Fields.Sorted e'.sessions.store)
    (hfixed : (e'.sessions.window, e'.handlers) = (e.sessions.window, e.handlers))
    (hkept : ∀ key s, Fields.get? e'.sessions.store key = some s →
      Fields.get? e.sessions.store key = some s) : Remembers window handlers (past ++ xs) e' := by
  obtain ⟨hw, hh⟩ := Prod.mk.inj hfixed
  rw [hx, List.append_nil]
  exact ⟨hk, hs, hw.trans he.window_eq, hh.trans he.handlers_eq,
    fun key s h => he.recounts key s (hkept key s h)⟩

/-- What was said in the past is recounted after every event. -/
theorem Remembers.after (he : e.Remembers window handlers past) (p : Partners σ) (world : σ)
    (event : Event) :
    Remembers window handlers (past ++ e.exchanges p world event) (e.after p world event).1 := by
  cases event with
  | message m now id => exact he.handle
  | register f => exact he.after_silence rfl he.keyed he.sorted rfl fun _ _ hs => hs
  | remove tenant flow => exact he.after_silence rfl he.keyed he.sorted rfl fun _ _ hs => hs
  | sweep now =>
    refine he.after_silence rfl (he.keyed.sweep now) (he.sorted.filter _) rfl fun key s hs => ?_
    rw [show (e.after p world (.sweep now)).1.sessions.store = e.sessions.store.filter _ from rfl,
      he.sorted.get?_filter, Option.filter_eq_some_iff] at hs
    exact hs.1

/-- At each stop of a turn the transcript up to then is known. -/
theorem Remembers.knows (he : e.Remembers window handlers past) (p : Partners σ) (world : σ)
    (m : Inbound) (now : Moment) (id : String) :
    let x := e.exchange p world m now id
    ∀ stop ∈ x.trail, ∃ said, said <+: x.reply.messages ∧
      stop.Knows handlers (max 1 window) (transcript (conversationBefore past x)) m.text said
        now := by
  intro x
  have hr : ∀ f s, e.opening? m now id = some (f, s) →
      s.Recalls (max 1 window) (transcript (conversationBefore past x)) :=
    fun f s ho => (he.opening p world ho).1
  have hreply : x.reply = (e.handle p world m now id).reply := rfl
  have htrail : x.trail = (e.handle p world m now id).trail := rfl
  generalize transcript (conversationBefore past x) = before at hr ⊢
  rw [hreply, htrail]
  have ht := e.handles_handle p world m now id
  generalize e.handle p world m now id = t at ht ⊢
  cases ht with
  | abandons _ _ => exact fun stop hm => absurd hm List.not_mem_nil
  | ignores _ => exact fun stop hm => absurd hm List.not_mem_nil
  | @converses f s e' ho h' =>
    have hh : e'.handlers = handlers := by
      rcases h' with rfl | rfl <;> exact he.handlers_eq
    have hv := (Setting.voiced_turn (e := ⟨f, e'.settings, e'.handlers, p, now⟩) (hr f s ho)
      m.text world).stops
    rw [converse_eq]
    generalize Setting.turn _ s m.text world = ended at hv ⊢
    obtain ⟨how, w⟩ := ended
    rw [← hh]
    cases how with
    | awaiting => exact hv
    | completed => exact hv
    | failed _ =>
      intro stop hm
      obtain ⟨said, hp, hk⟩ := hv stop hm
      exact ⟨said, hp.trans (List.prefix_append _ _), hk⟩

/-- What a run leaves behind and asks. A stored session was begun by the first exchange of its
conversation and holds a window on the transcript of the conversation. At each stop of an exchange
this window ends with the text of the contact and the messages said so far, and a model that
converses is told its instructions and the window. -/
structure Transcribes (e : Engine) (p : Partners σ) (world : σ) (events : List Event) : Prop where
  stored : ∀ tenant contact s,
    (e.run p world events).1.sessions.get? tenant contact = some s →
      let xs := conversation (Session.keyOf tenant contact) (e.log p world events)
      s.history = Session.lastOf (max 1 e.sessions.window) (transcript xs) ∧ s.BegunBy xs
  held : ∀ before x later, e.log p world events = before ++ x :: later → ∀ stop ∈ x.trail,
    ∃ said, said <+: x.reply.messages ∧
      stop.context.session.history = Session.lastOf (max 1 e.sessions.window)
        (transcript (conversationBefore before x) ++ spoken x.message.text said x.time)
  asked : e.handlers .model = Handlers.usual .model → ∀ x ∈ e.log p world events,
    ∀ stop ∈ x.trail, ∀ m r, stop.node.task = .model m → m.role = .conversational →
      stop.request = some (.ask r) →
        r.messages = .of .system (m.systemPrompt stop.context.scope) ::
          stop.context.session.history.map fun u => .of u.party.speaker u.text

/-- **The history of a stored session is a window on the transcript of its conversation**, and a
model that converses is told this window, whatever happens to the engine. -/
theorem transcribes_run (hs : e.sessions.store = []) (p : Partners σ) (world : σ)
    (events : List Event) : e.Transcribes p world events := by
  have hstart : Remembers e.sessions.window e.handlers [] e := by
    refine ⟨fun entry hm => ?_, ?_, rfl, rfl, fun key s h => ?_⟩
    · rw [hs] at hm
      cases hm
    · rw [hs]
      exact .nil
    · rw [hs] at h
      cases h
  obtain ⟨hrun, hlog⟩ := log_induct (Remembers e.sessions.window e.handlers)
    (fun past x => ∀ stop ∈ x.trail, ∃ said, said <+: x.reply.messages ∧
      stop.Knows e.handlers (max 1 e.sessions.window) (transcript (conversationBefore past x))
        x.message.text said x.time)
    (fun past e world event he => he.after p world event)
    (fun past e world m now id he => he.knows p world m now id) hstart world events
  refine ⟨fun tenant contact s h => ?_, fun before x later h stop hm => ?_, ?_⟩
  · obtain ⟨hr, hb⟩ := hrun.recounts _ s h
    exact ⟨hr.history_eq, hb⟩
  · obtain ⟨said, hp, hk⟩ := hlog before x later h stop hm
    exact ⟨said, hp, hk.recalls.history_eq⟩
  · intro hh x hx stop hm model r hn hrole hr
    obtain ⟨before, later, h⟩ := List.append_of_mem hx
    obtain ⟨said, -, hk⟩ := hlog before x later h stop hm
    rw [Model.messages_of_request hh hn hrole (hk.request ▸ hr),
      Model.transcript_of_recalls hk.recalls (by omega) hk.inbound]
    rfl

end Engine

/-- A flow in which a model converses until it has said a word. -/
def Flow.advice : Flow :=
  { Flow.new "acme" "asesor" "Asesor" "charla" with
    triggers := ⟨[], 0, .always⟩
    nodes := [.of "charla" (.model { Model.inRole .conversational with completionToken := "FIN" })] }

/-- A model that says how often it was asked before. -/
def Partners.counting : Partners Nat :=
  ⟨fun _ n => (.error .noModelKey, n), fun _ n => (.ok ⟨toString n, default, 1⟩, n + 1)⟩

set_option maxRecDepth 10000 in
/-- With a window of three utterances the first text is forgotten after the second exchange. -/
theorem Engine.transcribes_run_of_advice :
    let e := ofSettings { Settings.usual with window := 3 }
    let events : List Event := [.register .advice, .message ⟨"acme", "555", "", "hola"⟩ ⟨0, 0⟩ "s",
      .message ⟨"acme", "555", "", "gracias"⟩ ⟨60, 0⟩ "t"]
    e.sessions.store = [] ∧
      ((e.run .counting 0 events).1.sessions.get? "acme" "555").map (·.history) =
        some [⟨.bot, "0", ⟨0, 0⟩⟩, ⟨.contact, "gracias", ⟨60, 0⟩⟩, ⟨.bot, "1", ⟨60, 0⟩⟩] ∧
      e.Transcribes .counting 0 events :=
  ⟨rfl, by decide +kernel, transcribes_run rfl .counting 0 _⟩

end Dialogue
