import Dialogue.Proofs.Turn.Isolation

/-!
# What a run of an engine shows

From outside, a run is the list of its exchanges: each message with the reply to it. The log of a run
keeps them in order, with what the nodes knew and asked on the way.

* `Engine.sorted_after`: the sessions of an engine stay in the order of their keys.
* `Engine.engine_handle`: a turn changes nothing of an engine but its store.
* `Engine.log_induct`: what every event keeps of the engine and of the log so far holds after every
  run, and what follows from it for an exchange holds of every exchange of the log.
-/

namespace Dialogue

/-- A message and what was made of it; `anew` says that it found no live session to go on with. -/
structure Exchange where
  message : Inbound
  time : Moment
  id : String
  anew : Bool
  reply : TurnReply
  trail : List Stop

/-- The key of the contact of an exchange. -/
def Exchange.key (x : Exchange) : String := Session.keyOf x.message.tenant x.message.contact

namespace Engine

variable {σ : Type}

/-- The exchange that a message makes. -/
def exchange (e : Engine) (p : Partners σ) (world : σ) (m : Inbound) (now : Moment) (id : String) :
    Exchange :=
  let t := e.handle p world m now id
  ⟨m, now, id, (e.live? m now).isNone, t.reply, t.trail⟩

/-- The exchange that an event makes, when it is a message. -/
def exchanges (e : Engine) (p : Partners σ) (world : σ) : Event → List Exchange
  | .message m now id => [e.exchange p world m now id]
  | _ => []

/-- The exchanges of a run, in order. -/
def log (e : Engine) (p : Partners σ) (world : σ) : List Event → List Exchange
  | [] => []
  | event :: more =>
    e.exchanges p world event ++ log (e.after p world event).1 p (e.after p world event).2 more

/-- A turn changes nothing of an engine but its store. -/
theorem engine_handle (e : Engine) (p : Partners σ) (world : σ) (m : Inbound) (now : Moment)
    (id : String) : ∃ store, (e.handle p world m now id).engine = e.withStore store :=
  handle_induct (fun e' => ∃ store, e' = e.withStore store) ⟨_, rfl⟩
    (fun _ ⟨_, h⟩ => h ▸ ⟨_, rfl⟩) (fun _ _ ⟨_, h⟩ => h ▸ ⟨_, rfl⟩) p world now id

/-- The sessions of an engine stay in the order of their keys. -/
theorem sorted_after {e : Engine} (h : Fields.Sorted e.sessions.store) (p : Partners σ) (world : σ)
    (event : Event) : Fields.Sorted (e.after p world event).1.sessions.store := by
  cases event with
  | register f => exact h
  | remove tenant flow => exact h
  | sweep now => exact h.filter _
  | message m now id =>
    exact handle_induct (Fields.Sorted ·.sessions.store) h (fun _ h => h.filter _)
      (fun _ _ h => Fields.sorted_insert _ _ h) p world now id

/-- What every event keeps holds after every run; `past` are the exchanges before it. -/
theorem log_induct {p : Partners σ} (inv : List Exchange → Engine → Prop)
    (holds : List Exchange → Exchange → Prop)
    (keeps : ∀ past e world event, inv past e →
      inv (past ++ e.exchanges p world event) (e.after p world event).1)
    (shows : ∀ past e world m now id, inv past e → holds past (e.exchange p world m now id))
    {past : List Exchange} {e : Engine} (he : inv past e) (world : σ) (events : List Event) :
    inv (past ++ e.log p world events) (e.run p world events).1 ∧
      ∀ before x later, e.log p world events = before ++ x :: later → holds (past ++ before) x := by
  induction events generalizing past e world with
  | nil =>
    refine ⟨by simpa [log, run] using he, fun before x later h => ?_⟩
    simp [log] at h
  | cons event more ih =>
    obtain ⟨hrun, hlog⟩ := ih (keeps past e world event he) (e.after p world event).2
    refine ⟨by simpa [log, run, List.append_assoc] using hrun, fun before x later h => ?_⟩
    rw [log] at h
    -- Only a message adds an exchange, and then either that one is meant or a later one.
    cases event with
    | message m now id =>
      rw [exchanges, List.singleton_append] at h
      cases before with
      | nil =>
        obtain ⟨rfl, -⟩ := List.cons.inj h
        simpa using shows past e world m now id he
      | cons first before =>
        obtain ⟨rfl, hmore⟩ := List.cons.inj h
        simpa [exchanges] using hlog before x later hmore
    | register f => simpa [exchanges] using hlog before x later h
    | remove tenant flow => simpa [exchanges] using hlog before x later h
    | sweep now => simpa [exchanges] using hlog before x later h

end Engine

end Dialogue
