import Dialogue.Proofs.Turn.Run

/-!
# Reply and store

After a turn the store holds a session of the contact exactly when the reply says that the
conversation waits, and then both name the same node of the flow that ran. Whatever stands under
other keys stays.

* `Engine.handle_agrees`: every turn of a sound engine leaves reply and store in agreement.
-/

namespace Dialogue

namespace Engine

variable {σ : Type}

/-- The reply to a message and the store after the turn agree, for an engine as it was before. -/
structure Agrees (e : Engine) (m : Inbound) (now : Moment) (id : String) (t : Turn σ) : Prop where
  stored_iff : (t.engine.sessions.get? m.tenant m.contact).isSome ↔ t.reply.ending = .awaiting
  waiting : t.reply.ending = .awaiting → t.reply.awaiting = true ∧
    ∃ s f opened, t.engine.sessions.get? m.tenant m.contact = some s ∧ s.awaiting = true ∧
      t.reply.current = some s.current ∧
      e.opening? m now id = some (f, opened) ∧ t.reply.flow = some f.id ∧
      ∃ n ∈ f.nodes, n.id = s.current
  ended : t.reply.ending ≠ .awaiting → t.reply.awaiting = false ∧ t.reply.current = none
  others : ∀ key, key ≠ Session.keyOf m.tenant m.contact →
    Fields.get? t.engine.sessions.store key = Fields.get? e.sessions.store key

variable {e : Engine} {m : Inbound} {now : Moment} {id : String}

/-- A turn that is over agrees with a store in which the session of the contact is removed. -/
theorem Agrees.of_forget {e' : Engine} {t : Turn σ} (ht : t.engine = e'.forget m)
    (ho : ∀ key, key ≠ Session.keyOf m.tenant m.contact →
      Fields.get? t.engine.sessions.store key = Fields.get? e.sessions.store key)
    (hover : t.reply.ending ≠ .awaiting) (ha : t.reply.awaiting = false)
    (hc : t.reply.current = none) : e.Agrees m now id t where
  stored_iff := by
    rw [ht, get?_forget]
    exact ⟨fun h => absurd h (by simp), fun h => absurd h hover⟩
  waiting h := absurd h hover
  ended _ := ⟨ha, hc⟩
  others := ho

/-- A conversation that goes on from the session of the contact ends in agreement with the store. -/
theorem Agrees.converse {e' : Engine} {p : Partners σ} {world : σ} {f : Flow} {s : Session}
    (hothers : ∀ key, key ≠ Session.keyOf m.tenant m.contact →
      Fields.get? (e'.converse p world f s m now).engine.sessions.store key =
        Fields.get? e.sessions.store key)
    (ho : e.opening? m now id = some (f, s)) (hf : f.build = f)
    (hs : s.key = Session.keyOf m.tenant m.contact) :
    e.Agrees m now id (e'.converse p world f s m now) := by
  rw [converse_eq] at hothers ⊢
  have hframe := Setting.frame_turn ⟨f, e'.settings, e'.handlers, p, now⟩ s m.text world
  have hsettled := Setting.settled_turn ⟨f, e'.settings, e'.handlers, p, now⟩ s m.text world
  generalize Setting.turn _ s m.text world = ended at hframe hsettled hothers ⊢
  obtain ⟨how, w⟩ := ended
  cases how with
  | completed => exact .of_forget rfl hothers (by simp [conclude]) rfl rfl
  | failed _ => exact .of_forget rfl hothers (by simp [conclude]) rfl rfl
  | awaiting =>
    have hkey : w.session.key = Session.keyOf m.tenant m.contact :=
      (Session.key_eq_of_frame hframe).trans ((s.key_hear m.text now).trans hs)
    have hget := get?_conclude (e := e') (f := f) hkey
    -- The walk has checked the node on which it stopped; that it has the name is up to `build`.
    obtain ⟨ha, hn⟩ := hsettled rfl
    obtain ⟨n, hn⟩ := Option.isSome_iff_exists.1 hn
    have hb : f.build.node? w.session.current = some n := by rw [hf]; exact hn
    refine ⟨?_, fun _ => ⟨rfl, w.session, f, s, hget, ha, rfl, ho, rfl, n,
      Flow.mem_of_node? hn, Flow.id_of_node?_build hb⟩, fun h => absurd rfl h, hothers⟩
    rw [hget]
    exact ⟨fun _ => rfl, fun _ => rfl⟩

/-- **After each turn of a sound engine, reply and store agree.** -/
theorem handle_agrees (he : e.Sound) (p : Partners σ) (world : σ) (m : Inbound) (now : Moment)
    (id : String) : e.Agrees m now id (e.handle p world m now id) := by
  have hothers : ∀ key, key ≠ Session.keyOf m.tenant m.contact →
      Fields.get? (e.handle p world m now id).engine.sessions.store key =
        Fields.get? e.sessions.store key :=
    fun key hk => get?_handle_of_ne he.keyed p world hk
  have ht := e.handles_handle p world m now id
  generalize e.handle p world m now id = t at ht hothers ⊢
  cases ht with
  | abandons _ _ => exact .of_forget rfl hothers (by simp [abandon]) rfl rfl
  | converses ho _ =>
    exact .converse hothers ho (he.build_of_opening? ho) (key_of_opening? he.keyed ho)
  | ignores _ => exact .of_forget rfl hothers (by simp [TurnReply.noFlow]) rfl rfl

set_option maxRecDepth 10000 in
/-- A new contact is asked for a name, and the store knows. -/
theorem handle_agrees_of_askName :
    let e := ((Engine.ofSettings .usual).run .absent () [.register (.askName "acme")]).1
    let t := e.handle .absent () ⟨"acme", "555", "", "hola"⟩ ⟨0, 0⟩ "s"
    e.Sound ∧ t.reply.ending = .awaiting ∧ e.Agrees ⟨"acme", "555", "", "hola"⟩ ⟨0, 0⟩ "s" t := by
  have he := (sound_ofSettings .usual).run .absent () [.register (.askName "acme")]
  exact ⟨he, by decide +kernel, handle_agrees he .absent () _ _ _⟩

end Engine

end Dialogue
