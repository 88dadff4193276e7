import Dialogue.Proofs.Turn.Length

/-!
# The limit of steps

A walk is cut off when it has taken as many steps as it may. Apart from that the limit is not seen:
no node looks at it, so that walks under different limits go the same way as far as both go.

* `Setting.step_recorded`: what partners are asked is what the stops say, at most one request each.
* `Setting.step_limited`: a step does the same whatever the limit is.
* `Setting.walkFrom_of_onward?`, `Setting.walkFrom_of_endsAfter`: a walk is cut off when all its steps
  lead on, and is the walk without limit when that one ends in time.
* `Setting.onlyCut_walk`: all that a limit does to a walk.
-/

namespace Dialogue

/-! ### Steps with another past -/

/-- The walk with another past: other stops, and another world made of stops and world. -/
def Walk.relabel {σ τ : Type} (stops : List Stop → List Stop) (world : List Stop → σ → τ)
    (w : Walk σ) : Walk τ :=
  { session := w.session, inbound := w.inbound, messages := w.messages, steps := w.steps,
    trail := stops w.trail, world := world w.trail w.world }

/-- The progress of the walk with another past. -/
def Progress.relabel {σ τ : Type} (stops : List Stop → List Stop) (world : List Stop → σ → τ) :
    Progress σ → Progress τ
  | .ended how w => .ended how (w.relabel stops world)
  | .onward w => .onward (w.relabel stops world)

namespace Setting

variable {σ τ : Type} {e : Setting σ} {e' : Setting τ} {stops : List Stop → List Stop}
  {world : List Stop → σ → τ}

/-- Where a walk goes does not depend on its past. -/
theorem proceed_relabel (hf : e'.flow = e.flow) (n : Node) (o : Outcome) (w : Walk σ) :
    e'.proceed n o (w.relabel stops world) = (e.proceed n o w).relabel stops world := by
  have hgoTo : ∀ target, e'.goTo target o.awaiting (w.relabel stops world) =
      (e.goTo target o.awaiting w).relabel stops world := by
    intro target
    unfold goTo
    rw [hf]
    split
    · rfl
    · cases o.awaiting <;> rfl
  unfold proceed
  cases o.next with
  | stay => rfl
  | finish => rfl
  | node target => exact hgoTo target
  | edges =>
    dsimp only
    rw [hf, show (w.relabel stops world).session = w.session from rfl]
    cases Edge.choose (w.session.scope e.flow.constants) n.edges with
    | none => rfl
    | some edge => exact hgoTo edge.target

/-- When visits come to the same with another past, so do steps. -/
theorem step_relabel (hf : e'.flow = e.flow) (hnow : e'.now = e.now)
    (hr : ∀ w n, (e'.result (w.relabel stops world) n).1 = (e.result w n).1)
    (hs : ∀ w n, e'.seen (w.relabel stops world) n = (e.seen w n).relabel stops world)
    (w : Walk σ) : e'.step (w.relabel stops world) = (e.step w).relabel stops world := by
  cases hn : e.flow.node? w.session.current with
  | none =>
    rw [step_of_lost hn, step_of_lost (w := w.relabel stops world) (by rw [hf]; exact hn)]
    rfl
  | some n =>
    rw [step_of_node hn, step_of_node (w := w.relabel stops world) (by rw [hf]; exact hn), hr, hs]
    cases (e.result w n).1 with
    | error f => rfl
    | ok o =>
      dsimp only
      rw [← proceed_relabel hf]
      unfold absorbed
      rw [hs, hnow]
      rfl

end Setting

/-! ### What is asked of partners -/

/-- What was asked of partners at some stops, in order. -/
def requests (trail : List Stop) : List PartnerRequest := trail.filterMap (·.request)

theorem requests_append (trail : List Stop) (stop : Stop) :
    requests (trail ++ [stop]) = requests trail ++ stop.request.toList := by
  rw [requests, List.filterMap_append]
  rfl

/-- The same partners, with a record of what is asked of them. -/
def Partners.recorded {σ : Type} (p : Partners σ) : Partners (σ × List PartnerRequest) where
  call c world := ((p.call c world.1).1, (p.call c world.1).2, world.2 ++ [.call c])
  ask r world := ((p.ask r world.1).1, (p.ask r world.1).2, world.2 ++ [.ask r])

theorem Visit.run_recorded {σ : Type} (v : Visit) (p : Partners σ) (world : σ)
    (asked : List PartnerRequest) :
    v.run p.recorded (world, asked) =
      ((v.run p world).1, (v.run p world).2, asked ++ v.request?.toList) := by
  cases v with
  | done result => simp [Visit.request?]
  | call c resume => rfl
  | ask r resume => rfl

/-- The walk in a world with a record of what was asked at its stops. -/
def Walk.recorded {σ : Type} (w : Walk σ) : Walk (σ × List PartnerRequest) :=
  w.relabel id fun trail world => (world, requests trail)

namespace Setting

variable {σ : Type}

/-- The same setting with partners that keep a record. -/
def recorded (e : Setting σ) : Setting (σ × List PartnerRequest) :=
  ⟨e.flow, e.settings, e.handlers, e.partners.recorded, e.now⟩

/-- With a record a step does the same, and all requests of its stops are in the record. -/
theorem step_recorded (e : Setting σ) (w : Walk σ) :
    e.recorded.step w.recorded =
      (e.step w).relabel id fun trail world => (world, requests trail) := by
  have hresult : ∀ (w : Walk σ) n, e.recorded.result w.recorded n =
      ((e.result w n).1, (e.result w n).2,
        requests w.trail ++ (e.handlers.visit (e.context w) n).request?.toList) := fun w n =>
    Visit.run_recorded (e.handlers.visit (e.context w) n) e.partners w.world (requests w.trail)
  refine step_relabel (show e.recorded.flow = e.flow from rfl) rfl ?_ ?_ w
  · intro w n
    exact congrArg Prod.fst (hresult w n)
  · intro w n
    show e.recorded.seen w.recorded n = (e.seen w n).recorded
    unfold seen
    rw [hresult, Walk.recorded, Walk.relabel, Walk.recorded, Walk.relabel, requests_append]
    rfl

/-- With a record a walk is the same, and all requests of its stops are in the record. -/
theorem walkFrom_recorded (e : Setting σ) (left : Nat) (w : Walk σ) :
    e.recorded.walkFrom left w.recorded =
      ((e.walkFrom left w).1, (e.walkFrom left w).2.recorded) := by
  induction left generalizing w with
  | zero => rfl
  | succ left ih =>
    rw [walkFrom_succ, walkFrom_succ, step_recorded]
    cases e.step w with
    | ended how v => rfl
    | onward v => exact ih v

end Setting

/-! ### Other limits -/

/-- The context under another limit of steps. -/
def Context.limited (c : Context) (limit : Nat) : Context :=
  { c with settings := { c.settings with maxSteps := limit } }

theorem Refusal.complaint_limited (r : Refusal) (c : Context) (limit : Nat)
    (errorMessage : Option String) :
    r.complaint (c.limited limit) errorMessage = r.complaint c errorMessage := rfl

theorem Node.refuse_limited (n : Node) (c : Context) (limit maxAttempts : Nat)
    (fallback : Option String) (complaint : String) :
    n.refuse (c.limited limit) maxAttempts fallback complaint =
      n.refuse c maxAttempts fallback complaint := rfl

/-- No node looks at the limit. -/
theorem Handlers.usual_visit_limited (c : Context) (limit : Nat) (n : Node) :
    usual.visit (c.limited limit) n = usual.visit c n := by
  rw [usual_visit, usual_visit]
  cases n.task with
  | trigger => rfl
  | input q => rfl
  | confirmation q =>
    dsimp only
    unfold Confirmation.visit
    rw [Refusal.complaint_limited, Node.refuse_limited]
    rfl
  | message m => rfl
  | action a => rfl
  | router r => rfl
  | model m => rfl

/-- The stop as it is made under another limit. -/
def Stop.limited (stop : Stop) (limit : Nat) : Stop :=
  { stop with context := stop.context.limited limit }

/-- The walk as it is made under another limit. -/
def Walk.limited {σ : Type} (w : Walk σ) (limit : Nat) : Walk σ :=
  w.relabel (List.map (·.limited limit)) fun _ world => world

namespace Setting

variable {σ : Type} {e : Setting σ} {w v : Walk σ} {how : WalkEnd} {k left : Nat}

/-- The setting with another limit. -/
def limited (e : Setting σ) (limit : Nat) : Setting σ :=
  { e with settings := { e.settings with maxSteps := limit } }

/-- A step does the same whatever the limit is. -/
theorem step_limited (hh : e.handlers = .usual) (limit : Nat) (w : Walk σ) :
    (e.limited limit).step (w.limited limit) =
      (e.step w).relabel (List.map (·.limited limit)) fun _ world => world := by
  have hvisit : ∀ (w : Walk σ) n,
      (e.limited limit).handlers.visit ((e.limited limit).context (w.limited limit)) n =
        e.handlers.visit (e.context w) n := by
    intro w n
    rw [show (e.limited limit).handlers = e.handlers from rfl, hh]
    exact Handlers.usual_visit_limited (e.context w) limit n
  have hresult : ∀ (w : Walk σ) n,
      (e.limited limit).result (w.limited limit) n = e.result w n := by
    intro w n
    unfold result
    rw [hvisit]
    rfl
  refine step_relabel (show (e.limited limit).flow = e.flow from rfl) rfl ?_ ?_ w
  · intro w n
    exact congrArg Prod.fst (hresult w n)
  · intro w n
    show (e.limited limit).seen (w.limited limit) n = (e.seen w n).limited limit
    unfold seen
    rw [hresult, hvisit, Walk.limited, Walk.relabel, Walk.limited, Walk.relabel]
    simp only [List.map_append]
    rfl

/-! ### Walks without a limit -/

/-- The walk after so many steps, when all of them lead on. -/
def onward? (e : Setting σ) : Nat → Walk σ → Option (Walk σ)
  | 0, w => some w
  | k + 1, w =>
    match e.step w with
    | .ended _ _ => none
    | .onward v => onward? e k v

/-- So many steps lead on, and the next one ends the walk. -/
def EndsAfter (e : Setting σ) (k : Nat) (w : Walk σ) (how : WalkEnd) (v : Walk σ) : Prop :=
  ∃ u, e.onward? k w = some u ∧ e.step u = .ended how v

theorem onward?_succ (h : e.step w = .onward v) (k : Nat) :
    e.onward? (k + 1) w = e.onward? k v := by
  rw [onward?, h]

theorem EndsAfter.succ (h : e.step w = .onward v) {u : Walk σ} (hu : e.EndsAfter k v how u) :
    e.EndsAfter (k + 1) w how u := by
  obtain ⟨x, hx, hstep⟩ := hu
  exact ⟨x, (onward?_succ h k).trans hx, hstep⟩

/-- A walk whose steps all lead on is cut off. -/
theorem walkFrom_of_onward? (h : e.onward? left w = some v) :
    e.walkFrom left w = (.failed (.defect (.tooManySteps e.settings.maxSteps)), v) := by
  induction left generalizing w with
  | zero =>
    cases h
    rfl
  | succ left ih =>
    rw [onward?] at h
    rw [walkFrom_succ]
    cases hs : e.step w with
    | ended how u => rw [hs] at h; cases h
    | onward u => exact ih (by rwa [hs] at h)

/-- A walk that ends in time is not cut off. -/
theorem walkFrom_of_endsAfter (h : e.EndsAfter k w how v) (hk : k < left) :
    e.walkFrom left w = (how, v) := by
  obtain ⟨u, hu, hend⟩ := h
  induction k generalizing w left with
  | zero =>
    cases hu
    obtain ⟨left, rfl⟩ := Nat.exists_eq_add_of_lt hk
    rw [Nat.zero_add, walkFrom_succ, hend]
  | succ k ih =>
    obtain ⟨left, rfl⟩ : ∃ more, left = more + 1 := ⟨left - 1, by omega⟩
    rw [onward?] at hu
    rw [walkFrom_succ]
    cases hs : e.step w with
    | ended how u => rw [hs] at hu; cases hu
    | onward x => exact ih (by omega) (by rwa [hs] at hu)

/-- A walk leads on for as long as it may, or ends by itself before. -/
theorem onward?_or_endsAfter (e : Setting σ) (left : Nat) (w : Walk σ) :
    (∃ v, e.onward? left w = some v) ∨ ∃ k < left, ∃ how v, e.EndsAfter k w how v := by
  induction left generalizing w with
  | zero => exact .inl ⟨w, rfl⟩
  | succ left ih =>
    cases hs : e.step w with
    | ended how v => exact .inr ⟨0, Nat.succ_pos left, how, v, w, rfl, hs⟩
    | onward u =>
      rcases ih u with ⟨v, hv⟩ | ⟨k, hk, how, v, hv⟩
      · exact .inl ⟨v, (onward?_succ hs left).trans hv⟩
      · exact .inr ⟨k + 1, Nat.succ_lt_succ hk, how, v, hv.succ hs⟩

/-- Each step that leads on has visited a node. -/
theorem length_trail_onward? (h : e.onward? k w = some v) :
    v.trail.length = w.trail.length + k := by
  induction k generalizing w with
  | zero =>
    cases h
    rfl
  | succ k ih =>
    rw [onward?] at h
    have hs := e.steps_step w
    cases hp : e.step w with
    | ended how u => rw [hp] at h; cases h
    | onward u =>
      rw [hp] at h hs
      rw [ih h]
      cases hs with
      | moves _ _ _ _ =>
        simp only [Walk.moved, absorbed, seen, List.length_append, List.length_singleton]
        omega

/-- A walk that ends after some steps has visited at most one node more. -/
theorem EndsAfter.length_trail_le (h : e.EndsAfter k w how v) :
    v.trail.length ≤ w.trail.length + k + 1 := by
  obtain ⟨u, hu, hend⟩ := h
  have hs := e.steps_step u
  rw [hend] at hs
  rw [← length_trail_onward? hu]
  rcases hs.trail_eq with ht | ⟨n, -, ht⟩
  · exact ht ▸ Nat.le_succ _
  · rw [show v.trail = u.trail ++ [e.stopAt u n] from ht, List.length_append]
    exact Nat.le_refl _

/-- A walk that ends by itself does not end because of the limit. -/
theorem EndsAfter.patient (hh : e.handlers = .usual) (h : e.EndsAfter k w how v) (limit : Nat) :
    how ≠ .failed (.defect (.tooManySteps limit)) := by
  obtain ⟨u, -, hend⟩ := h
  exact (hend ▸ e.steps_step u).patient hh limit

/-! ### The same under another limit -/

theorem onward?_limited (hh : e.handlers = .usual) (limit : Nat) (k : Nat) (w : Walk σ) :
    (e.limited limit).onward? k (w.limited limit) = (e.onward? k w).map (·.limited limit) := by
  induction k generalizing w with
  | zero => rfl
  | succ k ih =>
    rw [onward?, onward?, step_limited hh]
    cases e.step w with
    | ended how v => rfl
    | onward v => exact ih v

theorem EndsAfter.limited (hh : e.handlers = .usual) (limit : Nat) (h : e.EndsAfter k w how v) :
    (e.limited limit).EndsAfter k (w.limited limit) how (v.limited limit) := by
  obtain ⟨u, hu, hend⟩ := h
  refine ⟨u.limited limit, ?_, ?_⟩
  · rw [onward?_limited hh, hu]
    rfl
  · rw [step_limited hh, hend]
    rfl

/-- Two walks take the same course: they visit the same nodes, ask the same, say the same and end the
same way, with the same session and the same world afterwards. -/
structure SameCourse (t u : WalkEnd × Walk σ) : Prop where
  ended : t.1 = u.1
  session : t.2.session = u.2.session
  messages : t.2.messages = u.2.messages
  steps : t.2.steps = u.2.steps
  nodes : t.2.trail.map (·.node) = u.2.trail.map (·.node)
  requests : requests t.2.trail = requests u.2.trail
  world : t.2.world = u.2.world

theorem sameCourse_limited (how : WalkEnd) (w : Walk σ) (limit : Nat) :
    SameCourse (how, w.limited limit) (how, w) where
  ended := rfl
  session := rfl
  messages := rfl
  steps := rfl
  nodes := by simp [Walk.limited, Walk.relabel, Stop.limited, Function.comp_def]
  requests := by
    simp [Walk.limited, Walk.relabel, Stop.limited, Dialogue.requests, List.filterMap_map]
  world := rfl

theorem SameCourse.symm {t u : WalkEnd × Walk σ} (h : SameCourse t u) : SameCourse u t :=
  ⟨h.ended.symm, h.session.symm, h.messages.symm, h.steps.symm, h.nodes.symm, h.requests.symm,
    h.world.symm⟩

theorem SameCourse.trans {t u v : WalkEnd × Walk σ} (h : SameCourse t u) (k : SameCourse u v) :
    SameCourse t v :=
  ⟨h.ended.trans k.ended, h.session.trans k.session, h.messages.trans k.messages,
    h.steps.trans k.steps, h.nodes.trans k.nodes, h.requests.trans k.requests,
    h.world.trans k.world⟩

/-- A walk that ends in time without a limit takes the same course under it. -/
theorem EndsAfter.sameCourse (hh : e.handlers = .usual) {s : Session} {text : String} {world : σ}
    (h : e.EndsAfter k (start s text world) how v) {limit : Nat} (hk : k < limit) :
    SameCourse ((e.limited limit).walk s text world) (how, v) := by
  rw [show (e.limited limit).walk s text world = (how, v.limited limit) from
    walkFrom_of_endsAfter (h.limited hh limit) hk]
  exact sameCourse_limited how v limit

/-- A walk whose steps all lead on is cut off where it then stands. -/
theorem sameCourse_of_onward? (hh : e.handlers = .usual) {s : Session} {text : String} {world : σ}
    {limit : Nat} (h : e.onward? limit (start s text world) = some v) :
    SameCourse ((e.limited limit).walk s text world)
      (.failed (.defect (.tooManySteps limit)), v) := by
  have hv : (e.limited limit).onward? limit (start s text world) = some (v.limited limit) := by
    rw [show start s text world = (start s text world).limited limit from rfl,
      onward?_limited hh, h]
    rfl
  rw [show (e.limited limit).walk s text world = (_, v.limited limit) from walkFrom_of_onward? hv]
  exact sameCourse_limited _ v limit

/-- What a limit of steps does to a walk: it ends the walk when that has visited as many nodes and
all of them have led on, and does nothing else. What partners are asked stands at the stops, so that
each node asks once at most. -/
structure OnlyCut (e : Setting σ) (s : Session) (text : String) (world : σ) (limit : Nat) :
    Prop where
  visits : ((e.limited limit).walk s text world).2.trail.length ≤ limit
  asks : ((e.limited limit).recorded.walk s text (world, [])).2.world =
    (((e.limited limit).walk s text world).2.world,
      ((e.limited limit).walk s text world).2.trail.filterMap (·.request))
  asks_le : ((e.limited limit).recorded.walk s text (world, [])).2.world.2.length ≤
    ((e.limited limit).walk s text world).2.trail.length
  cut_iff : ((e.limited limit).walk s text world).1 = .failed (.defect (.tooManySteps limit)) ↔
    ∃ w, e.onward? limit (start s text world) = some w ∧ w.trail.length = limit
  cut : ∀ w, e.onward? limit (start s text world) = some w →
    SameCourse ((e.limited limit).walk s text world) (.failed (.defect (.tooManySteps limit)), w)
  later : ((e.limited limit).walk s text world).1 ≠ .failed (.defect (.tooManySteps limit)) →
    ∀ more, limit ≤ more →
      SameCourse ((e.limited limit).walk s text world) ((e.limited more).walk s text world)
  unlimited : ∀ k how w, e.EndsAfter k (start s text world) how w → k < limit →
    SameCourse ((e.limited limit).walk s text world) (how, w)

/-- **A limit of steps only cuts a walk off**, in any flow and whatever contacts and partners say. -/
theorem onlyCut_walk (f : Flow) (settings : Settings) (p : Partners σ) (now : Moment) (s : Session)
    (text : String) (world : σ) (limit : Nat) :
    OnlyCut ⟨f, settings, .usual, p, now⟩ s text world limit := by
  generalize he : (⟨f, settings, .usual, p, now⟩ : Setting σ) = e
  have hh : e.handlers = .usual := by rw [← he]
  have hasks : ((e.limited limit).recorded.walk s text (world, [])).2.world =
      (((e.limited limit).walk s text world).2.world,
        ((e.limited limit).walk s text world).2.trail.filterMap (·.request)) :=
    congrArg (·.2.world) (walkFrom_recorded (e.limited limit) limit (start s text world))
  have hasks_le : ((e.limited limit).recorded.walk s text (world, [])).2.world.2.length ≤
      ((e.limited limit).walk s text world).2.trail.length := by
    rw [hasks]
    exact List.length_filterMap_le _ _
  have hcut : ∀ w, e.onward? limit (start s text world) = some w →
      SameCourse ((e.limited limit).walk s text world)
        (.failed (.defect (.tooManySteps limit)), w) :=
    fun w hw => sameCourse_of_onward? hh hw
  have hlimited : ∀ k how w, e.EndsAfter k (start s text world) how w → k < limit →
      SameCourse ((e.limited limit).walk s text world) (how, w) :=
    fun k how w hw hk => hw.sameCourse hh hk
  have hback : (∃ w, e.onward? limit (start s text world) = some w ∧ w.trail.length = limit) →
      ((e.limited limit).walk s text world).1 = .failed (.defect (.tooManySteps limit)) :=
    fun ⟨w, hw, _⟩ => (hcut w hw).ended
  rcases e.onward?_or_endsAfter limit (start s text world) with ⟨w, hw⟩ | ⟨k, hk, how, w, hw⟩
  · have hlength : w.trail.length = limit :=
      (length_trail_onward? hw).trans (Nat.zero_add limit)
    have hnodes := congrArg List.length (hcut w hw).nodes
    rw [List.length_map, List.length_map] at hnodes
    exact ⟨Nat.le_of_eq (hnodes.trans hlength), hasks, hasks_le,
      ⟨fun _ => ⟨w, hw, hlength⟩, hback⟩, hcut, fun h => absurd (hcut w hw).ended h, hlimited⟩
  · have hsame := hlimited k how w hw hk
    have hlength : w.trail.length ≤ 0 + k + 1 := hw.length_trail_le
    have hnodes := congrArg List.length hsame.nodes
    rw [List.length_map, List.length_map] at hnodes
    dsimp only at hnodes
    refine ⟨by omega, hasks, hasks_le, ⟨fun h => ?_, hback⟩, hcut, fun _ more hm => ?_,
      hlimited⟩
    · exact absurd (hsame.ended.symm.trans h) (hw.patient hh limit)
    · exact hsame.trans (hw.sameCourse hh (Nat.lt_of_lt_of_le hk hm)).symm

end Setting

end Dialogue
