import Dialogue.Proofs.Session.Handles
import Dialogue.Session.Store

/-!
# Locks and sweeps

Whatever is done with the lock of a contact is done in steps, and between any two of them others may
do theirs. Who wants the lock gets a handle, queues, leaves the queue when the turn is done, or has
been given up, and drops the handle. A sweep gets a handle to the lock of each key, tries it, discards
an idle session if the lock was free, leaves and drops the handle, and goes through the table in the
end, lock by lock.

* `Traffic.Tracks`: the table of locks serves the handles that are out. Every step keeps this.
* `Traffic.Tracks.sweep_eq`: a sweep in its steps, when nobody comes between.
* `Traffic.locking`: no key has two guards, and what sweeps do.
-/

namespace Dialogue

/-- The sessions of contacts with their locks, and the handles that are out. -/
structure Traffic where
  sessions : Sessions
  handles : List Handle

namespace Traffic

/-- Some sessions that were kept before, while nobody has asked for a lock. -/
def start (kept : List Session) (window : Nat) (idle : Span) : Traffic :=
  ⟨kept.foldl Sessions.save (Sessions.empty window idle), []⟩

/-- The guards of a key. -/
def guards (w : Traffic) (key : String) : List Handle := w.sessions.locks.guards w.handles key

/-- The handle of someone. -/
def handle? (w : Traffic) (who : Nat) : Option Handle := w.handles.find? (·.who == who)

/-- What may happen. A turn of a contact is handled under its lock, and so is the look of a sweep at an
idle session and its removal: nobody keeps another session under the key between the two, and `discard`
is one step. -/
inductive Act where
  | clone (key : String) (who : Nat)
  | enter (who : Nat)
  | attempt (who : Nat)
  | leave (who : Nat)
  | drop (who : Nat)
  | forget (key : String)
  | save (s : Session)
  | delete (tenant contact : String)
  | discard (who : Nat) (now : Moment)
  | sweep (now : Moment)

/-- Someone who has no handle gets one to the lock of a key. -/
def clone (w : Traffic) (key : String) (who : Nat) : Traffic :=
  match w.handle? who with
  | some _ => w
  | none => ⟨{ w.sessions with locks := w.sessions.locks.clone key },
      w.handles ++ [⟨key, who, w.sessions.locks.numberOf key⟩]⟩

/-- Someone who has a handle does something at the lock. -/
def turn (w : Traffic) (who : Nat) (f : Lock → Lock) : Traffic :=
  match w.handle? who with
  | some h => { w with sessions := { w.sessions with locks := w.sessions.locks.modify h.lock f } }
  | none => w

/-- Someone who is not in the queue drops the handle. -/
def drop (w : Traffic) (who : Nat) : Traffic :=
  match w.handle? who with
  | some h =>
    if w.sessions.locks.queues h then w
    else ⟨{ w.sessions with locks := w.sessions.locks.modify h.lock Lock.drop }, w.handles.erase h⟩
  | none => w

/-- Someone who holds the lock of a key removes the session under it when it is idle. -/
def discard (w : Traffic) (who : Nat) (now : Moment) : Traffic :=
  match w.handle? who with
  | some h =>
    if w.sessions.locks.holds h && (Fields.get? w.sessions.store h.key).any (·.isIdle now) then
      { w with sessions := { w.sessions with store := Fields.erase w.sessions.store h.key } }
    else w
  | none => w

/-- The table forgets the lock of a key that is not in use. -/
def forget (w : Traffic) (key : String) : Traffic :=
  { w with sessions := { w.sessions with locks := w.sessions.locks.forget key } }

/-- What is there after one act. -/
def act (w : Traffic) : Act → Traffic
  | .clone key who => w.clone key who
  | .enter who => w.turn who (·.enter who)
  | .attempt who => w.turn who (·.attempt who)
  | .leave who => w.turn who (·.leave who)
  | .drop who => w.drop who
  | .forget key => w.forget key
  | .save s => { w with sessions := w.sessions.save s }
  | .delete tenant contact => { w with sessions := w.sessions.delete tenant contact }
  | .discard who now => w.discard who now
  | .sweep now => { w with sessions := (w.sessions.sweep now).2 }

/-- What is there after some acts. -/
def run (w : Traffic) (acts : List Act) : Traffic := acts.foldl act w

/-- The table of locks serves the handles that are out, and the sessions are in order. -/
structure Tracks (w : Traffic) : Prop where
  serves : w.sessions.locks.Serves w.handles
  sorted : Fields.Sorted w.sessions.store

variable {w : Traffic} {h : Handle} {key : String} {who : Nat} {now : Moment}

theorem mem_of_handle? (hh : w.handle? who = some h) : h ∈ w.handles ∧ h.who = who :=
  ⟨List.mem_of_find?_eq_some hh, by simpa using List.find?_some hh⟩

theorem handle?_eq_none : w.handle? who = none ↔ ∀ h ∈ w.handles, h.who ≠ who := by
  simp [handle?]

/-! ### What the steps keep -/

theorem tracks_start (kept : List Session) (window : Nat) (idle : Span) :
    (start kept window idle).Tracks := by
  have hall : ∀ (kept : List Session) (ss : Sessions), Fields.Sorted ss.store →
      (kept.foldl Sessions.save ss).locks = ss.locks ∧
        Fields.Sorted (kept.foldl Sessions.save ss).store := by
    intro kept
    induction kept with
    | nil => exact fun _ hs => ⟨rfl, hs⟩
    | cons s kept ih => exact fun ss hs => ih (ss.save s) (Fields.sorted_insert _ _ hs)
  obtain ⟨hlocks, hsorted⟩ := hall kept (Sessions.empty window idle) .nil
  refine ⟨?_, hsorted⟩
  rw [start, hlocks]
  exact .none

namespace Tracks

theorem clone (hw : w.Tracks) (key : String) (who : Nat) : (w.clone key who).Tracks := by
  unfold Traffic.clone
  split
  · exact hw
  · rename_i hnone
    exact ⟨hw.serves.clone key (handle?_eq_none.1 hnone), hw.sorted⟩

/-- What someone does at a lock leaves its count right. -/
theorem turn (hw : w.Tracks) {f : Lock → Lock}
    (hf : ∀ {h l}, w.handle? who = some h → l.Counts h.lock w.handles →
      (f l).Counts h.lock w.handles) : (w.turn who f).Tracks := by
  unfold Traffic.turn
  split
  · rename_i h hh
    exact ⟨hw.serves.turn fun hc => hf hh hc, hw.sorted⟩
  · exact hw

theorem drop (hw : w.Tracks) (who : Nat) : (w.drop who).Tracks := by
  unfold Traffic.drop
  split
  · rename_i h hh
    split
    · exact hw
    · rename_i hq
      exact ⟨hw.serves.drop (mem_of_handle? hh).1 (by simpa using hq), hw.sorted⟩
  · exact hw

theorem discard (hw : w.Tracks) (who : Nat) (now : Moment) : (w.discard who now).Tracks := by
  unfold Traffic.discard
  split
  · split
    · exact ⟨hw.serves, hw.sorted.filter _⟩
    · exact hw
  · exact hw

theorem sweep (hw : w.Tracks) (now : Moment) : (w.act (.sweep now)).Tracks :=
  ⟨((hw.serves.ensureAll w.sessions.store).1.forgetAll _).1, hw.sorted.filter _⟩

/-- The table goes on to serve the handles, whatever happens. -/
theorem act (hw : w.Tracks) : ∀ a : Act, (w.act a).Tracks
  | .clone key who => hw.clone key who
  | .enter who => hw.turn fun hh hc => by
      obtain ⟨hm, rfl⟩ := mem_of_handle? hh
      exact hc.enter hm rfl
  | .attempt who => hw.turn fun hh hc => by
      obtain ⟨hm, rfl⟩ := mem_of_handle? hh
      exact hc.attempt hm rfl
  | .leave who => hw.turn fun _ hc => hc.leave who
  | .drop who => hw.drop who
  | .forget key => ⟨(hw.serves.forget key).1, hw.sorted⟩
  | .save s => ⟨hw.serves, Fields.sorted_insert _ _ hw.sorted⟩
  | .delete _ _ => ⟨hw.serves, hw.sorted.filter _⟩
  | .discard who now => hw.discard who now
  | .sweep now => hw.sweep now

theorem run (hw : w.Tracks) (acts : List Act) : (w.run acts).Tracks := by
  induction acts generalizing w with
  | nil => exact hw
  | cons a acts ih => exact ih (hw.act a)

end Tracks

/-! ### Calls in steps -/

/-- A request for the lock of a key in its steps, when nobody comes between. -/
theorem run_request (hwho : ∀ h ∈ w.handles, h.who ≠ who) (key : String) :
    w.run [.clone key who, .enter who] =
      ⟨{ w.sessions with locks := w.sessions.locks.request key who },
        w.handles ++ [⟨key, who, w.sessions.locks.numberOf key⟩]⟩ := by
  show (w.clone key who).turn who _ = _
  rw [Traffic.clone, handle?_eq_none.2 hwho, Traffic.turn, handle?, List.find?_append,
    List.find?_eq_none.2 fun h hm => by simpa using hwho h hm]
  simp [Locks.request]

/-- What becomes of the lock of a guard in its steps, when nobody comes between. -/
theorem Tracks.run_release (hw : w.Tracks) (hh : w.handle? who = some h)
    (hg : w.sessions.locks.holds h = true) :
    w.run [.leave who, .drop who] =
      ⟨{ w.sessions with locks := w.sessions.locks.release h.key }, w.handles.erase h⟩ := by
  obtain ⟨hm, rfl⟩ := mem_of_handle? hh
  obtain ⟨l, hl, hc⟩ := hw.serves.lock hm
  have hholder : l.holder = some h.who := by
    rw [Locks.holds, hl, Option.any_some] at hg
    exact beq_iff_eq.1 hg
  have hleft : (w.sessions.locks.modify h.lock (·.leave h.who)).queues h = false := by
    rw [Locks.queues, Locks.getElem?_modify_self hl, Option.any_some]
    simpa [Lock.leave] using hc.nodup.not_mem_erase
  have hlocks : (w.sessions.locks.modify h.lock (·.leave h.who)).modify h.lock Lock.drop =
      w.sessions.locks.release h.key := by
    rw [Locks.modify_modify, Locks.release, hw.serves.has hm]
    refine Locks.modify_congr hl ?_
    rw [hholder]
    rfl
  have hhandle (ss : Sessions) : (Traffic.mk ss w.handles).handle? h.who = some h := hh
  show (w.turn h.who _).drop h.who = _
  rw [Traffic.turn, hh]
  dsimp only
  rw [Traffic.drop, hhandle]
  dsimp only
  rw [hleft, if_neg Bool.false_ne_true, hlocks]

/-! ### Removing idle sessions -/

/-- Whether a session is idle and its key has no guard. -/
def isDue (w : Traffic) (now : Moment) (entry : String × Session) : Bool :=
  entry.2.isIdle now && (w.guards entry.1).isEmpty

theorem Tracks.isSwept_eq (hw : w.Tracks) (now : Moment) :
    w.sessions.isSwept now = w.isDue now := by
  funext entry
  rw [Sessions.isSwept, hw.serves.isFree_eq, Bool.and_comm]
  rfl

/-- In order, the session that is discarded is the one under the key. -/
theorem discard_eq (hs : Fields.Sorted w.sessions.store) (hh : w.handle? who = some h)
    (now : Moment) :
    w.discard who now =
      { w with sessions := { w.sessions with
          store := w.sessions.store.filter fun entry =>
            !(entry.1 == h.key && w.sessions.locks.holds h && entry.2.isIdle now) } } := by
  have hkey : ∀ entry ∈ w.sessions.store, entry.1 = h.key →
      Fields.get? w.sessions.store h.key = some entry.2 := fun entry hm hk => hk ▸ hs.get?_of_mem hm
  unfold discard Fields.erase
  rw [hh]
  dsimp only
  split
  · rename_i hidle
    obtain ⟨hholds, hidle⟩ := Bool.and_eq_true_iff.1 hidle
    rw [List.filter_congr fun entry hm => ?_]
    by_cases hk : entry.1 = h.key
    · rw [hkey entry hm hk] at hidle
      have hi : entry.2.isIdle now = true := hidle
      simp [hk, hi, hholds]
    · rw [bne, beq_false_of_ne hk]
      rfl
  · rename_i hidle
    rw [List.filter_eq_self.2 fun entry hm => ?_]
    by_cases hk : entry.1 = h.key
    · rw [hkey entry hm hk] at hidle
      have hi : ¬(w.sessions.locks.holds h && entry.2.isIdle now) = true := hidle
      simp [hk, Bool.eq_false_iff.2 hi]
    · simp [hk]

/-- What someone discards: the session under a key of which this is the guard, if it is idle. -/
theorem Tracks.store_discard (hw : w.Tracks) (who : Nat) (now : Moment) :
    (w.act (.discard who now)).sessions.store = w.sessions.store.filter fun entry =>
      !(entry.2.isIdle now && (w.guards entry.1).any (·.who == who)) := by
  show (w.discard who now).sessions.store = _
  cases hh : w.handle? who with
  | none =>
    have hnone := handle?_eq_none.1 hh
    rw [Traffic.discard, hh, List.filter_eq_self.2 fun entry _ => ?_]
    have hany : (w.guards entry.1).any (·.who == who) = false :=
      List.any_eq_false.2 fun h hm => by simpa using hnone h (List.mem_filter.1 hm).1
    rw [hany, Bool.and_false]
    rfl
  | some h =>
    obtain ⟨hm, rfl⟩ := mem_of_handle? hh
    rw [discard_eq hw.sorted hh]
    refine List.filter_congr fun entry _ => ?_
    -- Of the handles only this one has this owner.
    have hany : (w.guards entry.1).any (·.who == h.who) =
        (entry.1 == h.key && w.sessions.locks.holds h) := by
      rw [Bool.eq_iff_iff, List.any_eq_true, Bool.and_eq_true]
      constructor
      · rintro ⟨g, hg, hwho⟩
        obtain ⟨hg, hguard⟩ := List.mem_filter.1 hg
        obtain rfl := List.inj_on_of_nodup_map hw.serves.distinct hg hm (by simpa using hwho)
        obtain ⟨hkey, hholds⟩ := Bool.and_eq_true_iff.1 hguard
        exact ⟨by simpa using (beq_iff_eq.1 hkey).symm, hholds⟩
      · rintro ⟨hkey, hholds⟩
        refine ⟨h, List.mem_filter.2 ⟨hm, ?_⟩, by simp⟩
        rw [hholds, Bool.and_true]
        simpa using (beq_iff_eq.1 hkey).symm
    rw [hany, Bool.and_comm]

/-! ### Sweeps in steps -/

/-- The steps of a sweep at one key. -/
def visit (who : Nat) (now : Moment) (key : String) : List Act :=
  [.clone key who, .attempt who, .discard who now, .leave who, .drop who]

/-- The steps of a sweep by someone at the keys of sessions. -/
def visits (w : Traffic) (who : Nat) (now : Moment) : List Act :=
  w.sessions.store.names.flatMap (visit who now)

/-- All steps of a sweep: visits to the keys, and then the table forgets locks. -/
def steps (w : Traffic) (who : Nat) (now : Moment) : List Act :=
  w.visits who now ++ ((w.run (w.visits who now)).sessions.locks.table.names.map .forget)

theorem run_append (w : Traffic) (acts more : List Act) :
    w.run (acts ++ more) = (w.run acts).run more := List.foldl_append

theorem run_forget (w : Traffic) (keys : List String) :
    w.run (keys.map .forget) =
      { w with sessions := { w.sessions with locks := keys.foldl Locks.forget w.sessions.locks } } := by
  induction keys generalizing w with
  | nil => rfl
  | cons key keys ih => exact ih (w.forget key)

/-- **A sweep at one key** discards the session under it when it is idle and the lock is free, and
leaves the lock as it was. -/
theorem Tracks.run_visit (hw : w.Tracks) (hwho : ∀ h ∈ w.handles, h.who ≠ who) (now : Moment)
    (key : String) :
    w.run (visit who now key) =
      ⟨{ w.sessions with
          store := w.sessions.store.filter fun entry =>
            !(entry.1 == key && w.sessions.isSwept now entry)
          locks := w.sessions.locks.ensure key }, w.handles⟩ := by
  let h : Handle := ⟨key, who, w.sessions.locks.numberOf key⟩
  let ls := w.sessions.locks.ensure key
  have hls : ls.Serves w.handles := hw.serves.ensure key
  have hnumber : ls.number? key = some h.lock := by rw [Locks.number?_ensure, if_pos rfl]
  obtain ⟨l, hl, hc⟩ := hls.counts hnumber
  have hqueue : h.who ∉ l.queue := fun hq => by
    obtain ⟨g, hg, -, hwg⟩ := hc.queue who hq
    exact hwho g hg hwg
  have hfree : w.sessions.locks.isFree key = l.isFree := by
    rw [← hw.serves.isFree_ensure key key, Locks.isFree, Locks.lock?, hnumber, Option.bind_some, hl,
      Option.all_some]
  -- While the handle is out, only the sessions and this lock change.
  let out (store : SessionStore) (f : Lock → Lock) : Traffic :=
    ⟨{ w.sessions with store, locks := ls.modify h.lock f }, w.handles ++ [h]⟩
  have hhandle (store : SessionStore) (f : Lock → Lock) : (out store f).handle? who = some h := by
    show (w.handles ++ [h]).find? _ = some h
    rw [List.find?_append, List.find?_eq_none.2 fun g hg => by simpa using hwho g hg]
    simp [h]
  have hclone : w.clone key who = out w.sessions.store Lock.clone := by
    rw [Traffic.clone, handle?_eq_none.2 hwho]
    rfl
  have hturn (store : SessionStore) (f g : Lock → Lock) :
      (out store f).turn who g = out store (g ∘ f) := by
    rw [Traffic.turn, hhandle]
    exact congrArg (fun locks => Traffic.mk { w.sessions with store, locks } (w.handles ++ [h]))
      (Locks.modify_modify ls h.lock f g)
  have hdiscard : (out w.sessions.store ((·.attempt who) ∘ Lock.clone)).discard who now =
      out (w.sessions.store.filter fun entry => !(entry.1 == key && w.sessions.isSwept now entry))
        ((·.attempt who) ∘ Lock.clone) := by
    rw [discard_eq (w := out _ _) hw.sorted (hhandle _ _)]
    refine congrArg (out · ((·.attempt who) ∘ Lock.clone)) (List.filter_congr fun entry _ => ?_)
    show (!(entry.1 == key && (ls.modify h.lock _).holds h && entry.2.isIdle now)) = _
    rw [Locks.holds_attempt hl hqueue, Bool.and_assoc, Sessions.isSwept]
    by_cases hk : entry.1 = key
    · rw [hk, hfree]
    · rw [beq_false_of_ne hk]
      rfl
  have hdrop (store : SessionStore) :
      (out store ((·.leave who) ∘ (·.attempt who) ∘ Lock.clone)).drop who =
        ⟨{ w.sessions with store, locks := ls }, w.handles⟩ := by
    have herase : (w.handles ++ [h]).erase h = w.handles := by
      rw [List.erase_append_right _ fun hm => hwho h hm rfl, List.erase_cons_head, List.append_nil]
    rw [Traffic.drop, hhandle]
    dsimp only [out]
    rw [Locks.queues_leave_attempt hl hqueue, if_neg Bool.false_ne_true,
      Locks.modify_visit hl hqueue, herase]
  show ((((w.clone key who).turn who _).discard who now).turn who _).drop who = _
  rw [hclone, hturn, hdiscard, hturn, hdrop]

/-- What visits to some keys, one after the other, leave. -/
theorem Tracks.run_visits (hw : w.Tracks) (hwho : ∀ h ∈ w.handles, h.who ≠ who) (now : Moment)
    (keys : List String) :
    w.run (keys.flatMap (visit who now)) =
      ⟨{ w.sessions with
          store := w.sessions.store.filter fun entry =>
            !(keys.contains entry.1 && w.sessions.isSwept now entry)
          locks := keys.foldl Locks.ensure w.sessions.locks }, w.handles⟩ := by
  induction keys generalizing w with
  | nil =>
    rw [List.filter_eq_self.2 fun entry _ => by simp]
    rfl
  | cons key keys ih =>
    have hvisit := hw.run_visit hwho now key
    have hswept : Sessions.isSwept { w.sessions with
          store := w.sessions.store.filter fun entry =>
            !(entry.1 == key && w.sessions.isSwept now entry)
          locks := w.sessions.locks.ensure key } now = w.sessions.isSwept now := by
      funext entry
      exact congrArg (· && entry.2.isIdle now) (hw.serves.isFree_ensure _ _)
    have hwho' : ∀ h ∈ (w.run (visit who now key)).handles, h.who ≠ who := by
      rw [hvisit]
      exact hwho
    rw [List.flatMap_cons, run_append, ih (hw.run _) hwho', hvisit, hswept, List.filter_filter]
    refine congrArg (fun store => Traffic.mk { w.sessions with store, locks := _ } w.handles)
      (List.filter_congr fun entry _ => ?_)
    rw [List.contains_cons, Bool.and_or_distrib_right, Bool.not_or, Bool.and_comm]

/-- **A sweep is the same as its steps** when nobody comes between. -/
theorem Tracks.sweep_eq (hw : w.Tracks) (hwho : ∀ h ∈ w.handles, h.who ≠ who) (now : Moment) :
    w.act (.sweep now) = w.run (w.steps who now) := by
  rw [steps, run_append, run_forget, visits, hw.run_visits hwho]
  have hlocks : w.sessions.store.names.foldl Locks.ensure w.sessions.locks =
      w.sessions.store.foldl (fun locks entry => locks.ensure entry.1) w.sessions.locks :=
    List.foldl_map
  rw [hlocks]
  refine congrArg (fun store => Traffic.mk { w.sessions with store, locks := _ } w.handles)
    (List.filter_congr fun entry hm => ?_)
  have hc : w.sessions.store.names.contains entry.1 = true :=
    List.contains_iff_mem.2 (List.mem_map.2 ⟨entry, hm, rfl⟩)
  rw [hc, Bool.true_and]

/-! ### Every run -/

/-- A sweep removes the sessions that are due and says how many they are. Everyone who has a handle
has it to the lock that the table has under the key, and this lock is as before, with its holder and
those who wait; so the guards are the same ones. It does not matter whether a sweep happens at once or
in steps. -/
structure Sweeps (w : Traffic) (now : Moment) : Prop where
  store : (w.act (.sweep now)).sessions.store =
    w.sessions.store.filter fun entry => !w.isDue now entry
  count : (w.sessions.sweep now).1 = (w.sessions.store.filter (w.isDue now)).length
  handles : (w.act (.sweep now)).handles = w.handles
  guards : ∀ key, (w.act (.sweep now)).guards key = w.guards key
  served : ∀ h ∈ w.handles, ∃ l, w.sessions.locks.number? h.key = some h.lock ∧
    w.sessions.locks.made[h.lock]? = some l ∧
    (w.act (.sweep now)).sessions.locks.number? h.key = some h.lock ∧
    (w.act (.sweep now)).sessions.locks.made[h.lock]? = some l
  steps : ∀ who, (∀ h ∈ w.handles, h.who ≠ who) → w.act (.sweep now) = w.run (w.steps who now)

theorem Tracks.sweeps (hw : w.Tracks) (now : Moment) : w.Sweeps now := by
  obtain ⟨hserves, hkeeps⟩ := hw.serves.ensureAll w.sessions.store
  have hk : Locks.Keeps w.handles w.sessions.locks (w.act (.sweep now)).sessions.locks :=
    hkeeps.trans (hserves.forgetAll _).2
  refine ⟨?_, ?_, rfl, hk.guards_eq, fun h hm => ?_, fun who hwho => hw.sweep_eq hwho now⟩
  · rw [← hw.isSwept_eq]
    rfl
  · rw [← hw.isSwept_eq]
    rfl
  · obtain ⟨l, hl, -⟩ := hw.serves.lock hm
    have hnumber := hw.serves.has hm
    exact ⟨l, hnumber, hl, (hk.number? hm).trans hnumber, (hk.made hm).trans hl⟩

/-- **Whatever happens, no key has two guards, a sweep removes the idle sessions of keys without one
and leaves everyone's lock as it is, and a sweep that others interrupt discards nothing but idle
sessions of keys of which it is the guard.** -/
theorem locking (kept : List Session) (window : Nat) (idle : Span) (acts : List Act) :
    let w := (start kept window idle).run acts
    (∀ key, (w.guards key).length ≤ 1) ∧ (∀ now, w.Sweeps now) ∧
      ∀ who now, (w.act (.discard who now)).sessions.store = w.sessions.store.filter fun entry =>
        !(entry.2.isIdle now && (w.guards entry.1).any (·.who == who)) := by
  have hw := (tracks_start kept window idle).run acts
  exact ⟨hw.serves.length_guards_le, hw.sweeps, hw.store_discard⟩

/-- A handle that is out while a sweep prunes the table keeps its lock there: who comes later gets a
handle to the same lock, and the first one waits. -/
example : ((start [] 20 ⟨0⟩).run [.clone "acme:555" 1, .sweep ⟨0, 0⟩, .clone "acme:555" 2, .enter 2,
    .enter 1]).guards "acme:555" = [⟨"acme:555", 2, 0⟩] := by decide

end Traffic

end Dialogue
