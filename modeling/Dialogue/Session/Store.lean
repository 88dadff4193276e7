import Dialogue.Session.Basic
import Dialogue.Session.Locks

/-!
# The sessions of all contacts

A store holds at most one session for each key of a contact. An idle session that is asked for is
removed; a sweep removes all idle sessions of contacts for which no turn is being handled. There is no
other way for a session to go than to be removed: a store keeps as many as it is given and never drops
one to make room. What is said of stores here does not hold of a store that does, such as one with a
capacity that is reached.

* `get?_save_of_ne`, `get?_delete_of_ne`: other keys keep their sessions.
* `mem_sweep`: what a sweep keeps is live or in use.
-/

namespace Dialogue

/-- Sessions by the keys of their contacts. -/
abbrev SessionStore := Fields Session

/-- Sessions with what new ones begin with, and the locks of contacts. -/
structure Sessions where
  store : SessionStore
  locks : Locks
  window : Nat
  idle : Span
  deriving DecidableEq, Repr

namespace Sessions

/-- No sessions. -/
def empty (window : Nat) (idle : Span) : Sessions := ⟨[], Locks.none, window, idle⟩

/-- The session of a contact. -/
def get? (ss : Sessions) (tenant contact : String) : Option Session :=
  Fields.get? ss.store (Session.keyOf tenant contact)

/-- Keeps a session under the key of its contact. -/
def save (ss : Sessions) (s : Session) : Sessions :=
  { ss with store := Fields.insert s.key s ss.store }

/-- Removes the session of a contact. -/
def delete (ss : Sessions) (tenant contact : String) : Sessions :=
  { ss with store := Fields.erase ss.store (Session.keyOf tenant contact) }

/-- The session of a contact that is live, and the store without it when it is not. -/
def load (ss : Sessions) (tenant contact : String) (now : Moment) :
    Except Expiry (Option Session) × Sessions :=
  match ss.get? tenant contact with
  | none => (.ok none, ss)
  | some s =>
    match s.expiry? now with
    | some e => (.error e, ss.delete tenant contact)
    | none => (.ok (some s), ss)

/-- How long a session of a flow may be idle. -/
def idleFor (ss : Sessions) (f : Flow) : Span := (f.settings.idleMinutes.map idleMinutes).getD ss.idle

/-- The live session of a contact in a flow, or a new one, which is not kept yet. -/
def openSession (ss : Sessions) (id tenant contact : String) (f : Flow) (now : Moment) :
    Session × Sessions :=
  let fresh := Session.start id tenant contact f ss.window (ss.idleFor f) now
  match ss.load tenant contact now with
  | (.ok (some s), ss) => (if s.flow = f.id then s else fresh, ss)
  | (_, ss) => (fresh, ss)

/-- Whether a sweep removes the session under a key. -/
def isSwept (ss : Sessions) (now : Moment) (entry : String × Session) : Bool :=
  ss.locks.isFree entry.1 && entry.2.isIdle now

/-- Removes the idle sessions of contacts for which no turn is being handled, and prunes the locks.
The number of removed sessions comes with the result. -/
def sweep (ss : Sessions) (now : Moment) : Nat × Sessions :=
  ((ss.store.filter (ss.isSwept now)).length,
    { ss with
      store := ss.store.filter fun entry => !ss.isSwept now entry
      locks := (ss.store.foldl (fun locks entry => locks.ensure entry.1) ss.locks).prune })

/-- Removes all sessions. -/
def clear (ss : Sessions) : Sessions := { ss with store := [] }

/-- Keeping a session leaves those under other keys. -/
theorem get?_save_of_ne (ss : Sessions) {s : Session} {key : String} (h : key ≠ s.key) :
    Fields.get? (ss.save s).store key = Fields.get? ss.store key :=
  Fields.get?_insert_of_ne h s ss.store

/-- Removing a session leaves those under other keys. -/
theorem get?_delete_of_ne (ss : Sessions) {tenant contact key : String}
    (h : key ≠ Session.keyOf tenant contact) :
    Fields.get? (ss.delete tenant contact).store key = Fields.get? ss.store key :=
  Fields.get?_erase_of_ne h ss.store

/-- A sweep keeps a session exactly when it is live or its contact's lock is held. -/
theorem mem_sweep {ss : Sessions} {now : Moment} {entry : String × Session} :
    entry ∈ (ss.sweep now).2.store ↔
      entry ∈ ss.store ∧ (ss.locks.isFree entry.1 = false ∨ entry.2.isIdle now = false) := by
  simp [sweep, isSwept]

end Sessions

end Dialogue
