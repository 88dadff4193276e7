import Dialogue.Fields

/-!
# Turns of contacts, one at a time

Who wants to handle a turn of a contact gets a handle to the lock of that contact first, from a table
that makes the lock when there is none, and then queues: the one in front holds the lock, and the
others wait and are served in the order in which they came.

Between the two a handle is out that nobody sees in any queue, and the table may be pruned by then.
So a lock counts its handles, of which the table has one, and the table forgets a lock only when it
has the last handle and nobody holds the lock. Locks have numbers: one that is made anew differs from
one that was forgotten, even while someone still has a handle to the old one.

* `Lock.holder_attempt`: who tries a lock holds it afterwards exactly when it was free.
* `Lock.leave_attempt`: a lock is as before when someone has tried it and left.
-/

namespace Dialogue

/-- A lock: how many handles there are to it, and the queue of those who want it. -/
structure Lock where
  handles : Nat
  queue : List Nat
  deriving DecidableEq, Repr

namespace Lock

/-- A lock that is made for a table, which has the only handle. -/
def new : Lock := ⟨1, []⟩

/-- Who holds a lock. -/
def holder (l : Lock) : Option Nat := l.queue.head?

/-- Whether nobody holds a lock. -/
def isFree (l : Lock) : Bool := l.holder.isNone

/-- Whether there are other handles than the one of the table, or the lock cannot be taken. -/
def inUse (l : Lock) : Bool := 1 < l.handles || !l.isFree

/-- One handle more. -/
def clone (l : Lock) : Lock := { l with handles := l.handles + 1 }

/-- One handle less. -/
def drop (l : Lock) : Lock := { l with handles := l.handles - 1 }

/-- Someone queues; who is in the queue already keeps the place. -/
def enter (l : Lock) (who : Nat) : Lock :=
  if who ∈ l.queue then l else { l with queue := l.queue ++ [who] }

/-- Someone takes a lock that is free, and goes away when it is held. -/
def attempt (l : Lock) (who : Nat) : Lock := if l.isFree then l.enter who else l

/-- Someone leaves the queue. From its front that passes the lock on to the one who waits longest. -/
def leave (l : Lock) (who : Nat) : Lock := { l with queue := l.queue.erase who }

/-- Who tries a lock holds it afterwards exactly when it was free. -/
theorem holder_attempt {l : Lock} {who : Nat} (h : who ∉ l.queue) :
    ((l.attempt who).holder == some who) = l.isFree := by
  obtain ⟨handles, queue⟩ := l
  cases queue with
  | nil => simp [attempt, isFree, holder, enter]
  | cons head queue =>
    have hne : head ≠ who := fun he => h (he ▸ List.mem_cons_self)
    simp [attempt, isFree, holder, hne]

/-- A lock is as before when someone has tried it and left. -/
theorem leave_attempt {l : Lock} {who : Nat} (h : who ∉ l.queue) : (l.attempt who).leave who = l := by
  obtain ⟨handles, queue⟩ := l
  cases queue with
  | nil => simp [attempt, isFree, holder, enter, leave]
  | cons head queue => simpa [attempt, isFree, holder, leave] using List.erase_of_not_mem h

end Lock

/-- The locks that were made, by their numbers, and the table of the locks of contacts. -/
structure Locks where
  made : List Lock
  table : Fields Nat
  deriving DecidableEq, Repr

namespace Locks

/-- No locks. -/
def none : Locks := ⟨[], []⟩

/-- The number of the lock of a key. -/
def number? (ls : Locks) (key : String) : Option Nat := Fields.get? ls.table key

/-- The lock of a key. -/
def lock? (ls : Locks) (key : String) : Option Lock := (ls.number? key).bind (ls.made[·]?)

/-- Whether nobody holds the lock of a key. -/
def isFree (ls : Locks) (key : String) : Bool := (ls.lock? key).all (·.isFree)

/-- Changes the lock with a number. -/
def modify (ls : Locks) (n : Nat) (f : Lock → Lock) : Locks := { ls with made := ls.made.modify n f }

/-- The number of the lock that whoever asks for the lock of a key gets. -/
def numberOf (ls : Locks) (key : String) : Nat := (ls.number? key).getD ls.made.length

/-- Makes a lock for a key that has none. -/
def ensure (ls : Locks) (key : String) : Locks :=
  match ls.number? key with
  | some _ => ls
  | .none => ⟨ls.made ++ [.new], Fields.insert key ls.made.length ls.table⟩

/-- Gives out a handle to the lock of a key. The table lets nobody else in until that is done. -/
def clone (ls : Locks) (key : String) : Locks := (ls.ensure key).modify (ls.numberOf key) Lock.clone

/-- Forgets the lock of a key that is not in use; with the table's handle the last one is gone. -/
def forget (ls : Locks) (key : String) : Locks :=
  match ls.number? key with
  | some n =>
    if (ls.made[n]?).any (·.inUse) then ls
    else ⟨ls.made.modify n Lock.drop, Fields.erase ls.table key⟩
  | .none => ls

/-- Forgets all locks that are not in use. -/
def prune (ls : Locks) : Locks := ls.table.names.foldl forget ls

/-- Asks for the lock of a key: gets a handle and queues. -/
def request (ls : Locks) (key : String) (who : Nat) : Locks :=
  (ls.clone key).modify (ls.numberOf key) (·.enter who)

/-- Gives up the lock of a key: whoever holds it leaves the queue and drops the handle. -/
def release (ls : Locks) (key : String) : Locks :=
  match ls.number? key with
  | some n => ls.modify n fun l => l.holder.elim l fun who => (l.leave who).drop
  | .none => ls

end Locks

end Dialogue
