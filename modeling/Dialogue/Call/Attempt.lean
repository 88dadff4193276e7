import Dialogue.Calendar.Span
import Dialogue.Call.Fault

/-!
# Repeated attempts

A call is attempted a limited number of times. An attempt that does not answer in time, that cannot
reach the other side or that meets an error of the server is repeated, after a delay that doubles
each time; every other outcome is final.

* `Policy.delay_mono`: delays never become shorter.
-/

namespace Dialogue

/-- How often a call is attempted, how long to wait at first between attempts, and how long an attempt
may take. -/
structure Policy where
  maxAttempts : Nat
  baseDelay : Span
  timeout : Span
  deriving DecidableEq, Repr

/-- Three attempts, with a second between the first two and half a minute for each. -/
instance : Inhabited Policy := ⟨⟨3, .ofMillis 1000, .ofMillis 30000⟩⟩

/-- How a single attempt fails. -/
inductive AttemptFault where
  | transport (reason : String)
  | status (status : Nat) (body : String)
  | badReply (reason : String)
  | badRequest (reason : String)
  deriving DecidableEq, Repr

/-- A single attempt: how long it takes and what comes of it. -/
structure Attempt (α : Type) where
  takes : Span
  outcome : Except AttemptFault α

/-- All attempts of a call: the result, when each of them began, and how long it took altogether. -/
structure Attempts (α : Type) where
  result : Except CallFault (α × Nat)
  begun : List Span
  elapsed : Span

namespace Policy

variable {α : Type}

/-- The greatest factor that a delay is multiplied by. -/
def greatestFactor : Nat := twoTo 32 - 1

/-- The delay after a failed attempt; attempts are counted from one. -/
def delay (p : Policy) (attempt : Nat) : Span :=
  p.baseDelay.times (min (twoTo (attempt - 1)) greatestFactor)

/-- How many attempts are made at most: at least one. -/
def limit (p : Policy) : Nat := max p.maxAttempts 1

/-- What is to be done after an attempt. -/
inductive Verdict (α : Type) where
  | done (result : Except CallFault (α × Nat))
  | again (fault : CallFault)

/-- Whether an attempt settles a call to a target. -/
def settle (p : Policy) (target : String) (number : Nat) (a : Attempt α) : Verdict α :=
  if p.timeout.nanoseconds < a.takes.nanoseconds then
    .again (.timeout target (p.timeout.millis % twoTo 64) number)
  else
    match a.outcome with
    | .ok value => .done (.ok (value, number))
    | .error (.status s body) =>
      if s < 500 then .done (.error (.status target s body number))
      else .again (.status target s body number)
    | .error (.badReply reason) => .done (.error (.badReply target reason))
    | .error (.badRequest reason) => .done (.error (.badRequest target reason))
    | .error (.transport reason) => .again (.transport target reason number)

/-- How long an attempt is waited for. -/
def spent (p : Policy) (a : Attempt α) : Nat := min a.takes.nanoseconds p.timeout.nanoseconds

/-- Makes the attempt of a number and, while it fails, up to `left` more; `clock` nanoseconds have
passed before. -/
def runFrom (p : Policy) (target : String) (attempt : Nat → Attempt α) (clock : Nat) :
    (left number : Nat) → Attempts α
  | 0, number =>
    let result := match p.settle target number (attempt number) with
      | .done result => result
      | .again fault => .error fault
    ⟨result, [⟨clock⟩], ⟨clock + p.spent (attempt number)⟩⟩
  | left + 1, number =>
    match p.settle target number (attempt number) with
    | .done result => ⟨result, [⟨clock⟩], ⟨clock + p.spent (attempt number)⟩⟩
    | .again _ =>
      let later := clock + p.spent (attempt number) + (p.delay number).nanoseconds
      let rest := runFrom p target attempt later left (number + 1)
      { rest with begun := ⟨clock⟩ :: rest.begun }

/-- Calls a target: makes attempts, which are numbered from one, until one of them settles the call. -/
def run (p : Policy) (target : String) (attempt : Nat → Attempt α) : Attempts α :=
  runFrom p target attempt 0 (p.limit - 1) 1

/-- Delays never become shorter. -/
theorem delay_mono (p : Policy) {m n : Nat} (h : m ≤ n) :
    (p.delay m).nanoseconds ≤ (p.delay n).nanoseconds := by
  refine p.baseDelay.times_mono ?_
  have : twoTo (m - 1) ≤ twoTo (n - 1) := twoTo_mono (by omega)
  omega

end Policy

end Dialogue
