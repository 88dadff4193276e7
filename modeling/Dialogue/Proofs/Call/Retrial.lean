import Dialogue.Call.Attempt

/-!
# Which attempts are made

A call is attempted until an attempt settles it or no attempts remain. The loop that makes them keeps
the failure met last, for the case that no attempt is left, and pauses between two attempts; what it
would answer without any attempt does not matter, since there is always one.

* `Policy.SettledAt`: the attempt with which a call is over.
* `Policy.loop`: the loop, with the pauses that it makes.
* `Policy.run_settledAt`: the result of a call, its attempts, its pauses and how long they are.
-/

namespace Dialogue

/-- The failure of a call whose last attempt, of some number, has failed. -/
def AttemptFault.ofCall (target : String) (number : Nat) : AttemptFault → CallFault
  | transport reason => .transport target reason number
  | status s body => .status target s body number
  | badReply reason => .badReply target reason
  | badRequest reason => .badRequest target reason

/-- Whether another attempt may do better. -/
def AttemptFault.isPassing : AttemptFault → Bool
  | transport _ => true
  | status s _ => 500 ≤ s
  | badReply _ | badRequest _ => false

namespace Policy

variable {α : Type} {p : Policy} {attempt : Nat → Attempt α} {target : String} {a : Attempt α}
  {number start limit k : Nat}

/-- Whether an attempt is not answered in time. -/
def isLate (p : Policy) (a : Attempt α) : Bool := p.timeout.nanoseconds < a.takes.nanoseconds

/-- Whether an attempt settles a call: it is answered in time, and if it fails no other attempt would
do better. -/
def isFinal (p : Policy) (a : Attempt α) : Bool :=
  !p.isLate a && match a.outcome with
    | .ok _ => true
    | .error f => !f.isPassing

/-- What a call comes to with its last attempt. -/
def result (p : Policy) (target : String) (number : Nat) (a : Attempt α) :
    Except CallFault (α × Nat) :=
  if p.isLate a then .error (.timeout target (p.timeout.millis % twoTo 64) number)
  else match a.outcome with
    | .ok value => .ok (value, number)
    | .error f => .error (f.ofCall target number)

/-- An attempt that settles a call ends it with what comes of the attempt. -/
theorem settle_of_isFinal (h : p.isFinal a = true) :
    p.settle target number a = .done (p.result target number a) := by
  unfold isFinal at h
  unfold settle result
  cases hl : p.isLate a with
  | true => simp [hl] at h
  | false =>
    have htime : ¬p.timeout.nanoseconds < a.takes.nanoseconds := by simpa [isLate] using hl
    rw [if_neg htime, if_neg (by simp)]
    cases ho : a.outcome with
    | ok value => rfl
    | error f =>
      cases f with
      | status s body =>
        have hs : s < 500 := by simpa [hl, ho, AttemptFault.isPassing] using h
        simp [hs, AttemptFault.ofCall]
      | transport reason => simp [hl, ho, AttemptFault.isPassing] at h
      | badReply reason => rfl
      | badRequest reason => rfl

/-- After any other attempt the call goes on, with a failure that is the result if it was the last. -/
theorem settle_of_not_isFinal (h : p.isFinal a = false) (target : String) (number : Nat) :
    ∃ fault, p.settle target number a = .again fault ∧ p.result target number a = .error fault := by
  unfold isFinal at h
  unfold settle result
  cases hl : p.isLate a with
  | true =>
    have htime : p.timeout.nanoseconds < a.takes.nanoseconds := by simpa [isLate] using hl
    exact ⟨_, by rw [if_pos htime], by rw [if_pos rfl]⟩
  | false =>
    have htime : ¬p.timeout.nanoseconds < a.takes.nanoseconds := by simpa [isLate] using hl
    rw [if_neg htime, if_neg (by simp)]
    cases ho : a.outcome with
    | ok value => simp [hl, ho] at h
    | error f =>
      cases f with
      | status s body =>
        have hs : ¬s < 500 := by simpa [hl, ho, AttemptFault.isPassing] using h
        exact ⟨_, if_neg hs, rfl⟩
      | transport reason => exact ⟨_, rfl, rfl⟩
      | badReply reason => simp [hl, ho, AttemptFault.isPassing] at h
      | badRequest reason => simp [hl, ho, AttemptFault.isPassing] at h

/-! ### The last attempt -/

/-- Of the attempts after a number and up to a limit, the one with which a call is over: the first
that settles it, or that at the limit. -/
structure SettledAt (p : Policy) (attempt : Nat → Attempt α) (start limit k : Nat) : Prop where
  lt : start < k
  le : k ≤ limit
  before : ∀ i, start < i → i < k → p.isFinal (attempt i) = false
  final : k < limit → p.isFinal (attempt k) = true

theorem exists_settledAt (p : Policy) (attempt : Nat → Attempt α) (start left : Nat) :
    ∃ k, p.SettledAt attempt start (start + left + 1) k := by
  induction left generalizing start with
  | zero => exact ⟨start + 1, by omega, by omega, by omega, by omega⟩
  | succ left ih =>
    cases hf : p.isFinal (attempt (start + 1)) with
    | true => exact ⟨start + 1, by omega, by omega, by omega, fun _ => hf⟩
    | false =>
      obtain ⟨k, hlt, hle, hbefore, hfinal⟩ := ih (start + 1)
      refine ⟨k, by omega, by omega, fun i hi hk => ?_, fun hk => hfinal (by omega)⟩
      by_cases he : i = start + 1
      · rw [he, hf]
      · exact hbefore i (by omega) hk

/-- A call is over with its next attempt if that settles it, and if it does not but is at the limit.
Otherwise the call goes on. -/
theorem SettledAt.next (left : Nat) (h : p.SettledAt attempt start (start + left + 1) k)
    (target : String) :
    (k = start + 1 ∧ p.settle target k (attempt k) = .done (p.result target k (attempt k))) ∨
    (left = 0 ∧ k = start + 1 ∧ ∃ fault, p.settle target k (attempt k) = .again fault ∧
      p.result target k (attempt k) = .error fault) ∨
    ∃ more fault, left = more + 1 ∧
      p.settle target (start + 1) (attempt (start + 1)) = .again fault ∧
      p.SettledAt attempt (start + 1) (start + 1 + more + 1) k := by
  have hlt := h.lt
  have hle := h.le
  cases hf : p.isFinal (attempt (start + 1)) with
  | true =>
    rcases Nat.eq_or_lt_of_le hlt with rfl | hk
    · exact .inl ⟨rfl, settle_of_isFinal hf⟩
    · rw [h.before (start + 1) (Nat.lt_succ_self start) hk] at hf
      cases hf
  | false =>
    obtain ⟨fault, hagain, hresult⟩ := settle_of_not_isFinal hf target (start + 1)
    cases left with
    | zero =>
      obtain rfl : k = start + 1 := by omega
      exact .inr (.inl ⟨rfl, rfl, fault, hagain, hresult⟩)
    | succ more =>
      have hk : k ≠ start + 1 := by
        rintro rfl
        rw [h.final (by omega)] at hf
        cases hf
      refine .inr (.inr ⟨more, fault, rfl, hagain, by omega, by omega, fun i hi hik => ?_, ?_⟩)
      · exact h.before i (by omega) hik
      · exact fun hk => h.final (by omega)

/-! ### When attempts are made -/

/-- How much time has passed when the attempt after so many others begins: they and the pauses after
them are over. -/
def begins (p : Policy) (attempt : Nat → Attempt α) : Nat → Nat
  | 0 => 0
  | n + 1 => begins p attempt n + p.spent (attempt (n + 1)) + (p.delay (n + 1)).nanoseconds

theorem runFrom_settledAt {left : Nat} (h : p.SettledAt attempt start (start + left + 1) k) :
    p.runFrom target attempt (p.begins attempt start) left (start + 1) =
      ⟨p.result target k (attempt k),
        (List.range' start (k - start)).map fun i => ⟨p.begins attempt i⟩,
        ⟨p.begins attempt (k - 1) + p.spent (attempt k)⟩⟩ := by
  -- over the attempts that are left, with the clock at the beginning of the next one
  induction left generalizing start with
  | zero =>
    obtain ⟨rfl, hdone⟩ | ⟨-, rfl, fault, hagain, hresult⟩ | ⟨more, -, hmore, -⟩ := h.next 0 target
    · rw [runFrom, hdone, Nat.add_sub_cancel_left]
      rfl
    · rw [runFrom, hagain, hresult, Nat.add_sub_cancel_left]
      rfl
    · cases hmore
  | succ left ih =>
    obtain ⟨rfl, hdone⟩ | ⟨hleft, -⟩ | ⟨more, fault, hmore, hagain, hnext⟩ :=
      h.next (left + 1) target
    · rw [runFrom, hdone, Nat.add_sub_cancel_left]
      rfl
    · cases hleft
    · obtain rfl := Nat.succ.inj hmore
      have hlt := hnext.lt
      have hcount : k - start = k - (start + 1) + 1 := by omega
      have hbegins : p.begins attempt start + p.spent (attempt (start + 1)) +
          (p.delay (start + 1)).nanoseconds = p.begins attempt (start + 1) := rfl
      rw [runFrom, hagain, hcount, List.range'_succ, List.map_cons]
      dsimp only
      rw [hbegins, ih hnext]

/-! ### The loop -/

/-- What happens in a call: an attempt is made, or the next one is waited for. -/
inductive Move where
  | attempt (number : Nat)
  | pause (length : Span)
  deriving DecidableEq, Repr

/-- Makes the attempts of the given numbers, one after the other, until one settles the call; `last`
is the failure met last, and `fallback` stands for it when there is none. -/
def loop (p : Policy) (target : String) (attempt : Nat → Attempt α) (fallback : CallFault) :
    (last : Option CallFault) → (numbers : List Nat) → Except CallFault (α × Nat) × List Move
  | last, [] => (.error (last.getD fallback), [])
  | _, i :: numbers =>
    match p.settle target i (attempt i) with
    | .done result => (result, [.attempt i])
    | .again fault =>
      let rest := loop p target attempt fallback (some fault) numbers
      let pause := if i < p.limit then [Move.pause (p.delay i)] else []
      (rest.1, .attempt i :: (pause ++ rest.2))

/-- The attempts after a number and up to another one, with a pause after each but the last. -/
def moves (p : Policy) (start k : Nat) : List Move :=
  ((List.range' (start + 1) (k - start - 1)).flatMap fun i => [.attempt i, .pause (p.delay i)])
    ++ [.attempt k]

theorem moves_succ (p : Policy) (start : Nat) : p.moves start (start + 1) = [.attempt (start + 1)] := by
  simp [moves]

theorem moves_of_lt (h : start + 1 < k) : p.moves start k =
    .attempt (start + 1) :: .pause (p.delay (start + 1)) :: p.moves (start + 1) k := by
  have hcount : k - start - 1 = k - (start + 1) - 1 + 1 := by omega
  rw [moves, hcount, List.range'_succ, List.flatMap_cons]
  rfl

theorem loop_settledAt {left : Nat} {fallback : CallFault} (hlimit : p.limit = start + left + 1)
    (h : p.SettledAt attempt start (start + left + 1) k) (last : Option CallFault) :
    p.loop target attempt fallback last (List.range' (start + 1) (left + 1)) =
      (p.result target k (attempt k), p.moves start k) := by
  induction left generalizing start last with
  | zero =>
    rw [List.range'_succ, loop]
    obtain ⟨rfl, hdone⟩ | ⟨-, rfl, fault, hagain, hresult⟩ | ⟨more, -, hmore, -⟩ := h.next 0 target
    · rw [hdone, moves_succ]
    · -- the attempt at the limit is not followed by a pause, and its failure is the last one
      have hend : ¬start + 1 < p.limit := by omega
      rw [hagain, hresult, moves_succ]
      simp [loop, hend]
    · cases hmore
  | succ left ih =>
    rw [List.range'_succ, loop]
    obtain ⟨rfl, hdone⟩ | ⟨hleft, -⟩ | ⟨more, fault, hmore, hagain, hnext⟩ :=
      h.next (left + 1) target
    · rw [hdone, moves_succ]
    · cases hleft
    · obtain rfl := Nat.succ.inj hmore
      have hpause : start + 1 < p.limit := by omega
      rw [hagain, moves_of_lt hnext.lt]
      dsimp only
      rw [ih (by omega) hnext, if_pos hpause]
      rfl

/-! ### Whole calls -/

/-- A delay is the first one times a power of two of 32 bits, cut at the longest span. -/
theorem nanoseconds_delay (p : Policy) (i : Nat) : (p.delay i).nanoseconds =
    min (p.baseDelay.nanoseconds * min (twoTo (i - 1)) (twoTo 32 - 1)) Span.longest.nanoseconds := rfl

/-- The failure of a call without any attempt. -/
def unattempted (target : String) : CallFault := .transport target "no attempt was made" 0

theorem result_ne_unattempted (h : 0 < number) (other : String) :
    p.result target number a ≠ .error (unattempted other) := by
  unfold result unattempted
  intro he
  split at he
  · cases he
  · split at he
    · cases he
    · rename_i f _
      cases f <;> simp [AttemptFault.ofCall] at he
      omega

/-- **A call makes the attempts up to the first one that settles it, or as many as are allowed, and
comes to what the last of them comes to.** After each but the last it pauses, first for the base delay
and then twice as long each time, within 32 bits of the factor and the longest span. What the loop
would answer without an attempt is never answered. -/
theorem run_settledAt (p : Policy) (target : String) (attempt : Nat → Attempt α) :
    ∃ k, p.SettledAt attempt 0 (max 1 p.maxAttempts) k ∧
      (p.run target attempt).result = p.result target k (attempt k) ∧
      (p.run target attempt).begun = (List.range k).map (fun i => ⟨p.begins attempt i⟩) ∧
      (p.run target attempt).elapsed = ⟨p.begins attempt (k - 1) + p.spent (attempt k)⟩ ∧
      (∀ fallback, p.loop target attempt fallback none (List.range' 1 (max 1 p.maxAttempts)) =
        ((p.run target attempt).result, p.moves 0 k)) ∧
      (∀ other, (p.run target attempt).result ≠ .error (unattempted other)) ∧
      (∀ i, (p.delay i).nanoseconds = min
        (p.baseDelay.nanoseconds * min (twoTo (i - 1)) (twoTo 32 - 1)) Span.longest.nanoseconds) ∧
      ∀ i j, i ≤ j → (p.delay i).nanoseconds ≤ (p.delay j).nanoseconds := by
  have hlimit : p.limit = max 1 p.maxAttempts := Nat.max_comm _ _
  obtain ⟨left, hleft⟩ : ∃ left, p.limit = 0 + left + 1 := ⟨p.limit - 1, by omega⟩
  rw [← hlimit]
  obtain ⟨k, hk⟩ := p.exists_settledAt attempt 0 left
  have hrun : p.run target attempt = ⟨p.result target k (attempt k),
      (List.range k).map fun i => ⟨p.begins attempt i⟩,
      ⟨p.begins attempt (k - 1) + p.spent (attempt k)⟩⟩ := by
    rw [run, List.range_eq_range', show p.limit - 1 = left by omega]
    exact runFrom_settledAt hk
  have hloop : ∀ fallback, p.loop target attempt fallback none (List.range' 1 p.limit) =
      (p.result target k (attempt k), p.moves 0 k) := by
    intro fallback
    rw [show p.limit = left + 1 by omega]
    exact loop_settledAt hleft hk none
  rw [hrun]
  exact ⟨k, hleft ▸ hk, rfl, rfl, rfl, hloop, fun other => result_ne_unattempted hk.lt other,
    p.nanoseconds_delay, fun _ _ => p.delay_mono⟩

end Policy

end Dialogue
