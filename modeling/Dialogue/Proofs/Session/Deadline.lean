import Dialogue.Session.Basic

/-!
# Deadlines

The deadline of a session is as many whole seconds after its last activity as its timeout has. Three
limits are on the way: a session keeps the seconds in 64 bits with a sign, a span that is added has its
milliseconds in as many, and moments end with the calendar. The last one is reached long before the
others, so that none of them shows but as the end of the calendar.

A moment may lie within a leap second, which prolongs the second before it. Adding seconds to it counts
on from the prolonged second, as if from its beginning. So a moment of a leap second comes after the
second that it prolongs and may yet have the earlier deadline; and a leap second at the very end of the
calendar has its deadline behind it. Nothing else puts deadlines out of order.

* `Moment.plus_natCast`: where adding seconds leads.
* `Moment.plus_le_plus_iff`: when later moments and more seconds lead to later moments.
* `Session.ActiveAt.clocked`: the times of a session, whatever happens to it.
* `Session.timed_of_activeAt`: what the deadline of a session says.
-/

namespace Dialogue

namespace Moment

/-- A moment that can be told: within the calendar, in a leap second or not. -/
structure Told (m : Moment) : Prop where
  first : firstSecond ≤ m.seconds
  last : m.seconds ≤ lastSecond
  nanos : m.nanos < 2000000000

/-- Whether a moment comes before another. -/
def before (a b : Moment) : Bool :=
  a.seconds < b.seconds || (a.seconds == b.seconds && a.nanos < b.nanos)

/-- So many seconds later on a calendar that never ends. Whoever leaves a leap second takes the part of
it along. -/
def later (m : Moment) (seconds : Nat) : Moment :=
  ⟨m.seconds + seconds, if seconds = 0 then m.nanos else m.nanos % 1000000000⟩

/-- A moment lies within the leap second that prolongs the second of another, and less far into it than
the other one into that second. -/
def Repeats (b a : Moment) : Prop :=
  b.seconds = a.seconds ∧ 1000000000 ≤ b.nanos ∧ b.nanos % 1000000000 < a.nanos ∧
    a.nanos < 1000000000

/-- Seconds that put a moment after a later one to which no fewer are added. Either the first stays
within the leap second at the end of the calendar, and the second does not; or the same seconds are
added to both, and the later one repeats the part of a second that has passed for the other. -/
def Overtakes (a b : Moment) (n k : Nat) : Prop :=
  a.le latest = false ∧ n = 0 ∧ 0 < k ∨ b.Repeats a ∧ n = k ∧ 0 < n ∧ a.seconds + n ≤ lastSecond

variable {a b m : Moment} {n k : Nat}

theorem le_iff : a.le b = true ↔
    a.seconds < b.seconds ∨ a.seconds = b.seconds ∧ a.nanos ≤ b.nanos := by
  simp [le]

/-- One moment is not after another exactly when the other does not come before it. -/
theorem le_iff_before : a.le b = true ↔ b.before a = false := by
  rw [le_iff]
  simp only [before, Bool.or_eq_false_iff, Bool.and_eq_false_iff, decide_eq_false_iff_not,
    beq_eq_false_iff_ne, ne_eq]
  omega

/-! ### Adding seconds -/

theorem told_latest : latest.Told := ⟨by decide, by decide, by decide⟩

theorem told_later (h : m.Told) : (m.later n).Told ↔ m.seconds + n ≤ lastSecond := by
  have := h.first
  have hfirst : firstSecond ≤ m.seconds + n := by omega
  refine ⟨fun hl => hl.last, fun hl => ⟨hfirst, hl, ?_⟩⟩
  have := h.nanos
  show (if n = 0 then m.nanos else m.nanos % 1000000000) < 2000000000
  split <;> omega

/-- A span that does not lead beyond the calendar can be added. -/
theorem add?_natCast (h : m.Told) :
    m.add? n = if m.seconds + n ≤ lastSecond then some (m.later n) else none := by
  have hfirst := h.first
  have hnanos := h.nanos
  have hspan : greatestSpan = 9223372036854775 := by decide
  have hstart : firstSecond = -8334601228800 := rfl
  have hend : lastSecond = 8210266876799 := rfl
  have hforth : ¬(¬(m.nanos < 1000000000 ∨ (n : Int) = 0) ∧ (n : Int) < 0) := by omega
  have hpart : (if m.nanos < 1000000000 ∨ (n : Int) = 0 then m.nanos else m.nanos - 1000000000) =
      if n = 0 then m.nanos else m.nanos % 1000000000 := by
    split <;> split <;> omega
  simp only [add?, if_neg hforth, Int.add_zero, hpart]
  by_cases hn : m.seconds + n ≤ lastSecond
  · rw [if_pos hn, if_pos (by omega)]
    rfl
  · rw [if_neg hn, if_neg fun hall => hn hall.2.2.2]

/-- **Adding seconds leads so many seconds on**, when the calendar goes that far, and else to its
end. -/
theorem plus_natCast (h : m.Told) :
    m.plus n = if m.seconds + n ≤ lastSecond then m.later n else latest := by
  rw [plus, add?_natCast h]
  split <;> rfl

theorem told_plus (h : m.Told) (n : Nat) : (m.plus n).Told := by
  rw [plus_natCast h]
  split
  · rename_i hn
    exact (told_later h).2 hn
  · exact told_latest

/-- What is beyond the end of the calendar may as well be cut off before. -/
theorem plus_min (h : m.Told) {bound : Nat} (hb : lastSecond - firstSecond < bound) (n : Nat) :
    m.plus (min n bound : Nat) = m.plus n := by
  have := h.first
  by_cases hn : n ≤ bound
  · rw [Nat.min_eq_left hn]
  · rw [Nat.min_eq_right (by omega), plus_natCast h, plus_natCast h, if_neg (by omega),
      if_neg (by omega)]

/-- Adding seconds leads back from nowhere but the leap second at the end of the calendar. -/
theorem le_plus_iff (h : m.Told) (n : Nat) :
    m.le (m.plus n) = true ↔ m.le latest = true ∨ n = 0 := by
  have := h.last
  have hlatest : latest.seconds = lastSecond ∧ latest.nanos = 999999999 := ⟨rfl, rfl⟩
  rw [plus_natCast h, le_iff, le_iff]
  split
  · simp only [later]
    split <;> omega
  · omega

/-- **When later moments and more seconds lead to later moments**: always, unless the earlier moment
overtakes the later one. -/
theorem plus_le_plus_iff (ha : a.Told) (hb : b.Told) (hab : a.le b = true) (hn : n ≤ k) :
    (a.plus n).le (b.plus k) = true ↔ ¬a.Overtakes b n k := by
  have hlast := ha.last
  have hlast' := hb.last
  have hlatest : latest.seconds = lastSecond ∧ latest.nanos = 999999999 := ⟨rfl, rfl⟩
  have hnanos := ha.nanos
  have hnanos' := hb.nanos
  have hend : a.le latest = false ↔ a.seconds = lastSecond ∧ 1000000000 ≤ a.nanos := by
    rw [← Bool.not_eq_true, le_iff]
    omega
  rw [Overtakes, Repeats, hend]
  rw [le_iff] at hab
  rw [plus_natCast ha, plus_natCast hb]
  by_cases han : a.seconds + n ≤ lastSecond <;> by_cases hbk : b.seconds + k ≤ lastSecond
  · rw [if_pos han, if_pos hbk, le_iff]
    simp only [later]
    split <;> split <;> omega
  · rw [if_pos han, if_neg hbk, le_iff]
    simp only [later]
    split <;> omega
  · omega
  · rw [if_neg han, if_neg hbk, le_iff]
    omega

end Moment

namespace Session

open Moment

variable {s s' : Session} {t u : Moment} {idle longer : Span}

/-- The seconds that a session keeps of a timeout. -/
def kept (idle : Span) : Nat := min idle.seconds mostIdleSeconds

theorem idleSeconds_start (id tenant contact : String) (f : Flow) (window : Nat) (idle : Span)
    (now : Moment) : (start id tenant contact f window idle now).idleSeconds = kept idle := by
  show min (idle.seconds : Int) mostIdleSeconds = ((min idle.seconds mostIdleSeconds : Nat) : Int)
  omega

/-- That a session keeps no more seconds than fit makes no difference to moments. -/
theorem plus_kept (h : t.Told) (idle : Span) : t.plus (kept idle) = t.plus idle.seconds :=
  plus_min h (by decide) idle.seconds

/-! ### The life of a session -/

/-- A session with a timeout that was last active at a moment: it was begun then, or activity was
noted then, whatever else has happened to it that leaves its times alone. -/
inductive ActiveAt (idle : Span) : Session → Moment → Prop
  | start (id tenant contact : String) (f : Flow) (window : Nat) {now : Moment} (h : now.Told) :
      ActiveAt idle (start id tenant contact f window idle now) now
  | touch {s : Session} {t u : Moment} (h : u.Told) : ActiveAt idle s t → ActiveAt idle (s.touch u) u
  | change {s s' : Session} {t : Moment} :
      ActiveAt idle s t → s'.lastActive = s.lastActive → s'.deadline = s.deadline →
        s'.idleSeconds = s.idleSeconds → ActiveAt idle s' t

/-- What a session keeps of its times, as numbers. -/
structure Clocked (s : Session) (t : Moment) (idle : Span) : Prop where
  told : t.Told
  lastActive : s.lastActive = t
  idleSeconds : s.idleSeconds = kept idle
  deadline : s.deadline = t.plus idle.seconds

/-- The times of a session are kept whatever happens to it. -/
theorem ActiveAt.clocked (h : ActiveAt idle s t) : s.Clocked t idle := by
  induction h with
  | @start id tenant contact f window now hnow =>
    refine ⟨hnow, rfl, idleSeconds_start .., ?_⟩
    rw [← plus_kept hnow, ← idleSeconds_start id tenant contact f window idle now]
    rfl
  | touch hu _ ih =>
    refine ⟨hu, rfl, ih.idleSeconds, ?_⟩
    rw [Session.touch, ih.idleSeconds, plus_kept hu]
  | change _ hactive hdeadline hidle ih =>
    exact ⟨ih.told, hactive.trans ih.lastActive, hidle.trans ih.idleSeconds,
      hdeadline.trans ih.deadline⟩

/-- A later activity and a longer timeout lead to no earlier deadline, unless the first one overtakes
the later one. -/
theorem Clocked.deadline_le_iff (h : s.Clocked t idle) (h' : s'.Clocked u longer)
    (htu : t.le u = true) (hi : idle.nanoseconds ≤ longer.nanoseconds) :
    s.deadline.le s'.deadline = true ↔ ¬t.Overtakes u idle.seconds longer.seconds := by
  have hseconds : idle.seconds ≤ longer.seconds := Nat.div_le_div_right hi
  rw [h.deadline, h'.deadline]
  exact plus_le_plus_iff h.told h'.told htu hseconds

/-- What the deadline of a session with a timeout says that was last active at a moment. -/
structure Timed (s : Session) (t : Moment) (idle : Span) : Prop where
  /-- The seconds that are kept of the timeout have 63 bits. -/
  fits : 0 ≤ s.idleSeconds ∧ s.idleSeconds < twoTo 63
  /-- The deadline is a moment of the calendar. -/
  told : s.deadline.Told
  /-- It is so many whole seconds later, when the calendar goes that far. -/
  reached : (t.later idle.seconds).Told → s.deadline = t.later idle.seconds
  /-- Else it is the last moment. -/
  cut : ¬(t.later idle.seconds).Told → s.deadline = Moment.latest
  /-- It is not before the activity. Only the leap second at the end of the calendar is after the last
  moment. -/
  notBefore_iff : t.le s.deadline = true ↔ t.le Moment.latest = true ∨ idle.seconds = 0
  isIdle_iff : ∀ u, s.isIdle u = true ↔ u.before s.deadline = false
  stays : ∀ u v, s.isIdle u = true → u.le v = true → s.isIdle v = true

theorem Clocked.timed (h : s.Clocked t idle) : s.Timed t idle where
  fits := by
    have hkept : kept idle ≤ mostIdleSeconds := Nat.min_le_right _ _
    have hmost : mostIdleSeconds < twoTo 63 := by decide
    rw [h.idleSeconds]
    omega
  told := h.deadline ▸ told_plus h.told idle.seconds
  reached hl := by rw [h.deadline, plus_natCast h.told, if_pos ((told_later h.told).1 hl)]
  cut hl := by
    rw [h.deadline, plus_natCast h.told, if_neg fun hle => hl ((told_later h.told).2 hle)]
  notBefore_iff := h.deadline ▸ le_plus_iff h.told idle.seconds
  isIdle_iff _ := le_iff_before
  stays _ _ hu huv := isIdle_mono huv hu

/-! ### Timeouts in minutes -/

/-- A timeout in minutes is one of at most a year, which every width in use holds. -/
theorem idleMinutes_le (minutes : Nat) :
    (idleMinutes minutes).seconds = min minutes Flow.longestIdle * 60 ∧
      (idleMinutes minutes).seconds < twoTo 64 ∧
      (idleMinutes minutes).nanoseconds ≤ Span.longest.nanoseconds := by
  have hseconds : (idleMinutes minutes).seconds = min minutes Flow.longestIdle * 60 :=
    Span.seconds_ofSeconds _
  have hmost : min minutes Flow.longestIdle ≤ 525600 := Nat.min_le_right _ _
  have hword : twoTo 64 = 18446744073709551616 := by decide
  have hlongest : Span.longest.nanoseconds = twoTo 64 * 1000000000 - 1 := rfl
  refine ⟨hseconds, by omega, ?_⟩
  show min minutes Flow.longestIdle * 60 * 1000000000 ≤ _
  omega

/-- **Deadlines are exact, in order and within the calendar**: for a session with any timeout that
was last active at any time, and for timeouts in any number of minutes. A later activity and a longer
timeout lead to an earlier deadline only if a leap second lets the first one overtake the later one. -/
theorem timed_of_activeAt (h : ActiveAt idle s t) :
    s.Timed t idle ∧
      (∀ {longer : Span} {s' : Session} {u : Moment}, ActiveAt longer s' u → t.le u = true →
        idle.nanoseconds ≤ longer.nanoseconds →
        (s.deadline.le s'.deadline = true ↔ ¬t.Overtakes u idle.seconds longer.seconds)) ∧
      ∀ minutes : Nat, (idleMinutes minutes).seconds = min minutes Flow.longestIdle * 60 ∧
        (idleMinutes minutes).seconds < twoTo 64 ∧
        (idleMinutes minutes).nanoseconds ≤ Span.longest.nanoseconds :=
  ⟨h.clocked.timed, fun h' htu hi => h.clocked.deadline_le_iff h'.clocked htu hi, idleMinutes_le⟩

/-- With the longest timeout there is, a session of 1970 is not idle before the calendar ends. -/
theorem timed_of_activeAt_longest :
    ActiveAt .longest (.start "s" "acme" "555" (.new "acme" "f" "F" "a") 20 .longest ⟨0, 0⟩) ⟨0, 0⟩ ∧
      (Session.start "s" "acme" "555" (.new "acme" "f" "F" "a") 20 .longest ⟨0, 0⟩).deadline =
        Moment.latest := by
  have hstart : ActiveAt .longest
      (.start "s" "acme" "555" (.new "acme" "f" "F" "a") 20 .longest ⟨0, 0⟩) ⟨0, 0⟩ :=
    .start _ _ _ _ _ ⟨by decide, by decide, by decide⟩
  refine ⟨hstart, (timed_of_activeAt hstart).1.cut fun hlater => ?_⟩
  exact absurd hlater.last (by decide)

/-- With a timeout of one second, the leap second at the end of 2016 has an earlier deadline than the
nanosecond before it, and a leap second at the end of the calendar has its deadline behind it. -/
theorem not_ordered_within_leapSecond :
    ¬(∀ {idle : Span} {s : Session} {t : Moment}, ActiveAt idle s t → t.le s.deadline = true) ∧
      ¬(∀ {idle longer : Span} {s s' : Session} {t u : Moment}, ActiveAt idle s t →
        ActiveAt longer s' u → t.le u = true → idle.nanoseconds ≤ longer.nanoseconds →
        s.deadline.le s'.deadline = true) := by
  have hactive {now : Moment} (h : now.Told) : ActiveAt (.ofSeconds 1)
      (.start "s" "acme" "555" (.new "acme" "f" "F" "a") 20 (.ofSeconds 1) now) now :=
    .start _ _ _ _ _ h
  refine ⟨fun hall => ?_, fun hall => ?_⟩
  · have hlast : Told ⟨lastSecond, 1000000000⟩ := ⟨by decide, by decide, by decide⟩
    exact absurd (hall (hactive hlast)) (by decide)
  · have hbefore : Told ⟨1483228799, 999999999⟩ := ⟨by decide, by decide, by decide⟩
    have hwithin : Told ⟨1483228799, 1000000000⟩ := ⟨by decide, by decide, by decide⟩
    exact absurd (hall (hactive hbefore) (hactive hwithin) (by decide) (Nat.le_refl _)) (by decide)

end Session

end Dialogue
