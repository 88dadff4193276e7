import Dialogue.Number.Power

/-!
# Spans of time

A span is a number of nanoseconds, at most as many as 64 bits of seconds hold; what would be longer
is cut there.

* `Span.times_mono`: a greater multiple is not shorter.
-/

namespace Dialogue

/-- A span of time in nanoseconds. -/
structure Span where
  nanoseconds : Nat
  deriving DecidableEq, Repr, Inhabited

namespace Span

/-- A number of whole seconds. -/
def ofSeconds (n : Nat) : Span := ⟨n * 1000000000⟩

/-- A number of milliseconds. -/
def ofMillis (n : Nat) : Span := ⟨n * 1000000⟩

/-- The longest span. -/
def longest : Span := ⟨twoTo 64 * 1000000000 - 1⟩

/-- The whole seconds of a span. -/
def seconds (d : Span) : Nat := d.nanoseconds / 1000000000

/-- The nanoseconds of a span beyond its whole seconds. -/
def nanos (d : Span) : Nat := d.nanoseconds % 1000000000

/-- The whole milliseconds of a span. -/
def millis (d : Span) : Nat := d.nanoseconds / 1000000

/-- A multiple of a span, at most the longest one. -/
def times (d : Span) (n : Nat) : Span := ⟨min (d.nanoseconds * n) longest.nanoseconds⟩

/-- A greater multiple is not shorter. -/
theorem times_mono (d : Span) {m n : Nat} (h : m ≤ n) :
    (d.times m).nanoseconds ≤ (d.times n).nanoseconds := by
  have := Nat.mul_le_mul_left d.nanoseconds h
  simp only [times]
  omega

@[simp] theorem seconds_ofSeconds (n : Nat) : (ofSeconds n).seconds = n := by
  simp [ofSeconds, seconds]

end Span

end Dialogue
