/-!
# Powers

Powers of two bound the numbers that fit into a number of bits, powers of ten move a decimal point.

* `twoTo_mono`: a power of two with a greater exponent is not smaller.
-/

namespace Dialogue

/-- A power of two: how many natural numbers fit into a number of bits. -/
def twoTo (bits : Nat) : Nat := Nat.pow 2 bits

/-- A power of ten. -/
def tenTo (exponent : Nat) : Nat := Nat.pow 10 exponent

theorem twoTo_mono {m n : Nat} (h : m ≤ n) : twoTo m ≤ twoTo n :=
  Nat.pow_le_pow_right (by decide) h

theorem twoTo_pos (bits : Nat) : 0 < twoTo bits := Nat.pow_pos (by decide)

end Dialogue
