/-!
# Binary floating-point numbers

A number is a sign, a whole mantissa and a power of two, so every finite value is exact and no
hardware arithmetic is involved. `Precision.round` sends a quotient of naturals to the nearest
representable number, a half going to the even mantissa; all arithmetic here is one exact
operation followed by one rounding.

* `round_zero`: a zero numerator gives a zero of the asked sign.
-/

namespace Dialogue

/-- A double precision number, not-a-number and the two infinities included. A finite one has the
value `± mantissa * 2 ^ exponent`. -/
inductive Binary64 where
  | nan
  | infinite (negative : Bool)
  | finite (negative : Bool) (mantissa : Nat) (exponent : Int)
  deriving DecidableEq, Repr, Inhabited

/-- How many mantissa bits a format keeps and between which powers of two its mantissas stand. -/
structure Precision where
  bits : Nat
  leastExponent : Int
  greatestExponent : Int

namespace Precision

/-- Fifty-three bits, from `2 ^ -1074`. -/
def double : Precision := ⟨53, -1074, 971⟩

/-- Twenty-four bits, from `2 ^ -149`. -/
def single : Precision := ⟨24, -149, 104⟩

/-- The whole number nearest to `num / den`, a half going to the even neighbour. -/
def roundDiv (num den : Nat) : Nat :=
  let q := num / den
  let r := num % den
  if 2 * r < den then q
  else if den < 2 * r then q + 1
  else if q % 2 = 0 then q else q + 1

/-- `num / (den * 2 ^ e)` as a pair of naturals. -/
def scaled (num den : Nat) (e : Int) : Nat × Nat :=
  if 0 ≤ e then (num, den <<< e.toNat) else (num <<< (-e).toNat, den)

/-- The power of two that gives `num / den` a mantissa of exactly `p.bits` bits, or the least power
of the format. -/
def exponentFor (p : Precision) (num den : Nat) : Int :=
  let guess : Int := (num.log2 : Int) - (den.log2 : Int) - (p.bits : Int)
  let (n, d) := scaled num den guess
  let e := if n < d <<< p.bits then guess else guess + 1
  max e p.leastExponent

/-- The representable number nearest to `num / den` with the sign asked for. -/
def round (p : Precision) (negative : Bool) (num den : Nat) : Binary64 :=
  if num = 0 then .finite negative 0 p.leastExponent
  else
    let e := p.exponentFor num den
    let (n, d) := scaled num den e
    let m := roundDiv n d
    let (m, e) := if m = 1 <<< p.bits then (m >>> 1, e + 1) else (m, e)
    if p.greatestExponent < e then .infinite negative else .finite negative m e

@[simp] theorem round_zero (p : Precision) (negative : Bool) (den : Nat) :
    p.round negative 0 den = .finite negative 0 p.leastExponent := by
  simp [round]

end Precision

namespace Binary64

/-- The double nearest to `num / den`. -/
def ofQuotient (negative : Bool) (num den : Nat) : Binary64 :=
  Precision.double.round negative num den

/-- The double nearest to a natural number. -/
def ofNat (n : Nat) : Binary64 := ofQuotient false n 1

/-- The double nearest to an integer. -/
def ofInt (i : Int) : Binary64 := ofQuotient (i < 0) i.natAbs 1

/-- Changes the sign. -/
def neg : Binary64 → Binary64
  | nan => nan
  | infinite s => infinite !s
  | finite s m e => finite (!s) m e

/-- A finite number: neither an infinity nor not-a-number. -/
def isFinite : Binary64 → Bool
  | finite .. => true
  | _ => false

/-- Zero of either sign. -/
def isZero : Binary64 → Bool
  | finite _ m _ => m == 0
  | _ => false

/-- A finite number with a full mantissa: neither zero nor subnormal. -/
def isNormal : Binary64 → Bool
  | finite _ m _ => (1 <<< 52) ≤ m
  | _ => false

/-- The magnitude of a finite number as a quotient of naturals. -/
def quotient (mantissa : Nat) (exponent : Int) : Nat × Nat :=
  if 0 ≤ exponent then (mantissa <<< exponent.toNat, 1) else (mantissa, 1 <<< (-exponent).toNat)

/-- The product, rounded once. -/
def mul : Binary64 → Binary64 → Binary64
  | nan, _ | _, nan => nan
  | infinite s, infinite t => infinite (s != t)
  | infinite s, finite t m _ | finite t m _, infinite s => if m = 0 then nan else infinite (s != t)
  | finite s m e, finite t n f =>
    let (num, den) := quotient (m * n) (e + f)
    ofQuotient (s != t) num den

/-- The quotient, rounded once. -/
def div : Binary64 → Binary64 → Binary64
  | nan, _ | _, nan => nan
  | infinite _, infinite _ => nan
  | infinite s, finite t _ _ => infinite (s != t)
  | finite s _ _, infinite t => finite (s != t) 0 Precision.double.leastExponent
  | finite s m e, finite t n f =>
    if n = 0 then (if m = 0 then nan else infinite (s != t))
    else
      let (num, den) := quotient m (e - f)
      ofQuotient (s != t) num (den * n)

/-- The sum, rounded once. -/
def add : Binary64 → Binary64 → Binary64
  | nan, _ | _, nan => nan
  | infinite s, infinite t => if s = t then infinite s else nan
  | infinite s, finite .. | finite .., infinite s => infinite s
  | finite s m e, finite t n f =>
    let low := min e f
    let a : Int := (m <<< (e - low).toNat : Nat)
    let b : Int := (n <<< (f - low).toNat : Nat)
    let total := (if s then -a else a) + (if t then -b else b)
    let negative := if total = 0 then s && t else decide (total < 0)
    let (num, den) := quotient total.natAbs low
    ofQuotient negative num den

/-- The order of two numbers; not-a-number has none. -/
def compare? : Binary64 → Binary64 → Option Ordering
  | nan, _ | _, nan => none
  | infinite s, infinite t => some (compare t s)
  | infinite s, finite .. => some (if s then .lt else .gt)
  | finite .., infinite t => some (if t then .gt else .lt)
  | finite s m e, finite t n f =>
    let low := min e f
    let a : Int := (m <<< (e - low).toNat : Nat)
    let b : Int := (n <<< (f - low).toNat : Nat)
    some (compare (if s then -a else a) (if t then -b else b))

/-- Equality of values: zero equals negative zero, not-a-number differs from itself. -/
def sameValue (x y : Binary64) : Bool := x.compare? y == some .eq

/-- The number of single precision nearest to `num / den`, as a double. -/
def singleOfQuotient (negative : Bool) (num den : Nat) : Binary64 :=
  match Precision.single.round negative num den with
  | finite s m e => let (num, den) := quotient m e; ofQuotient s num den
  | other => other

/-- Rounds to single precision. -/
def toSingle : Binary64 → Binary64
  | nan => nan
  | infinite s => infinite s
  | finite s m e => let (num, den) := quotient m e; singleOfQuotient s num den

/-- The integer that a finite number is, when it is one. -/
def toInt? : Binary64 → Option Int
  | finite s m e =>
    let (num, den) := quotient m e
    if num % den = 0 then some (if s then -((num / den : Nat) : Int) else (num / den : Nat)) else none
  | _ => none

end Binary64

end Dialogue
