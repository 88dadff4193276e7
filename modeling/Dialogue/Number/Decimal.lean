import Dialogue.Number.Binary
import Dialogue.Number.Power

/-!
# Decimal text of floating-point numbers

Writing: the fewest digits that read back as the same number, and of those the nearest
(`Binary64.shortest`); a `DecimalLayout` says how digits and exponent become text. Reading: a
decimal fraction is the double nearest to it (`Binary64.ofDecimal`).
-/

namespace Dialogue

/-- The digits of a natural number, most significant first. -/
def digitsOf (n : Nat) : List Char := Nat.toDigits 10 n

/-- The value of a run of digits. -/
def natOfDigits (cs : List Char) : Nat :=
  cs.foldl (fun n c => n * 10 + (c.toNat - '0'.toNat)) 0

namespace Binary64

/-- The double nearest to `digits * 10 ^ exponent`. Exponents far outside the range of doubles are
answered without computing the power. -/
def ofDecimal (negative : Bool) (digits : Nat) (exponent : Int) : Binary64 :=
  let size : Int := (digits.log2 : Int) * 301 / 1000 + exponent
  if digits = 0 then ofQuotient negative 0 1
  else if 320 < size then .infinite negative
  else if size < -340 then ofQuotient negative 0 1
  else if 0 ≤ exponent then ofQuotient negative (digits * tenTo exponent.toNat) 1
  else ofQuotient negative digits (tenTo (-exponent).toNat)

/-- Whether the decimal `digits * 10 ^ exponent` lies among the reals that round to
`mantissa * 2 ^ power`; the ends belong to an even mantissa. Below a power of two the neighbouring
double is half as far away. -/
def readsBack (mantissa : Nat) (power : Int) (digits : Nat) (exponent : Int) : Bool :=
  -- everything in quarters of the distance to the next double
  let narrow := mantissa = 1 <<< 52 ∧ Precision.double.leastExponent < power
  let low := 4 * mantissa - (if narrow then 1 else 2)
  let high := 4 * mantissa + 2
  let (twoNum, twoDen) := if 0 ≤ power - 2 then (1 <<< (power - 2).toNat, 1)
    else (1, 1 <<< (2 - power).toNat)
  let (tenNum, tenDen) := if 0 ≤ exponent then (tenTo exponent.toNat, 1)
    else (1, tenTo (-exponent).toNat)
  let here := digits * tenNum * twoDen
  let unit := twoNum * tenDen
  if mantissa % 2 = 0 then low * unit ≤ here ∧ here ≤ high * unit
  else low * unit < here ∧ here < high * unit

/-- How many decimal digits stand before the point of `num / den`: the least `k` with
`num / den < 10 ^ k`. -/
def decimalSize (num den : Nat) : Int :=
  let guess : Int := ((num.log2 : Int) - (den.log2 : Int)) * 30103 / 100000
  let below (k : Int) : Bool :=
    if 0 ≤ k then num < den * tenTo k.toNat else num * tenTo (-k).toNat < den
  if below (guess - 1) then guess - 1
  else if below guess then guess
  else if below (guess + 1) then guess + 1
  else guess + 2

/-- The two decimals with exponent `k` on either side of `num / den`, the nearer one first and an
exact half with its even neighbour first. -/
def neighbours (num den : Nat) (k : Int) : Nat × Nat :=
  let (n, d) := if 0 ≤ k then (num, den * tenTo k.toNat) else (num * tenTo (-k).toNat, den)
  let q := n / d
  let r := n % d
  if 2 * r < d ∨ (2 * r = d ∧ q % 2 = 0) then (q, q + 1) else (q + 1, q)

/-- The first grid, from coarse to fine, that has a point reading back as the number. -/
def shortestFrom (mantissa : Nat) (power : Int) (num den : Nat) (size : Int) :
    Nat → Nat → Nat × Int
  | 0, used => ((neighbours num den (size - used)).1, size - used)
  | left + 1, used =>
    let k : Int := size - used
    let (near, far) := neighbours num den k
    if readsBack mantissa power near k then (near, k)
    else if readsBack mantissa power far k then (far, k)
    else shortestFrom mantissa power num den size left (used + 1)

/-- Drops trailing zeros of the digits, raising the exponent. -/
def stripZeros : Nat → Nat → Int → Nat × Int
  | 0, digits, k => (digits, k)
  | fuel + 1, digits, k =>
    if digits ≠ 0 ∧ digits % 10 = 0 then stripZeros fuel (digits / 10) (k + 1) else (digits, k)

/-- The digits and the decimal exponent of the shortest decimal that reads back as
`mantissa * 2 ^ power`. -/
def shortest (mantissa : Nat) (power : Int) : Nat × Int :=
  if mantissa = 0 then (0, 0)
  else
    let (num, den) := quotient mantissa power
    let (digits, k) := shortestFrom mantissa power num den (decimalSize num den) 17 1
    stripZeros 20 digits k

end Binary64

/-- How the digits of a number are laid out: positional while the decimal point is at most `most`
places after the first digit and at most `least` zeros follow the point before it, an exponent
otherwise. -/
structure DecimalLayout where
  least : Int
  most : Int
  wholeSuffix : String
  exponentPlus : String

namespace DecimalLayout

/-- The text of `± digits * 10 ^ exponent`. -/
def write (l : DecimalLayout) (negative : Bool) (digits : Nat) (exponent : Int) : String :=
  let ds := digitsOf digits
  let point : Int := ds.length + exponent
  let sign := if negative then "-" else ""
  let body : String :=
    if digits = 0 then "0" ++ l.wholeSuffix
    else if 0 < point ∧ point ≤ l.most then
      if 0 ≤ exponent then
        String.ofList (ds ++ List.replicate exponent.toNat '0') ++ l.wholeSuffix
      else
        String.ofList (ds.take point.toNat ++ '.' :: ds.drop point.toNat)
    else if point ≤ 0 ∧ -point ≤ l.least then
      "0." ++ String.ofList (List.replicate (-point).toNat '0' ++ ds)
    else
      let e := point - 1
      let mantissa := match ds with
        | [] => []
        | [d] => [d]
        | d :: rest => d :: '.' :: rest
      String.ofList mantissa ++ "e" ++ (if e < 0 then "-" else l.exponentPlus)
        ++ String.ofList (digitsOf e.natAbs)
  sign ++ body

end DecimalLayout

namespace Binary64

/-- Numbers in documents: positional from `0.00001` below `10 ^ 16`, whole numbers keep `.0`, a
positive exponent keeps its plus sign. -/
def documentLayout : DecimalLayout := ⟨4, 16, ".0", "+"⟩

/-- The text of a number in a document; only finite numbers have a decimal one. -/
def toText : Binary64 → String
  | nan => "NaN"
  | infinite s => if s then "-inf" else "inf"
  | finite s m e => let (digits, k) := shortest m e; documentLayout.write s digits k

end Binary64

end Dialogue
