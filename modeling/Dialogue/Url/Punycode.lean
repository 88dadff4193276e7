import Dialogue.Text.Basic

/-!
# Domain labels in ASCII

A label with characters beyond ASCII is written with its ASCII characters first and then, in
ascending order, the others as distances between insertions.
-/

namespace Dialogue.Punycode

/-- A digit of base thirty-six: letters come before digits. -/
def digit (d : Nat) : Char :=
  if d < 26 then Char.ofNat ('a'.toNat + d) else Char.ofNat ('0'.toNat + (d - 26))

/-- The least value that ends a number at a digit. -/
def threshold (k bias : Nat) : Nat :=
  if k ≤ bias then 1 else if bias + 26 ≤ k then 26 else k - bias

/-- Halves the spread of a distance until it is small. -/
def settle : (fuel : Nat) → (delta k : Nat) → Nat
  | 0, delta, k => k + 36 * delta / (delta + 38)
  | fuel + 1, delta, k =>
    if 455 < delta then settle fuel (delta / 35) (k + 36) else k + 36 * delta / (delta + 38)

/-- The bias after a distance among so many characters. -/
def adapt (delta count : Nat) (first : Bool) : Nat :=
  let delta := if first then delta / 700 else delta / 2
  settle 16 (delta + delta / count) 0

/-- A distance in digits of varying weight. -/
def number (bias : Nat) : (fuel : Nat) → (k q : Nat) → List Char
  | 0, _, _ => []
  | fuel + 1, k, q =>
    let t := threshold k bias
    if q < t then [digit q] else digit (t + (q - t) % (36 - t)) :: number bias fuel (k + 36) ((q - t) / (36 - t))

/-- What is known between insertions. -/
structure Progress where
  delta : Nat
  bias : Nat
  handled : Nat
  output : List Char

/-- Inserts all occurrences of the code point `n`; `basic` characters were there from the start. -/
def insertAll (n basic : Nat) (text : List Nat) (p : Progress) : Progress :=
  text.foldl (fun p c =>
    if c < n then { p with delta := p.delta + 1 }
    else if c = n then
      { delta := 0, bias := adapt p.delta (p.handled + 1) (p.handled = basic),
        handled := p.handled + 1, output := p.output ++ number p.bias 64 36 p.delta }
    else p) p

/-- Inserts the code points beyond ASCII in ascending order; `low` is the least one not yet
handled. -/
def insertFrom (basic : Nat) (text : List Nat) : (fuel : Nat) → (low : Nat) → Progress → Progress
  | 0, _, p => p
  | fuel + 1, low, p =>
    match (text.filter (low ≤ ·)).min? with
    | none => p
    | some n =>
      let p := insertAll n basic text { p with delta := p.delta + (n - low) * (p.handled + 1) }
      insertFrom basic text fuel (n + 1) { p with delta := p.delta + 1 }

/-- A label in ASCII, without the mark that says so. -/
def encode (label : List Char) : List Char :=
  let basic := label.filter (·.toNat < 128)
  let start := if basic = [] then [] else basic ++ ['-']
  (insertFrom basic.length (label.map Char.toNat) label.length 128
    ⟨0, 72, basic.length, start⟩).output

end Dialogue.Punycode
