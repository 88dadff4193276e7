import Dialogue.Text.Case
import Dialogue.Text.Class
import Dialogue.Pattern.Property
import Dialogue.Number.Decimal
import Dialogue.Url.Basic
import Dialogue.Url.Punycode

/-!
# Hosts

A host is a domain, an address of four bytes or an address of eight groups in brackets. A domain is
brought into lower case and into ASCII. A domain whose last label is a number has to be an address.
-/

namespace Dialogue.Url

open Text

/-- Marks that a domain may not contain. -/
def isForbiddenInDomain (c : Char) : Bool :=
  c.toNat ≤ 32 || c.toNat == 127 || "#%/:<>?@[\\]^|".toList.contains c

/-- Marks that the host of an address without a known scheme may not contain. -/
def isForbiddenInHost (c : Char) : Bool :=
  ['\x00', '\t', '\n', '\r', ' ', '#', '/', ':', '<', '>', '?', '@', '[', '\\', ']', '^',
    '|'].contains c

/-- Characters that no domain may contain, whatever their spelling. -/
def isUnassignable (c : Char) : Bool :=
  128 ≤ c.toNat && (Pattern.others.mem c || Pattern.separators.mem c)

/-- A domain in lower case, with full stops of other scripts replaced and soft hyphens dropped. -/
def mapDomain (cs : List Char) : List Char :=
  (cs.filter (· ≠ '\u00ad')).flatMap fun c =>
    if c = '\u3002' ∨ c = '\uff0e' ∨ c = '\uff61' then ['.'] else lowerChar c

/-- A label in ASCII. -/
def asciiLabel (label : List Char) : List Char :=
  if label.all (·.toNat < 128) then label else "xn--".toList ++ Punycode.encode label

/-- A domain in ASCII. -/
def asciiDomain? (cs : List Char) : Option (List Char) :=
  let mapped := mapDomain cs
  if mapped.any fun c => isForbiddenInDomain c || isUnassignable c then none
  else some (join ['.'] ((pieces (· == '.') mapped).map asciiLabel))

/-- A number in the spelling of addresses: in base sixteen, eight or ten. -/
def addressNumber? (cs : List Char) : Option Nat :=
  let (base, digits) := match cs with
    | '0' :: 'x' :: rest | '0' :: 'X' :: rest => (16, rest)
    | '0' :: c :: rest => (8, c :: rest)
    | rest => (10, rest)
  if cs = [] then none
  else digits.foldl (fun n c => do
    let n ← n
    let d ← hexValue? c
    if d < base then some (n * base + d) else none) (some 0)

/-- The labels of a domain, an empty last one left aside. -/
def labels (cs : List Char) : List (List Char) :=
  let parts := pieces (· == '.') cs
  if parts.getLast? = some [] then parts.dropLast else parts

/-- Whether the last label of a domain is a number. -/
def endsInNumber (cs : List Char) : Bool :=
  match (labels cs).getLast? with
  | none => false
  | some last => (last != [] && last.all isDigit) || (addressNumber? last).isSome

/-- The address of four bytes that a domain writes. -/
def address4? (cs : List Char) : Option (List Char) := do
  let parts := labels cs
  if 4 < parts.length then none
  else
    let numbers ← parts.mapM addressNumber?
    let last ← numbers.getLast?
    let front := numbers.dropLast
    if twoTo (8 * (4 - front.length)) ≤ last ∨ front.any (255 < ·) then none
    else
      let value := front.zipIdx.foldl (fun sum (n, i) => sum + n * twoTo (8 * (3 - i))) last
      some (join ['.'] ([16777216, 65536, 256, 1].map fun p => digitsOf (value / p % 256)))

/-- A group of an address between colons. -/
def group? (cs : List Char) : Option Nat :=
  if cs = [] ∨ 4 < cs.length then none
  else cs.foldl (fun n c => do
    let n ← n
    let d ← hexValue? c
    some (n * 16 + d)) (some 0)

/-- A byte in base ten without leading zeros. -/
def decimalByte? (cs : List Char) : Option Nat :=
  if cs = [] ∨ 3 < cs.length ∨ !cs.all isDigit ∨ (cs.head? = some '0' ∧ 1 < cs.length) then none
  else
    let n := natOfDigits cs
    if n < 256 then some n else none

/-- Groups between colons, the last of which may be an address of four bytes. -/
def groups? : List (List Char) → Option (List Nat)
  | [] => some []
  | [last] =>
    if last.contains '.' then do
      let bytes ← (pieces (· == '.') last).mapM decimalByte?
      match bytes with
      | [a, b, c, d] => some [a * 256 + b, c * 256 + d]
      | _ => none
    else (group? last).map fun n => [n]
  | part :: more => do
    let n ← group? part
    let rest ← groups? more
    some (n :: rest)

/-- The groups of a side of a gap. -/
def sideGroups? (cs : List Char) : Option (List Nat) :=
  if cs = [] then some [] else groups? (pieces (· == ':') cs)

/-- The eight groups of an address. -/
def address6? (cs : List Char) : Option (List Nat) :=
  match cut? [':', ':'] cs with
  | none => do
    let groups ← groups? (pieces (· == ':') cs)
    if groups.length = 8 then some groups else none
  | some (left, right) => do
    if left.contains '.' then none
    else
      let a ← sideGroups? left
      let b ← sideGroups? right
      if 8 ≤ a.length + b.length then none
      else some (a ++ List.replicate (8 - a.length - b.length) 0 ++ b)

/-- The length of the run of zeros at the front. -/
def zeroRun (groups : List Nat) : Nat := (groups.takeWhile (· == 0)).length

/-- The address of eight groups as text: the first longest run of several zeros is left out. -/
def text6 (groups : List Nat) : List Char :=
  let runs := (List.range groups.length).map fun i => zeroRun (groups.drop i)
  let longest := runs.foldl max 0
  let written (gs : List Nat) : List Char :=
    join [':'] (gs.map fun n => Nat.toDigits 16 n)
  if longest < 2 then written groups
  else
    let i := runs.findIdx (· == longest)
    written (groups.take i) ++ [':', ':'] ++ written (groups.drop (i + longest))

/-- The address between brackets. -/
def bracketed? (cs : List Char) : Option (List Char) :=
  match cs with
  | '[' :: inner =>
    if inner.getLast? = some ']' then
      (address6? inner.dropLast).map fun groups => '[' :: (text6 groups ++ [']'])
    else none
  | _ => none

/-- The bytes of a text read as UTF-8. -/
def textOfBytes? (bytes : List UInt8) : Option (List Char) :=
  (String.fromUTF8? ⟨bytes.toArray⟩).map String.toList

/-- The host of an address with a known scheme. -/
def readHost (cs : List Char) : Except UrlFault (List Char) :=
  if cs.head? = some '[' then
    match bracketed? cs with
    | some host => .ok host
    | none => .error .badAddress6
  else
    match (textOfBytes? (Percent.decode cs)).bind asciiDomain? with
    | none => .error .badDomain
    | some [] => .error .emptyHost
    | some domain =>
      if endsInNumber domain then
        match address4? domain with
        | some address => .ok address
        | none => .error .badAddress4
      else .ok domain

/-- Whether a character stands for itself in a host without a known scheme. -/
def isPlain (c : Char) : Bool := 32 ≤ c.toNat && c.toNat < 127

/-- The host of an address without a known scheme. -/
def readOpaqueHost (cs : List Char) : Except UrlFault (List Char) :=
  if cs.head? = some '[' then
    match bracketed? cs with
    | some host => .ok host
    | none => .error .badAddress6
  else if cs.any isForbiddenInHost then .error .badHostCharacter
  else .ok (Percent.encode isPlain cs)

end Dialogue.Url
