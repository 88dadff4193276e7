import Dialogue.Text.Case

/-!
# Patterns

A pattern describes texts. It is a set of characters, an assertion about a position, a sequence, a
choice, or a repetition.
-/

namespace Dialogue

/-- A set of characters. -/
inductive CharSet where
  | range (first last : Nat)
  | table (boundaries : Array Nat)
  | union (sets : List CharSet)
  | intersection (a b : CharSet)
  | negation (s : CharSet)
  | caseless (s : CharSet)
  deriving Repr, Inhabited

namespace CharSet

/-- The characters that a character counts as when case does not matter. -/
def caseForms (c : Char) : List Char :=
  let lower := Text.lowerSingle c
  let upper := Text.upperSingle c
  [c, lower, upper, Text.lowerSingle upper, Text.upperSingle lower] ++
    (if lower = 's' then ['ſ'] else if lower = 'k' then ['\u212a'] else
      if lower = 'å' then ['\u212b'] else [])

/-- Whether a set has a character. -/
def mem (c : Char) : CharSet → Bool
  | range first last => first ≤ c.toNat && c.toNat ≤ last
  | table boundaries => Text.inClass boundaries c.toNat
  | union sets => memAny c sets
  | intersection a b => mem c a && mem c b
  | negation s => !mem c s
  | caseless s => (caseForms c).any fun d => mem d s
where
  /-- Whether one of several sets has a character. -/
  memAny (c : Char) : List CharSet → Bool
    | [] => false
    | s :: more => mem c s || memAny c more

/-- One character. -/
def single (c : Char) : CharSet := range c.toNat c.toNat

/-- The characters of the first set that the second has not. -/
def difference (a b : CharSet) : CharSet := intersection a (negation b)

/-- The characters that exactly one of two sets has. -/
def symmetricDifference (a b : CharSet) : CharSet := union [difference a b, difference b a]

end CharSet

/-- How a position lies with respect to the words around it. -/
inductive WordPlace where
  | boundary
  | inside
  | start
  | stop
  | notAfterWord
  | notBeforeWord
  deriving DecidableEq, Repr

/-- What is asked of a position. Lines end at line feeds, or also at carriage returns when these
count; words are made of characters of the ASCII range, or of any script. -/
inductive Assertion where
  | textStart
  | textEnd
  | lineStart (withReturns : Bool)
  | lineEnd (withReturns : Bool)
  | word (place : WordPlace) (asciiOnly : Bool)
  deriving DecidableEq, Repr

/-- A pattern. -/
inductive Pattern where
  | set (s : CharSet)
  | assertion (a : Assertion)
  | sequence (parts : List Pattern)
  | choice (parts : List Pattern)
  | repeated (p : Pattern) (least : Nat) (most : Option Nat)
  deriving Repr, Inhabited

end Dialogue
