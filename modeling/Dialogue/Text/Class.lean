import Dialogue.Text.Basic
import Dialogue.Text.ClassTable

/-!
# Character classes

Membership in a class is a search in its table of boundaries.
-/

namespace Dialogue.Text

/-- How many entries of an ascending table are at most `n`, by halving the part between `low` and
`high`. -/
def countUpTo (table : Array Nat) (n : Nat) : (fuel low high : Nat) → Nat
  | 0, low, _ => low
  | fuel + 1, low, high =>
    if high ≤ low then low
    else
      let middle := (low + high) / 2
      if table.getD middle 0 ≤ n then countUpTo table n fuel (middle + 1) high
      else countUpTo table n fuel low middle

/-- Whether a code point belongs to the class of a table of boundaries. -/
def inClass (table : Array Nat) (n : Nat) : Bool :=
  countUpTo table n 32 0 table.size % 2 == 1

/-- Letters and letter-like characters. -/
def isAlphabetic (c : Char) : Bool :=
  if c.toNat < 128 then isAsciiLetter c else inClass ClassTable.alphabetic c.toNat

/-- Numbers of every category. -/
def isNumeric (c : Char) : Bool :=
  if c.toNat < 128 then isDigit c else inClass ClassTable.numeric c.toNat

/-- Letters and numbers. -/
def isAlphanumeric (c : Char) : Bool := isAlphabetic c || isNumeric c

/-- Decimal digits of every script. -/
def isDecimalDigit (c : Char) : Bool :=
  if c.toNat < 128 then isDigit c else inClass ClassTable.decimalDigit c.toNat

/-- Characters of words: letters, marks, digits, connectors and joiners. -/
def isWordChar (c : Char) : Bool :=
  if c.toNat < 128 then isAsciiLetter c || isDigit c || c == '_'
  else inClass ClassTable.word c.toNat

/-- Characters that count as cased letters. -/
def isCased (c : Char) : Bool := inClass ClassTable.cased c.toNat

/-- Characters that are passed over when the neighbours of a letter are sought. -/
def isCaseIgnorable (c : Char) : Bool := inClass ClassTable.caseIgnorable c.toNat

end Dialogue.Text
