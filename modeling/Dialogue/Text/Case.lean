import Dialogue.Text.Class
import Dialogue.Text.CaseTable

/-!
# Case

Lower case of a text and upper case of a character, with the characters that become several and the
Greek sigma that takes another form at the end of a word.
-/

namespace Dialogue.Text

/-- The run of a case table that a code point falls into, by halving. -/
def findRun (table : Array (Nat × Nat × Nat × Int)) (n : Nat) :
    (fuel low high : Nat) → Option (Nat × Nat × Nat × Int)
  | 0, _, _ => none
  | fuel + 1, low, high =>
    if high ≤ low then none
    else
      let middle := (low + high) / 2
      match table[middle]? with
      | none => none
      | some (first, last, step, offset) =>
        if n < first then findRun table n fuel low middle
        else if last < n then findRun table n fuel (middle + 1) high
        else some (first, last, step, offset)

/-- The single character that a run table maps a character to. -/
def mapRun (table : Array (Nat × Nat × Nat × Int)) (c : Char) : Char :=
  match findRun table c.toNat 16 0 table.size with
  | some (first, _, step, offset) =>
    if (c.toNat - first) % step = 0 then Char.ofNat ((c.toNat : Int) + offset).toNat else c
  | none => c

/-- The characters listed for `c` in a table of special mappings. -/
def special? (table : Array (Nat × List Nat)) (c : Char) : Option (List Char) :=
  (table.find? (·.1 == c.toNat)).map (·.2.map Char.ofNat)

/-- The lower case of one character, its neighbours left aside. -/
def lowerChar (c : Char) : List Char :=
  if c.toNat < 128 then [c.toLower]
  else (special? CaseTable.lowerSpecial c).getD [mapRun CaseTable.lowerRuns c]

/-- The upper case of one character. -/
def upperChar (c : Char) : List Char :=
  if c.toNat < 128 then [c.toUpper]
  else (special? CaseTable.upperSpecial c).getD [mapRun CaseTable.upperRuns c]

/-- The single character a character becomes in lower case; itself when it becomes several. -/
def lowerSingle (c : Char) : Char := if c.toNat < 128 then c.toLower else mapRun CaseTable.lowerRuns c

/-- The single character a character becomes in upper case; itself when it becomes several. -/
def upperSingle (c : Char) : Char := if c.toNat < 128 then c.toUpper else mapRun CaseTable.upperRuns c

/-- Whether the first character that is not passed over is a cased letter. -/
def meetsCased (text : List Char) : Bool :=
  match text.dropWhile isCaseIgnorable with
  | [] => false
  | c :: _ => isCased c

/-- The lower case of `text`, which follows the characters of `before`, nearest first. A capital
sigma with a cased letter before it and none after it ends a word. -/
def lowerAfter (before : List Char) : List Char → List Char
  | [] => []
  | c :: text =>
    let here :=
      if c = 'Σ' then
        if meetsCased before && !meetsCased text then ['ς'] else ['σ']
      else lowerChar c
    here ++ lowerAfter (c :: before) text

/-- The lower case of a text. -/
def lower (text : List Char) : List Char := lowerAfter [] text

/-- The lower case of the letters of the ASCII range, the other characters unchanged. -/
def lowerAscii (text : List Char) : List Char := text.map Char.toLower

end Dialogue.Text
