import Dialogue.Pattern.Reader

/-!
# Reports of mistakes in patterns

A report shows the pattern with carets under the place of the mistake. A pattern of several lines is
shown between rulers and with line numbers; a place that spans lines is named by its lines and
columns.
-/

namespace Dialogue

namespace PatternError

open Text

/-- The line and column of a position, both counted from one. -/
def lineColumn (text : List Char) (position : Nat) : Nat × Nat :=
  let before := text.take position
  let column := (before.reverse.takeWhile (· ≠ '\n')).length + 1
  (before.count '\n' + 1, column)

/-- A place in lines and columns. -/
structure Region where
  startLine : Nat
  startColumn : Nat
  stopLine : Nat
  stopColumn : Nat

/-- The region of a place. -/
def regionOf (text : List Char) (place : Place) : Region :=
  let (a, b) := lineColumn text place.start
  let (c, d) := lineColumn text place.stop
  ⟨a, b, c, d⟩

/-- Carets under the given columns, the first and the excluded last of each; at least one each.
`column` is the column reached. -/
def carets (column : Nat) : List (Nat × Nat) → List Char
  | [] => []
  | (start, stop) :: more =>
    let gap := start - 1 - column
    let width := max 1 (stop - start)
    List.replicate gap ' ' ++ List.replicate width '^' ++ carets (column + gap + width) more

/-- The report of a mistake in a pattern. -/
def reportChars (text : List Char) (e : PatternError) : List Char :=
  let parts := Text.lines text
  let count := parts.length + (if text.getLast? = some '\n' then 1 else 0)
  let width := if count ≤ 1 then 0 else (toString count).length
  let regions := (e.place :: e.earlier.toList).map (regionOf text)
  let single := (regions.filter fun r => r.startLine == r.stopLine).mergeSort
    fun a b => a.startColumn ≤ b.startColumn
  let several := regions.filter fun r => r.startLine != r.stopLine
  let margin (n : Nat) : List Char :=
    if width = 0 then "    ".toList
    else
      let number := (toString n).toList
      List.replicate (width - number.length) ' ' ++ number ++ [':', ' ']
  let shown := (parts.zipIdx 1).flatMap fun (line, n) =>
    let marks := (single.filter (·.startLine == n)).map fun r => (r.startColumn, r.stopColumn)
    margin n ++ line ++ ['\n'] ++
      if marks = [] then []
      else List.replicate (if width = 0 then 4 else width + 2) ' ' ++ carets 0 marks ++ ['\n']
  let ruler := if parts.length ≤ 1 ∧ text.getLast? ≠ some '\n' then []
    else List.replicate 79 '~' ++ ['\n']
  let notes := several.map fun r =>
    ("on line " ++ toString r.startLine ++ " (column " ++ toString r.startColumn
      ++ ") through line " ++ toString r.stopLine ++ " (column " ++ toString (r.stopColumn - 1)
      ++ ")").toList
  "regex parse error:\n".toList ++ ruler ++ shown ++ ruler
    ++ (if notes = [] then [] else join ['\n'] notes ++ ['\n'])
    ++ "error: ".toList ++ e.fault.message.toList

/-- The report of a mistake in a pattern. -/
def report (text : String) (e : PatternError) : String :=
  String.ofList (reportChars text.toList e)

end PatternError

namespace Pattern

/-- The pattern that a text writes, or the report of the mistake in it. -/
def read (text : String) : Except String Pattern :=
  match readChars text.toList with
  | .ok p => .ok p
  | .error e => .error (e.report text)

end Pattern

end Dialogue
