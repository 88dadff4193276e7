import Dialogue.Text.Basic

/-!
# Paths of files

A path is a text whose parts stand between slashes. Empty parts and single dots do not count, except
in front: an empty part there is the root, and a dot is the current directory.
-/

namespace Dialogue.Path

open Text

/-- Whether a path begins at the root. -/
def isAbsolute (path : String) : Bool := path.toList.head? == some '/'

/-- A path below a directory; one from the root stays as it is. -/
def join (directory path : String) : String :=
  if isAbsolute path then path
  else
    match directory.toList.getLast? with
    | none | some '/' => directory ++ path
    | some _ => directory ++ "/" ++ path

/-- Whether a part of a path counts for nothing. -/
def isIdle (part : List Char) : Bool := part == [] || part == ['.']

/-- Parts without the idle ones at the end; the part in front stays. -/
def withoutIdleEnd : List (List Char) → List (List Char)
  | [] => []
  | front :: parts => front :: (parts.reverse.dropWhile isIdle).reverse

/-- The parts of a path up to the last that counts. -/
def parts (path : String) : List (List Char) := withoutIdleEnd (pieces (· == '/') path.toList)

/-- The name at the end of a path, unless the end is the root, a dot or two dots. -/
def name? (path : String) : Option String :=
  ((parts path).getLast?.filter fun part => !isIdle part && part != ['.', '.']).map String.ofList

/-- The path without its last part; the root and the empty path have none. -/
def parent? (path : String) : Option String :=
  match parts path with
  | [] | [[]] => none
  | ps =>
    match withoutIdleEnd ps.dropLast with
    | [[]] => some "/"
    | ps => some (String.ofList (Text.join ['/'] ps))

/-- The parts of a path that lead on, where two dots lead back. -/
def resolve (parts : List (List Char)) : List (List Char) :=
  (parts.foldl (fun done part =>
    if isIdle part then done else if part = ['.', '.'] then done.tail else part :: done) []).reverse

end Dialogue.Path
