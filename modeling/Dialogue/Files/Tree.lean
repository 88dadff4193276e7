import Dialogue.Fields
import Dialogue.Files.Path

/-!
# Trees of files

A tree holds the contents of files under their paths. A directory is there as far as the files in it
need it, and can be made wherever no file is in the way.
-/

namespace Dialogue

/-- Files with their contents. -/
structure FileTree where
  files : Fields String
  deriving DecidableEq, Repr

namespace FileTree

/-- The place of a path in the tree. -/
def place (path : String) : List (List Char) := Path.resolve (Path.parts path)

/-- The contents of the file at a path. -/
def read? (t : FileTree) (path : String) : Option String :=
  (t.files.find? fun file => place file.1 == place path).map (·.2)

/-- Whether a file is at a place. -/
def holds (t : FileTree) (spot : List (List Char)) : Bool :=
  t.files.any fun file => place file.1 == spot

/-- Whether there is a directory with a file somewhere below it. -/
def isDirectory (t : FileTree) (path : String) : Bool :=
  t.files.any fun file => (place path).isPrefixOf (place file.1) && place file.1 != place path

/-- The files in a directory, not those further below, under their paths. -/
def within (t : FileTree) (directory : String) : Fields String :=
  t.files.filter fun file => !(place file.1).isEmpty && (place file.1).dropLast == place directory

/-- Whether a directory is there or can be made: no file is in the way. -/
def canMake (t : FileTree) (directory : String) : Bool :=
  let parts := Path.parts directory
  (List.range (parts.length + 1)).all fun n => !t.holds (Path.resolve (parts.take n))

end FileTree

end Dialogue
