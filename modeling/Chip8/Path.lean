import Chip8.Text.Quoted

/-!
# Paths

The names of files as they are shown: a path without its idle parts, the last part of a path, and
the words for a file that is not there.
-/

namespace Chip8

namespace Path

/-- The parts of a path that lead somewhere else. -/
def parts (path : String) : List String :=
  (path.splitOn "/").filter fun p => p != "" && p != "."

/-- A path without empty parts and parts that stand for the same directory. -/
def normalize (path : String) : String :=
  let relative := String.intercalate "/" (parts path)
  if path.startsWith "/" then "/" ++ relative
  else if relative.isEmpty then "." else relative

/-- The last part of a path. -/
def baseName (path : String) : String := (parts path).getLast?.getD ""

/-- How a file that does not exist is reported. -/
def missingText (path : String) : String :=
  "[Errno 2] No such file or directory: " ++ Text.quoted path

end Path

end Chip8
