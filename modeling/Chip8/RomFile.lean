import Chip8.Host
import Chip8.Memory
import Chip8.Path

/-!
# Program files

A program file holds the bytes of a program and nothing else.  `RomFile.read` refuses a file that
is missing or empty, and reports what it read; a file that holds more than fits into memory is
reported too, but not refused.
-/

namespace Chip8

/-- Why a program file cannot be used. -/
inductive RomFault where
  /-- There is no such file. -/
  | missing (path : String)
  /-- The file has no bytes. -/
  | empty (path : String)
  deriving DecidableEq, Repr

/-- The wording of a fault. -/
def RomFault.message : RomFault → String
  | missing path => Path.missingText path
  | empty path => "ROM file is empty: " ++ path

namespace RomFile

/-- What is reported about a file that can be used. -/
def reports (path : String) (data : Bytes) : List Event :=
  let name := Path.baseName path
  (if romSize < data.size then [Event.fileOversized name data.size] else []) ++
    [.fileRead name data.size]

/-- The bytes of a program file, given the contents of the file if it exists. -/
def read (path : String) : Option Bytes → Except RomFault Bytes
  | none => .error (.missing (Path.normalize path))
  | some data =>
    if data.isEmpty then .error (.empty (Path.normalize path)) else .ok data

end RomFile

end Chip8
