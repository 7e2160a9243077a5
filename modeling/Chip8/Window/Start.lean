import Chip8.CommandLine
import Chip8.Window.Control

/-!
# Starting with a window

`Options.start` opens the window that a command line asks for.  Files are given as a function from
paths to contents, and documents are read by a `DocumentHost`; the configuration is read before the
window is there, and the program after.  A file with an empty path is not asked for.
-/

namespace Chip8.Options

variable {τ : Type}

/-- A path that was given and is not empty. -/
def path? (given : Option String) : Option String := given.filter fun path => path != ""

/-- The configuration that is asked for. -/
def readConfig (o : Options) (documents : DocumentHost) (read : String → Option Bytes) :
    Except WindowFault Config :=
  match path? o.config with
  | none => .ok .default
  | some path => (Config.ofFile documents (read path)).mapError .config

/-- The window that is asked for. -/
def start (o : Options) (documents : DocumentHost) (read : String → Option Bytes) (fonts : FontSet)
    (host : Host τ) : Except WindowFault (Window τ) := do
  let config ← o.readConfig documents read
  let window ← Window.create config fonts host
  match path? o.rom with
  | none => return window
  | some path =>
    match Window.loadRom path (read path) window with
    | .ok _ window => return window
    | .error f _ => throw f

end Chip8.Options
