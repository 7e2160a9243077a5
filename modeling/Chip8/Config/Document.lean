import Chip8.Config.Reading
import Chip8.Memory
import Chip8.Path

/-!
# Configuration files

`Config.ofFile` reads a configuration from the contents of a file.  What the file spells is not
decided here: a `DocumentHost` brings the loader of documents along, of which nothing is assumed.  A
value that does not count as true chooses nothing and gives the default configuration.
-/

namespace Chip8

/-- Why the contents of a file have no value. -/
inductive LoadFault where
  /-- They are no document. -/
  | malformed (text : String)
  /-- They are no text, or something in the document spells a value that there is not. -/
  | refused (text : String)
  /-- The loader fails in a way of its own. -/
  | unforeseen (text : String)

namespace LoadFault

/-- What is said of a fault, in the words of the loader. -/
def message : LoadFault → String
  | malformed text => text
  | refused text => text
  | unforeseen text => text

/-- Whether a fault is told as a fault of the file. -/
def isForeseen : LoadFault → Bool
  | unforeseen _ => false
  | _ => true

end LoadFault

/-- What the reader of configuration files needs from outside. -/
structure DocumentHost where
  /-- The value that the contents of a file spell. -/
  load : Bytes → Except LoadFault Value
  /-- How many levels of nesting there is room for when a value is quoted. -/
  room : Nat

/-- Why a file is no configuration. -/
inductive ConfigFileFault where
  /-- There is no such file. -/
  | missing
  /-- The contents have no value. -/
  | document (reason : LoadFault)
  /-- The value is no configuration. -/
  | config (reason : ConfigFault)

namespace ConfigFileFault

/-- The wording of a fault with the file at a path. -/
def message (room : Nat) (path : String) : ConfigFileFault → String
  | missing => Path.missingText path
  | document reason => reason.message
  | config reason => reason.message room

/-- Whether a fault is told as a fault of the file. -/
def isForeseen (room : Nat) : ConfigFileFault → Bool
  | missing => true
  | document reason => reason.isForeseen
  | config reason => reason.isForeseen room

end ConfigFileFault

namespace Config

/-- The configuration in a file, which may be missing. -/
def ofFile (host : DocumentHost) : Option Bytes → Except ConfigFileFault Config
  | none => .error .missing
  | some bytes => do
    let value ← (host.load bytes).mapError .document
    (ofValue (if value.isTruthy then value else .map [])).mapError .config

end Config

end Chip8
