import Chip8.Config.Document
import Chip8.Text.Utf8
import Chip8.Yaml.Document

/-!
# Documents for the console

`Yaml.host` is what the console reads its configuration files with.  It knows the part of the format
that configurations are written in: block and flow collections, comments, and plain and quoted
scalars.  Anchors, tags and block scalars are refused.
-/

namespace Chip8.Yaml

open Text

/-- What is wrong with a document, as the fault of a loader.  What breaks the rules of the format is
not said. -/
def LoadError.fault : LoadError → LoadFault
  | notDocument _ => .malformed "<yaml>"
  | integerText reason => .refused reason.message

/-- The value of the document in a file. -/
def loadFile (bytes : Bytes) : Except LoadFault Value :=
  match decodeUtf8 bytes with
  | .error reason => .error (.refused reason.message)
  | .ok text => (load text).mapError LoadError.fault

/-- The documents of the console. -/
def host : DocumentHost := ⟨loadFile, 900⟩

end Chip8.Yaml
