import Chip8.Config.Basic
import Chip8.Config.Value
import Chip8.Text.Integer
import Chip8.Text.UpperCase

/-!
# Reading a configuration

`Config.ofValue` makes a configuration of a value: a mapping with the sections `quirks`, `display`,
`timing` and `keymap`.  What a section leaves out keeps its default, a section that does not count
as true is left out, and names that mean nothing are passed over.

Integers may be written as numbers or as texts, in base ten or after `0x` in base sixteen; colours
as six digits in base sixteen or as three integers.  A name of a key may be any value that has a
text.  The first thing that is wrong, in the order options, colours, scale, speed, keys, is the
answer of the reader.
-/

namespace Chip8

open Text

/-- Why a value is no configuration. -/
inductive ConfigFault where
  /-- The whole document is not a mapping. -/
  | rootNotMapping (kind : String)
  /-- A section is not a mapping. -/
  | sectionNotMapping
  /-- A colour is neither six digits nor three bytes. -/
  | invalidColor (value : Value)
  /-- An integer is neither a number nor a text. -/
  | invalidInteger (value : Value)
  /-- The text of an integer does not spell one. -/
  | integerText (reason : IntegerError)
  /-- A size or a speed is not positive. -/
  | notPositive (name : String) (value : Value)
  /-- A key is mapped to a code that the keypad does not have. -/
  | codeOutOfRange (key code : Value)
  /-- The name of a key has no text. -/
  | unwritableName (key : Value)

namespace ConfigFault

/-- The values that the wording of a fault quotes. -/
def quotes : ConfigFault → List Value
  | invalidColor value => [value]
  | invalidInteger value => [value]
  | notPositive _ value => [value]
  | codeOutOfRange key code => [key, code]
  | _ => []

/-- The wording of a fault whose values have texts; empty for a section that is not a mapping. -/
def wording : ConfigFault → String
  | rootNotMapping kind => s!"Config root must be a mapping, got {kind}"
  | sectionNotMapping => ""
  | invalidColor value => "Invalid color format: " ++ value.display
  | invalidInteger value => "Invalid integer format: " ++ value.display
  | integerText reason => reason.message
  | notPositive name value => s!"{name} must be a positive integer: " ++ value.display
  | codeOutOfRange key code =>
    s!"Keypad code for '{key.display}' out of range 0-F: {code.display}"
  | unwritableName _ => Value.Obstacle.tooLong.message

/-- The first obstacle to the wording of a fault, with room for a number of levels of nesting. -/
def obstacle? (room : Nat) (fault : ConfigFault) : Option Value.Obstacle :=
  fault.quotes.findSome? fun v => v.obstacle? room

/-- What is said of a fault. -/
def message (room : Nat) (fault : ConfigFault) : String :=
  match fault.obstacle? room with
  | none => fault.wording
  | some reason => reason.message

/-- Whether a fault is told as a fault of the value.  A section that is not a mapping is not, nor is
a fault whose wording has no room. -/
def isForeseen (room : Nat) : ConfigFault → Bool
  | sectionNotMapping => false
  | fault => fault.obstacle? room != some .tooDeep

end ConfigFault

namespace Rgb

/-- Two digits of a colour; any text of two characters that spells an integer will do. -/
def readPair (cs : List Char) : Except ConfigFault Int :=
  (readInteger 16 (String.ofList cs)).mapError .integerText

/-- The colour that a text spells: blank space at the ends and marks in front do not count, and
six characters have to remain. -/
def ofHex (s : String) : Except ConfigFault Rgb :=
  match (strip s.toList).dropWhile (· = '#') with
  | [a, b, c, d, e, f] =>
    return ⟨← readPair [a, b], ← readPair [c, d], ← readPair [e, f]⟩
  | _ => .error (.invalidColor (.text s))

end Rgb

namespace Config

/-- A section of a configuration, as the entries of a mapping. -/
abbrev Entries := List (Value × Value)

/-- Whether a text starts with the mark of base sixteen. -/
def hasHexMark (s : String) : Bool :=
  match s.toList with
  | '0' :: x :: _ => x == 'x' || x == 'X'
  | _ => false

/-- The integer that a value stands for. -/
def readInt : Value → Except ConfigFault Int
  | .int n => .ok n
  | .text s => (readInteger (if hasHexMark s then 16 else 10) s).mapError .integerText
  | v => .error (.invalidInteger v)

/-- A positive integer; the name is what the message calls it. -/
def readPositive (name : String) (v : Value) : Except ConfigFault Int := do
  let n ← readInt v
  if n ≤ 0 then throw (.notPositive name v)
  return n

/-- Whether a number fits into a byte. -/
def isByte (n : Int) : Bool := 0 ≤ n && n ≤ 255

/-- The colour that a value stands for. -/
def readColor : Value → Except ConfigFault Rgb
  | .text s => Rgb.ofHex s
  | .list [r, g, b] => do
    let c : Rgb := ⟨← readInt r, ← readInt g, ← readInt b⟩
    if c.components.all isByte then return c
    throw (.invalidColor (.list [r, g, b]))
  | v => .error (.invalidColor v)

/-- The entries of a section, which may be left out. -/
def readSection : Option Value → Except ConfigFault Entries
  | none => .ok []
  | some v =>
    if !v.isTruthy then .ok []
    else match v with
      | .map entries => .ok entries
      | _ => .error .sectionNotMapping

/-- An entry of a section, or a default. -/
def readOr {α : Type} (entries : Entries) (name : String) (default : α)
    (read : Value → Except ConfigFault α) : Except ConfigFault α :=
  match Value.get? entries name with
  | none => .ok default
  | some v => read v

/-- A choice that any value makes. -/
def readChoice (entries : Entries) (name : String) : Bool :=
  ((Value.get? entries name).map Value.isTruthy).getD false

/-- The keys of a keymap, added to those before them. -/
def readKeys (keymap : Keymap) : Entries → Except ConfigFault Keymap
  | [] => .ok keymap
  | (key, code) :: rest => do
    let n ← readInt code
    if n < 0 ∨ 15 < n then throw (.codeOutOfRange key code)
    else if !key.isWritable then throw (.unwritableName key)
    else readKeys (keymap.insert (upper key.display) n) rest

/-- A keymap, which replaces the default one as a whole. -/
def readKeymap : Option Value → Except ConfigFault Keymap
  | none => .ok .default
  | some .null => .ok .default
  | some (.map entries) => readKeys [] entries
  | some _ => .error .sectionNotMapping

/-- The configuration that a value stands for. -/
def ofValue : Value → Except ConfigFault Config
  | .map data => do
    let options ← readSection (Value.get? data "quirks")
    let display ← readSection (Value.get? data "display")
    let foreground ← readOr display "foreground" default.foreground readColor
    let background ← readOr display "background" default.background readColor
    let scale ← readOr display "scale" default.scale (readPositive "display.scale")
    let timing ← readSection (Value.get? data "timing")
    let instructions ← readOr timing "instructions_per_frame" default.instructionsPerFrame
      (readPositive "timing.instructions_per_frame")
    let interval ← readOr timing "frame_interval_ms" default.frameInterval
      (readPositive "timing.frame_interval_ms")
    let keymap ← readKeymap (Value.get? data "keymap")
    return { shiftSecond := readChoice options "shift_quirk"
             drawOnBlank := readChoice options "vblank_wait"
             foreground := foreground
             background := background
             scale := scale
             instructionsPerFrame := instructions
             frameInterval := interval
             keymap := keymap }
  | v => .error (.rootNotMapping v.kindName)

end Config

end Chip8
