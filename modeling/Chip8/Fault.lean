import Chip8.Text.Radix

/-!
# Faults of the machine

`Fault` lists every way in which an operation on the machine or on its display can fail, with the
value that was refused.  `Fault.name` is the kind of failure that it is reported as, and
`Fault.message` is the wording.
-/

namespace Chip8

open Text

/-- Why an operation on the machine failed. -/
inductive Fault where
  /-- An address that memory does not have. -/
  | addressOutOfBounds (address : Int)
  /-- A point that the screen does not have. -/
  | pixelOutOfBounds (x y : Int)
  /-- A key number that the keypad does not have. -/
  | keyOutOfRange (key : Int)
  /-- A register number that a key wait cannot name. -/
  | waitOutOfRange (register : Int)
  /-- A register number that the register file does not have. -/
  | registerOutOfRange (index : Int)
  /-- A call with every stack slot taken. -/
  | stackOverflow (pc : Int)
  /-- A return with no call to return from. -/
  | stackUnderflow (pc : Int)
  /-- A value that does not fit into a memory cell. -/
  | dataNotByte (data : Int)
  /-- A dump of fewer than no cells. -/
  | negativeLength (length : Int)
  /-- A value that does not fit into a timer. -/
  | timerNotByte (value : Int)
  /-- A colour component that does not fit into a byte. -/
  | componentNotByte (component : Int)
  /-- A colour with some other number of components than three. -/
  | componentCount (count : Nat)
  /-- A drawing position outside the cells of the screen. -/
  | cellOutOfRange (cell : Int)
  /-- A stack slot to write to that the stack does not have. -/
  | pushOutOfRange (slot : Int)
  /-- A stack slot to read from that the stack does not have. -/
  | popOutOfRange (slot : Int)
  /-- A picture with some other number of bytes than the screen has. -/
  | pictureSize (size : Nat)
  deriving DecidableEq, Repr

namespace Fault

/-- The kind of failure that a fault is reported as. -/
def name : Fault → String
  | addressOutOfBounds _ => "BoundsViolationError"
  | pixelOutOfBounds .. => "BoundsViolationError"
  | keyOutOfRange _ => "BoundsViolationError"
  | waitOutOfRange _ => "BoundsViolationError"
  | registerOutOfRange _ => "BoundsViolationError"
  | stackOverflow _ => "StackOverflowError"
  | stackUnderflow _ => "StackUnderflowError"
  | dataNotByte _ => "ValueError"
  | negativeLength _ => "ValueError"
  | timerNotByte _ => "ValueError"
  | componentNotByte _ => "ValueError"
  | pictureSize _ => "ValueError"
  | componentCount _ => "TypeError"
  | cellOutOfRange _ => "IndexError"
  | pushOutOfRange _ => "IndexError"
  | popOutOfRange _ => "IndexError"

/-- Whether a fault is about a value that cannot be used. -/
def isValueFault (f : Fault) : Bool := f.name == "ValueError"

/-- The wording of a fault. -/
def message : Fault → String
  | addressOutOfBounds a =>
    "Address " ++ HexForm.address.write a ++ " out of bounds for memory of size 4096."
  | pixelOutOfBounds x y => s!"Pixel ({x}, {y}) out of bounds for 64x32 display."
  | keyOutOfRange k => s!"Key {k} out of range 0-15."
  | waitOutOfRange r => s!"Register {r} out of range 0-15."
  | registerOutOfRange i => s!"Register V{i} out of range V0-VF."
  | stackOverflow pc => "Call stack overflow at PC " ++ HexForm.address.write pc ++ " (depth 16)."
  | stackUnderflow pc =>
    "Return with empty call stack at PC " ++ HexForm.address.write pc ++ "."
  | dataNotByte d => s!"Data {d} is not an 8-bit value."
  | negativeLength n => s!"Length {n} must not be negative."
  | timerNotByte v => s!"Timer value {v} is not an 8-bit value."
  | componentNotByte c => s!"Color component {c} is not an 8-bit value."
  | componentCount n => s!"A color has 3 components, not {n}."
  | cellOutOfRange _ => "list index out of range"
  | pushOutOfRange _ => "list assignment index out of range"
  | popOutOfRange _ => "list index out of range"
  | pictureSize n => s!"Frame must be 6144 bytes, got {n}"

end Fault

end Chip8
