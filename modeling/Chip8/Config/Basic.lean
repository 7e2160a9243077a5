import Chip8.Machine.Step

/-!
# Configurations

A configuration chooses the two options of the processor, the two colours of the picture, how
large it is shown, how fast the machine runs, and which keys of the host stand for which keys of
the keypad.  `Config.default` is what holds without a document, and `Config.apply` puts the part
that concerns a machine into effect, one choice after the other.
-/

namespace Chip8

/-- A colour as it is written down.  The screen takes it only if every component is a byte. -/
structure Rgb where
  red : Int
  green : Int
  blue : Int
  deriving DecidableEq, Repr

/-- The components, red first. -/
def Rgb.components (c : Rgb) : List Int := [c.red, c.green, c.blue]

/-- Names of host keys and the keypad codes they stand for, in the order in which the names were
first given. -/
abbrev Keymap := List (String × Int)

namespace Keymap

/-- The keymap with a name standing for a code; a name that is there already keeps its place. -/
def insert (name : String) (code : Int) : Keymap → Keymap
  | [] => [(name, code)]
  | (n, c) :: rest => if n = name then (n, code) :: rest else (n, c) :: insert name code rest

/-- The keypad in the left half of the keyboard, four rows of four. -/
def default : Keymap :=
  [("1", 0x1), ("2", 0x2), ("3", 0x3), ("4", 0xC),
   ("Q", 0x4), ("W", 0x5), ("E", 0x6), ("R", 0xD),
   ("A", 0x7), ("S", 0x8), ("D", 0x9), ("F", 0xE),
   ("Z", 0xA), ("X", 0x0), ("C", 0xB), ("V", 0xF)]

theorem lookup_insert (name other : String) (code : Int) (m : Keymap) :
    (insert name code m).lookup other = if other = name then some code else m.lookup other := by
  induction m with
  | nil => simp [insert, List.lookup_cons]; split <;> simp_all
  | cons e rest ih =>
    obtain ⟨n, c⟩ := e
    by_cases h : n = name
    · subst h
      by_cases h' : other = n
      · simp [insert, h']
      · simp [insert, List.lookup_cons, h', beq_false_of_ne h']
    · by_cases h' : other = n
      · subst h'; simp [insert, h]
      · simp [insert, List.lookup_cons, h, beq_false_of_ne h', ih]

end Keymap

/-- All choices of a configuration. -/
structure Config where
  shiftSecond : Bool
  drawOnBlank : Bool
  foreground : Rgb
  background : Rgb
  /-- The side of a pixel on the host's display. -/
  scale : Int
  /-- The number of instructions between two pictures. -/
  instructionsPerFrame : Int
  /-- The time between two pictures, in milliseconds. -/
  frameInterval : Int
  keymap : Keymap
  deriving DecidableEq, Repr

namespace Config

/-- The configuration without a document. -/
def default : Config :=
  ⟨false, false, ⟨255, 255, 255⟩, ⟨0, 0, 0⟩, 10, 10, 16, .default⟩

/-- Put a configuration into effect on a machine. -/
def apply {τ : Type} (c : Config) : Action τ Unit := do
  Action.setShiftSecond c.shiftSecond
  Action.setDrawOnBlank c.drawOnBlank
  Action.setForeground c.foreground.components
  Action.setBackground c.background.components

end Config

end Chip8
