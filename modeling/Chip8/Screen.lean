import Chip8.Color
import Chip8.Digit
import Chip8.Memory

/-!
# The screen

Sixty-four by thirty-two cells, row by row from the top.  Each cell holds a colour, and a pixel
is lit when its colour is the current foreground.  `Screen.drawByte` combines eight bits with
eight cells by exclusive or; `Screen.setForeground` and `Screen.setBackground` repaint the cells
which had the old colour.

A drawing position may lie outside the rows: a negative position counts from the last cell
backwards, so `Screen.cell?` reaches every cell a second time, and fails beyond that.
-/

namespace Chip8

/-- The number of pixels in a row. -/
def screenWidth : Nat := 64

/-- The number of rows. -/
def screenHeight : Nat := 32

/-- The picture: the two colours in use and the colour of each cell. -/
structure Screen where
  foreground : Color
  background : Color
  cells : Vector Color 2048
  deriving DecidableEq

namespace Screen

/-- A screen with every pixel off. -/
def blank (foreground background : Color) : Screen :=
  ⟨foreground, background, Vector.replicate 2048 background⟩

/-- The screen at power-on. -/
def initial : Screen := blank .white .black

/-- A screen whose colours are given by their components. -/
def ofComponents (foreground background : List Int) : Except Fault Screen :=
  return blank (← Color.ofComponents foreground) (← Color.ofComponents background)

/-- The colour of a cell. -/
def cell (s : Screen) (c : Fin 2048) : Color := s.cells.get c

/-- Whether a cell is lit. -/
def isLit (s : Screen) (c : Fin 2048) : Bool := s.cell c == s.foreground

/-- The screen with one cell turned on or off. -/
def setLit (s : Screen) (c : Fin 2048) (on : Bool) : Screen :=
  { s with cells := setEntry s.cells c (if on then s.foreground else s.background) }

/-- The cell at a position; negative positions count backwards from the last cell. -/
def cell? (position : Int) : Option (Fin 2048) :=
  if h : 0 ≤ position ∧ position < 2048 then some ⟨position.toNat, by omega⟩
  else if h : -2048 ≤ position ∧ position < 0 then some ⟨(position + 2048).toNat, by omega⟩
  else none

/-- The low eight bits of a number, the most significant one first. -/
def rowBits (data : Int) : List Bool :=
  (List.range 8).map (BitVec.ofInt 8 data).getMsbD

/-- Combine bits with consecutive cells from a position on; the answer says whether a lit cell
was turned off. -/
def drawBits (position : Int) (hit : Bool) : List Bool → EStateM Fault Screen Bool
  | [] => pure hit
  | bit :: bits => do
    match cell? position with
    | none => throw (.cellOutOfRange position)
    | some c =>
      let lit := (← get).isLit c
      modify fun s => s.setLit c (bit != lit)
      drawBits (position + 1) (hit || (bit && lit)) bits

/-- Combine the low eight bits of a number with the cells of row `y` from column `x` on.  What
would lie beyond the right edge is left out, and so is everything below the last row. -/
def drawByte (x y data : Int) : EStateM Fault Screen Bool :=
  if 32 ≤ y then pure false
  else drawBits (64 * y + x) false ((rowBits data).take (64 - x).toNat)

/-- Every cell that has one colour gets another. -/
def repaint (s : Screen) (old new : Color) : Screen :=
  { s with cells := s.cells.map fun c => if c = old then new else c }

/-- Change the colour of lit pixels. -/
def setForeground (s : Screen) (components : List Int) : Except Fault Screen := do
  let c ← Color.ofComponents components
  return { s.repaint s.foreground c with foreground := c }

/-- Change the colour of unlit pixels. -/
def setBackground (s : Screen) (components : List Int) : Except Fault Screen := do
  let c ← Color.ofComponents components
  return { s.repaint s.background c with background := c }

/-- Turn every pixel off. -/
def clear (s : Screen) : Screen := blank s.foreground s.background

/-- The cell of a point of the screen. -/
def pointCell (x y : Int) : Except Fault (Fin 2048) :=
  if h : 0 ≤ x ∧ x < 64 ∧ 0 ≤ y ∧ y < 32 then .ok ⟨(64 * y + x).toNat, by omega⟩
  else .error (.pixelOutOfBounds x y)

/-- Whether the pixel at a point is lit. -/
def isPixelOn (s : Screen) (x y : Int) : Except Fault Bool :=
  (pointCell x y).map s.isLit

/-- The three component bytes of every cell, row by row. -/
def rgb (s : Screen) : Bytes := (s.cells.toArray.flatMap fun c => c.bytes.toArray)

end Screen

end Chip8
