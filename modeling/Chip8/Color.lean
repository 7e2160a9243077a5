import Chip8.Fault

/-!
# Colours

A colour that the screen can show has three byte components.  `Color.ofComponents` is the only
way to make one from numbers, and it refuses all other lists: first a list that has not exactly
three components, then the first component that is not a byte.
-/

namespace Chip8

/-- A colour of the screen. -/
structure Color where
  red : UInt8
  green : UInt8
  blue : UInt8
  deriving DecidableEq, Repr, Inhabited

namespace Color

/-- The colour of lit pixels at power-on. -/
def white : Color := ⟨255, 255, 255⟩

/-- The colour of unlit pixels at power-on. -/
def black : Color := ⟨0, 0, 0⟩

/-- A number that a component can hold. -/
def component (c : Int) : Except Fault UInt8 :=
  if 0 ≤ c ∧ c ≤ 255 then .ok (UInt8.ofNat c.toNat) else .error (.componentNotByte c)

/-- The colour with the given components. -/
def ofComponents : List Int → Except Fault Color
  | [r, g, b] => return ⟨← component r, ← component g, ← component b⟩
  | cs => .error (.componentCount cs.length)

/-- The components, red first. -/
def bytes (c : Color) : List UInt8 := [c.red, c.green, c.blue]

end Color

end Chip8
