import Chip8.Machine.Basic
import Chip8.Instruction.Assembly

/-!
# What instructions do

`execute` carries out one instruction.  It changes every part of the machine but the program
counter; where to go on is its answer, an `Outcome`, together with a description of what was done
with the values of the moment.

* An instruction that works on two registers reads both before it writes either, and writes the
  flag register last, so the flag wins when it is also the destination.
* `storeRegisters`, `loadRegisters` and `drawRows` go through memory a byte at a time.  When an
  address is out of bounds, what was done for the addresses before it stays done.
* A drawing that waits for the start of a picture stalls: nothing is drawn, and the same
  instruction is tried again in the next step.
-/

namespace Chip8

open Text

/-- Where to go on after an instruction. -/
inductive PcUpdate where
  /-- At the next instruction. -/
  | advance
  /-- At the instruction after the next one. -/
  | skip
  /-- At an address. -/
  | jump (target : Int)
  /-- At the same instruction. -/
  | stall
  deriving DecidableEq, Repr

/-- Where to go on, and what was done in words. -/
structure Outcome where
  update : PcUpdate
  display : String
  deriving DecidableEq, Repr

namespace Outcome

/-- Go on at the next instruction. -/
def advance (display : String) : Outcome := ⟨.advance, display⟩

/-- Skip an instruction if a condition holds. -/
def skipIf (condition : Bool) (display : String) : Outcome :=
  ⟨if condition then .skip else .advance, display⟩

/-- Go on at an address. -/
def jump (target : Int) (display : String) : Outcome := ⟨.jump target, display⟩

/-- Try again in the next step. -/
def stall (display : String) : Outcome := ⟨.stall, display⟩

end Outcome

/-- How a truth value is shown. -/
def truthText (b : Bool) : String := if b then "True" else "False"

namespace Action

variable {τ : Type}

/-! ## Arithmetic -/

/-- The low byte of a number. -/
def byteValue (n : Int) : Nat := (n % 256).toNat

/-- Put a result into a register and then a flag into the flag register. -/
def putWithFlag (x : Fin 16) (result : Int) (flag : Int) : Action τ Unit :=
  updateRegisters fun r => (r.put x result).assign Registers.flag flag

/-- Combine two registers bit by bit; the flag is cleared. -/
def bitwise (x y : Fin 16) (name : String) (op : Nat → Nat → Nat) : Action τ Outcome := do
  let r ← registers
  let a := r.get x
  let b := r.get y
  putWithFlag x (op (byteValue a) (byteValue b)) 0
  let vx := registerName x
  return .advance <| s!"Set {vx} to {vx} {name} {registerName y} (" ++ HexForm.pair.write a ++
    s!" {name} " ++ HexForm.pair.write b ++ ")"

/-- Subtract one value from another; the flag is set if nothing had to be borrowed. -/
def subtract (x : Fin 16) (a b : Int) : Action τ Outcome := do
  let flag : Int := if b ≤ a then 1 else 0
  putWithFlag x (a - b) flag
  return .advance s!"Set {registerName x} to ({a} - {b}), VF = {flag}"

/-- The value that a shift works on. -/
def shiftOperand (x y : Fin 16) : Action τ Int := do
  let r ← registers
  if r.shiftSecond then return r.get y % 256 else return r.get x

/-! ## Keys and timers -/

/-- How a skip is described that depends on whether a key is down, or on whether it is up. -/
def skipOnKeyText (down : Bool) (key : Int) (met : Bool) : String :=
  "Skip next instr if key " ++ HexForm.bare.write key ++
    (if down then " pressed (" else " not pressed (") ++ truthText met ++ ")"

/-- Skip an instruction if the key that a register names is down, or if it is up. -/
def skipOnKey (down : Bool) (x : Fin 16) : Action τ Outcome := do
  let key := (← registers).get x
  let met := (← isPressed key) == down
  return .skipIf met (skipOnKeyText down key met)

/-- Set a timer to the value of a register. -/
def startTimer (t : Clock.Timer) (x : Fin 16) : Action τ Outcome := do
  let a := (← registers).get x
  setTimer t a
  return .advance s!"Set {t.name} timer to {registerName x} ({a})"

/-! ## Registers and memory -/

/-- The registers up to a register, that one included. -/
def registersUpTo (x : Fin 16) : List (Fin 16) := (List.finRange 16).take (x.val + 1)

/-- Write registers to consecutive cells from the index register on, moving it along. -/
def storeRegisters : List (Fin 16) → Action τ Unit
  | [] => pure ()
  | x :: xs => do
    let r ← registers
    write r.index (r.get x)
    updateRegisters fun r => { r with index := r.index + 1 }
    storeRegisters xs

/-- Read registers from consecutive cells from the index register on, moving it along. -/
def loadRegisters : List (Fin 16) → Action τ Unit
  | [] => pure ()
  | x :: xs => do
    let data ← read (← registers).index
    updateRegisters fun r => { r.put x data.toNat with index := r.index + 1 }
    loadRegisters xs

/-! ## Drawing -/

/-- Whether a picture has started since the drawing began to wait.  The clock is given one more
chance to tick, unless a drawing that was waiting already has seen the tick of this step. -/
def blankSeen [TimeScale τ] : Action τ Bool := do
  let m ← machine
  if m.registers.awaitingBlank && m.clock.vblank then return true
  tick
  return (← machine).clock.vblank

/-- Draw rows of a sprite below each other; the answer says whether a lit pixel was turned off. -/
def drawRows (x y address : Int) (hit : Bool) : Nat → Action τ Bool
  | 0 => pure hit
  | rows + 1 => do
    let data ← read address
    let h ← onScreen (Screen.drawByte x y data.toNat)
    drawRows x (y + 1) (address + 1) (h || hit) rows

/-- Draw a sprite at the point which two registers give, taken modulo the size of the screen. -/
def drawSprite (x y : Fin 16) (rows : Nat) : Action τ Outcome := do
  updateRegisters fun r => { r with awaitingBlank := false }
  let r ← registers
  let column := r.get x % 64
  let row := r.get y % 32
  let hit ← drawRows column row r.index false rows
  updateRegisters fun r => r.assign Registers.flag (if hit then 1 else 0)
  return .advance <| s!"Draw {rows} byte sprite from addr " ++ HexForm.address.write r.index ++
    s!" at point ({column}, {row})"

/-- Whether a drawing has to wait.  The clock is left alone when drawing never waits. -/
def mustWait [TimeScale τ] : Action τ Bool := do
  if (← registers).drawOnBlank then return !(← blankSeen)
  return false

/-- Draw a sprite, or wait if that has to wait. -/
def draw [TimeScale τ] (x y : Fin 16) (rows : Nat) : Action τ Outcome := do
  if ← mustWait then
    updateRegisters fun r => { r with awaitingBlank := true }
    return .stall "Waiting for vblank"
  drawSprite x y rows

/-! ## All instructions -/

/-- Carry out one instruction. -/
def execute [TimeScale τ] : Instruction → Action τ Outcome
  | .clear => do
    clearScreen
    return .advance "Clear the screen"
  | .ret => do
    let address ← onRegisters Registers.pop
    return .jump address ("Return to addr " ++ HexForm.address.write address)
  | .jump target => return .jump target.val ("Jump to addr " ++ HexForm.address.write target.val)
  | .call target => do
    let r ← registers
    onRegisters (Registers.push (r.pc + 2))
    return .jump target.val ("Call subroutine at " ++ HexForm.address.write target.val)
  | .skipEqual x byte => do
    let a := (← registers).get x
    return .skipIf (a == byte.val)
      s!"If {registerName x} ({a}) == {byte.val}, skip next instr"
  | .skipUnequal x byte => do
    let a := (← registers).get x
    return .skipIf (a != byte.val)
      s!"If {registerName x} ({a}) != {byte.val}, skip next instr"
  | .skipSame x y => do
    let r ← registers
    return .skipIf (r.get x == r.get y)
      s!"If {registerName x} ({r.get x}) == {registerName y} ({r.get y}), skip next instr"
  | .skipDifferent x y => do
    let r ← registers
    return .skipIf (r.get x != r.get y)
      s!"If {registerName x} ({r.get x}) != {registerName y} ({r.get y}), skip next instr"
  | .setByte x byte => do
    updateRegisters fun r => r.put x byte.val
    return .advance s!"Set {registerName x} to {byte.val}"
  | .addByte x byte => do
    updateRegisters fun r => r.put x (r.get x + byte.val)
    return .advance s!"Add {byte.val} to {registerName x}"
  | .copy x y => do
    updateRegisters fun r => r.put x (r.get y)
    let r ← registers
    return .advance s!"Set {registerName x} to {registerName y} ({r.get y})"
  | .bitOr x y => bitwise x y "OR" (· ||| ·)
  | .bitAnd x y => bitwise x y "AND" (· &&& ·)
  | .bitXor x y => bitwise x y "XOR" (· ^^^ ·)
  | .add x y => do
    let r ← registers
    let a := r.get x
    let b := r.get y
    let carry : Int := if 255 < a + b then 1 else 0
    putWithFlag x (a + b) carry
    return .advance s!"Set {registerName x} to ({a} + {b}), VF = {carry}"
  | .sub x y => do
    let r ← registers
    subtract x (r.get x) (r.get y)
  | .subFrom x y => do
    let r ← registers
    subtract x (r.get y) (r.get x)
  | .shiftRight x y => do
    let a ← shiftOperand x y
    let out := a % 2
    putWithFlag x (a / 2) out
    return .advance s!"{registerName x} shifted one right, VF = {out}"
  | .shiftLeft x y => do
    let a ← shiftOperand x y
    let out := a / 128 % 2
    putWithFlag x (a * 2) out
    return .advance s!"{registerName x} shifted one left, VF = {out}"
  | .setIndex address => do
    updateRegisters fun r => { r with index := address.val }
    return .advance ("Set I register to " ++ HexForm.address.write address.val)
  | .jumpOffset base => do
    let offset := (← registers).get Digit.first
    return .jump (base.val + offset)
      ("Jump to " ++ HexForm.address.write base.val ++ " + " ++ HexForm.byte.write offset)
  | .random x mask => do
    let byte ← randomByte
    updateRegisters fun r => r.put x (byteValue byte &&& mask.val : Nat)
    return .advance
      (s!"Set {registerName x} to {byte} [rand] AND " ++ HexForm.byte.write mask.val)
  | .draw x y rows => draw x y rows.val
  | .skipPressed x => skipOnKey true x
  | .skipReleased x => skipOnKey false x
  | .getDelay x => do
    let delay := (← machine).clock.delay.toNat
    updateRegisters fun r => r.put x delay
    return .advance s!"Set {registerName x} to delay timer {delay}"
  | .awaitKey x => do
    requestKey x.val
    return .advance s!"Store next key press in {registerName x}"
  | .setDelay x => startTimer .delay x
  | .setSound x => startTimer .sound x
  | .addIndex x => do
    updateRegisters fun r => { r with index := (r.index + r.get x) % 65536 }
    return .advance s!"Set I to I + {registerName x}"
  | .glyph x => do
    let digit := (← registers).get x
    updateRegisters fun r => { r with index := glyphHeight * digit }
    return .advance s!"Set I to addr of sprite digit {digit}"
  | .decimal x => do
    let r ← registers
    let value := r.get x
    write r.index (value / 100 % 10)
    write (r.index + 1) (value / 10 % 10)
    write (r.index + 2) (value % 10)
    return .advance s!"Store BCD of {value} starting at I"
  | .store x => do
    storeRegisters (registersUpTo x)
    return .advance s!"Store V0 to {registerName x} starting at I"
  | .load x => do
    loadRegisters (registersUpTo x)
    return .advance s!"Read memory at I into V0 to {registerName x}"
  | .undefined word => do
    note (.undefinedInstruction word (← registers).pc)
    return .advance "Invalid Instruction"

end Action

end Chip8
