import Chip8.Digit

/-!
# The keypad

Sixteen keys that are up or down, and the wait for a key.  `Keypad.request` starts a wait for a
register; the next key that goes down while the wait lasts ends it and leaves a `KeyPress`, which
`Keypad.take` hands out once.  A key that goes up, or is reported down a second time, ends no
wait.
-/

namespace Chip8

/-- A key that ended a wait, and the register that was waiting. -/
structure KeyPress where
  key : Fin 16
  register : Fin 16
  deriving DecidableEq, Repr

/-- The state of the keys and of the wait. -/
structure Keypad where
  /-- Which keys are down. -/
  down : Vector Bool 16
  /-- Whether a wait is going on. -/
  waiting : Bool
  /-- The register that waited last. -/
  register : Fin 16
  /-- The key that ended a wait, until it is taken. -/
  response : Option KeyPress
  deriving DecidableEq

namespace Keypad

/-- Every key up, and no wait. -/
def initial : Keypad := ⟨Vector.replicate 16 false, false, Digit.first, none⟩

/-- A number below sixteen, or else the given fault. -/
def index (n : Int) (fault : Int → Fault) : Except Fault (Fin 16) := Digit.require fault n

/-- Whether a key is down. -/
def isDown (k : Keypad) (key : Fin 16) : Bool := k.down.get key

/-- Take note of a key going down or up. -/
def press (k : Keypad) (key : Fin 16) (pressed : Bool) : Keypad :=
  if k.isDown key = pressed then k
  else
    let k := { k with down := setEntry k.down key pressed }
    if pressed && k.waiting then
      { k with waiting := false, response := some ⟨key, k.register⟩ }
    else k

/-- The key press by which an event ends the wait, if it does. -/
def resolved? (k : Keypad) (key : Fin 16) (pressed : Bool) : Option KeyPress :=
  if pressed && !k.isDown key && k.waiting then some ⟨key, k.register⟩ else none

/-- Start to wait for a key on behalf of a register. -/
def await (k : Keypad) (register : Fin 16) : Keypad :=
  { k with waiting := true, register := register }

/-- Start to wait for a key on behalf of a register, which has to exist. -/
def request (k : Keypad) (register : Int) : Except Fault Keypad :=
  (index register .waitOutOfRange).map k.await

/-- Whether a key is down; the key has to exist. -/
def isPressed (k : Keypad) (key : Int) : Except Fault Bool :=
  (index key .keyOutOfRange).map k.isDown

/-- Hand out the key press that ended a wait. -/
def take (k : Keypad) : Option KeyPress × Keypad :=
  (k.response, { k with response := none })

/-- The numbers of the keys that are down, in order. -/
def keysDown (k : Keypad) : List (Fin 16) := (List.finRange 16).filter k.isDown

end Keypad

end Chip8
