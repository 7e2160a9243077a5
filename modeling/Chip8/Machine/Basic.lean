import Chip8.Registers
import Chip8.Memory
import Chip8.Screen
import Chip8.Clock
import Chip8.Keypad
import Chip8.Host

/-!
# The machine

The parts of the machine in one structure, and `Action`, what can be done with a machine that
runs on a host.  An action may fail, and what it did before it failed stays done; so a failed
action has a state as well as a fault.

Reading and writing memory through `Action.read` and `Action.write` leaves an `Access` behind,
while `Action.peek` does not.
-/

namespace Chip8

/-- One access to a memory cell. -/
inductive Access where
  | read (address : Fin 4096) (data : UInt8)
  | write (address : Fin 4096) (data previous : UInt8)
  deriving DecidableEq, Repr

/-- An instruction that was carried out: where it stood, its word, and what it did in words. -/
structure TraceEntry where
  address : Int
  word : Int
  display : String
  deriving DecidableEq, Repr

/-- The number of instructions that the trace remembers. -/
def traceLength : Nat := 100

/-- The parts of the machine. -/
structure Machine (τ : Type) where
  registers : Registers
  memory : Memory
  screen : Screen
  clock : Clock τ
  keypad : Keypad
  /-- The accesses to memory since they were last taken, in order. -/
  accesses : Array Access
  /-- The instructions carried out last, the newest first. -/
  trace : List TraceEntry

/-- A machine and the host that it runs on. -/
structure System (τ : Type) where
  machine : Machine τ
  host : Host τ

/-- What can be done with a machine on a host. -/
abbrev Action (τ : Type) := EStateM Fault (System τ)

namespace Machine

/-- A machine at power-on. -/
def powerOn {τ : Type} (now : τ) : Machine τ :=
  ⟨.initial, .blank, .initial, .start now, .initial, #[], []⟩

/-- Put an instruction in front of the trace; beyond a hundred the oldest ones are forgotten. -/
def remember {τ : Type} (m : Machine τ) (e : TraceEntry) : Machine τ :=
  { m with trace := (e :: m.trace).take traceLength }

end Machine

namespace Action

variable {τ : Type}

/-- Look at the machine. -/
def machine : Action τ (Machine τ) := return (← get).machine

/-- Look at the registers. -/
def registers : Action τ Registers := return (← machine).registers

/-- Change the machine. -/
def update (f : Machine τ → Machine τ) : Action τ Unit :=
  modify fun s => { s with machine := f s.machine }

/-- Change the registers. -/
def updateRegisters (f : Registers → Registers) : Action τ Unit :=
  update fun m => { m with registers := f m.registers }

/-- Write a report. -/
def note (e : Event) : Action τ Unit := modify fun s => { s with host := s.host.note e }

/-- Go on with a value, or fail. -/
def check {α : Type} (r : Except Fault α) : Action τ α :=
  match r with
  | .ok a => pure a
  | .error f => throw f

/-- Do something with the registers alone. -/
def onRegisters {α : Type} (act : EStateM Fault Registers α) : Action τ α := fun s =>
  match act s.machine.registers with
  | .ok a r => .ok a { s with machine := { s.machine with registers := r } }
  | .error f r => .error f { s with machine := { s.machine with registers := r } }

/-- Do something with the screen alone. -/
def onScreen {α : Type} (act : EStateM Fault Screen α) : Action τ α := fun s =>
  match act s.machine.screen with
  | .ok a r => .ok a { s with machine := { s.machine with screen := r } }
  | .error f r => .error f { s with machine := { s.machine with screen := r } }

/-! ## Memory -/

/-- The byte at an address; no access is recorded. -/
def peek (address : Int) : Action τ UInt8 := do
  check ((← machine).memory.read address)

/-- The byte at an address. -/
def read (address : Int) : Action τ UInt8 := do
  let m ← machine
  let a ← check (Memory.locate address)
  let data := m.memory.get a
  update fun m => { m with accesses := m.accesses.push (.read a data) }
  return data

/-- Write a value to an address. -/
def write (address data : Int) : Action τ Unit := do
  let m ← machine
  let a ← check (Memory.locate address)
  let b ← check (Memory.byteOf data)
  let previous := m.memory.get a
  update fun m =>
    { m with memory := m.memory.set a b, accesses := m.accesses.push (.write a b previous) }

/-- Hand out the recorded accesses. -/
def takeAccesses : Action τ (Array Access) := do
  let m ← machine
  update fun m => { m with accesses := #[] }
  return m.accesses

/-! ## Screen, clock and keypad -/

/-- Turn every pixel off. -/
def clearScreen : Action τ Unit := update fun m => { m with screen := m.screen.clear }

/-- Let the clock make the tick that is due. -/
def tick [TimeScale τ] : Action τ Unit :=
  modify fun s =>
    let (now, host) := s.host.readTime
    { s with machine := { s.machine with clock := s.machine.clock.update now }, host := host }

/-- Set a timer. -/
def setTimer (t : Clock.Timer) (value : Int) : Action τ Unit := do
  let clock ← check ((← machine).clock.assign t value)
  update fun m => { m with clock := clock }

/-- Start to wait for a key on behalf of a register. -/
def requestKey (register : Int) : Action τ Unit := do
  let keypad ← check ((← machine).keypad.request register)
  update fun m => { m with keypad := keypad }

/-- Hand out the key press that ended a wait. -/
def takeKey : Action τ (Option KeyPress) := do
  let (response, keypad) := (← machine).keypad.take
  update fun m => { m with keypad := keypad }
  return response

/-- Whether a key is down. -/
def isPressed (key : Int) : Action τ Bool := do
  check ((← machine).keypad.isPressed key)

/-- Take note of a key going down or up. -/
def setKey (key : Int) (pressed : Bool) : Action τ Unit := do
  let m ← machine
  let k ← check (Keypad.index key .keyOutOfRange)
  match m.keypad.resolved? k pressed with
  | some p => note (.waitResolved p.key.val p.register.val)
  | none => pure ()
  update fun m => { m with keypad := m.keypad.press k pressed }

/-- A random byte. -/
def randomByte : Action τ Int :=
  modifyGet fun s =>
    let (byte, host) := s.host.drawRandom
    (byte, { s with host := host })

end Action

end Chip8
