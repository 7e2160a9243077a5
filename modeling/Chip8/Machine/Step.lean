import Chip8.Machine.Execution

/-!
# Steps

A step lets the clock tick and then carries out one instruction, unless there is a reason not to:
a wait for a key, a program counter past the end of memory, or a drawing that has to wait.  Such a
step answers `none`; a step that carries something out answers a `Snapshot`.

Before anything is carried out, a key that ended a wait is put into the register that waited.
The accesses of a snapshot are those of its own step, because each step starts by dropping what
was recorded before it.
-/

namespace Chip8

/-- An instruction that was carried out, and the registers as it left them. -/
structure Snapshot where
  registers : Registers
  instruction : Instruction
  entry : TraceEntry
  /-- The accesses to memory that the step made, in order. -/
  accesses : Array Access
  deriving DecidableEq

namespace Action

variable {τ : Type}

/-- Put the key that ended a wait into the register that waited. -/
def deliverKey : Action τ Unit := do
  match ← takeKey with
  | some p => updateRegisters fun r => r.put p.register p.key.val
  | none => pure ()

/-- The word at an address, high byte first. -/
def fetch (address : Int) : Action τ Int := do
  let high ← read address
  let low ← read (address + 1)
  return 256 * high.toNat + low.toNat

/-- Where an instruction at an address is followed up; nowhere if it stalled. -/
def followUp (pc : Int) : PcUpdate → Option Int
  | .advance => some (pc + 2)
  | .skip => some (pc + 4)
  | .jump target => some target
  | .stall => none

/-- Carry out the instruction at the program counter. -/
def runInstruction [TimeScale τ] : Action τ (Option Snapshot) := do
  let pc := (← registers).pc
  let word ← fetch pc
  let instruction := Instruction.decode word
  let outcome ← execute instruction
  note (.executed (← registers).pc word outcome.display)
  match followUp (← registers).pc outcome.update with
  | none => return none
  | some next =>
    let entry : TraceEntry := ⟨pc, word, outcome.display⟩
    update fun m => m.remember entry
    updateRegisters fun r => { r with pc := next }
    let registers ← registers
    let accesses ← takeAccesses
    return some ⟨registers, instruction, entry, accesses⟩

/-- One cycle of the processor. -/
def cycle [TimeScale τ] : Action τ (Option Snapshot) := do
  let _ ← takeAccesses
  if (← machine).keypad.waiting then return none
  deliverKey
  if 4096 ≤ (← registers).pc then return none
  runInstruction

/-- One step: a tick if one is due, and one cycle. -/
def step [TimeScale τ] : Action τ (Option Snapshot) := do
  tick
  cycle

/-! ## What the host does to the machine -/

/-- Place a program in memory. -/
def loadRom (data : Bytes) : Action τ Unit := do
  if romSize < data.size then note (.imageTruncated data.size)
  update fun m => { m with memory := m.memory.loadRom data }
  note (.imageLoaded data.size)

/-- Start over with blank memory, a new clock and no keys; the picture, its colours and the two
options of the processor are kept. -/
def reset : Action τ Unit := do
  modify fun s =>
    let (now, host) := s.host.readTime
    { machine :=
        { Machine.powerOn now with
          screen := s.machine.screen
          registers := s.machine.registers.reset }
      host := host }
  note .machineReset

/-- Start over with a program. -/
def resetAndLoad (data : Bytes) : Action τ Unit := do
  reset
  loadRom data

/-- Choose where shifts take their operand from. -/
def setShiftSecond (on : Bool) : Action τ Unit := updateRegisters fun r => r.setShiftSecond on

/-- Choose whether drawing waits for the start of a picture. -/
def setDrawOnBlank (on : Bool) : Action τ Unit := updateRegisters fun r => r.setDrawOnBlank on

/-- Change the colour of lit pixels. -/
def setForeground (components : List Int) : Action τ Unit := do
  let screen ← check ((← machine).screen.setForeground components)
  update fun m => { m with screen := screen }

/-- Change the colour of unlit pixels. -/
def setBackground (components : List Int) : Action τ Unit := do
  let screen ← check ((← machine).screen.setBackground components)
  update fun m => { m with screen := screen }

end Action

/-- A machine switched on: its clock starts at the host's time. -/
def System.powerOn {τ : Type} (host : Host τ) : System τ :=
  let (now, host) := host.readTime
  ⟨Machine.powerOn now, host⟩

end Chip8
