import Chip8.Machine.Step
import Chip8.Text.UpperCase

/-!
# The debugger

Steps through a machine, remembers what was carried out, and stops where a breakpoint says so.
`Debugger.run` makes steps until a breakpoint is hit, until somebody calls for a stop, or until its
budget is used up; breakpoints are looked at after an instruction, so a run that starts on one goes
on.

A run that a fault ends does not come to rest: the fault leaves before the running mark is taken
back, as `run` shows.
-/

namespace Chip8

/-- What a breakpoint waits for. -/
inductive Condition where
  /-- The program counter comes to a value. -/
  | pcMatch
  /-- An address is read. -/
  | memoryRead
  /-- An address is written. -/
  | memoryWrite
  /-- A register has a value. -/
  | registerValue
  deriving DecidableEq, Repr

namespace Condition

/-- The label of a condition. -/
def name : Condition → String
  | pcMatch => "PC_MATCH"
  | memoryRead => "MEMORY_READ"
  | memoryWrite => "MEMORY_WRITE"
  | registerValue => "REGISTER_VALUE"

/-- The condition with a label. -/
def ofName? (s : String) : Option Condition :=
  [pcMatch, memoryRead, memoryWrite, registerValue].find? fun c => c.name == s

end Condition

/-- A breakpoint.  Which of the fields counts depends on the condition. -/
structure Breakpoint where
  condition : Condition
  value : Option Int := none
  address : Option Int := none
  register : Option String := none
  enabled : Bool := true
  deriving DecidableEq, Repr

/-- The number of instructions that the debugger remembers. -/
def historyLength : Nat := 1000

/-- The breakpoints, the mark of a run in progress, and what was carried out. -/
structure Debugger where
  breakpoints : List Breakpoint := []
  running : Bool := false
  /-- What was carried out last. -/
  last : Option Snapshot := none
  /-- What was carried out, oldest first. -/
  history : Array Snapshot := #[]

/-- A debugger, its machine and the host. -/
structure Session (τ : Type) where
  debugger : Debugger
  system : System τ

namespace Access

/-- Whether an access is a read of an address. -/
def isReadOf (address : Option Int) : Access → Bool
  | read a _ => address == some (a.val : Int)
  | write .. => false

/-- Whether an access is a write to an address. -/
def isWriteOf (address : Option Int) : Access → Bool
  | read .. => false
  | write a _ _ => address == some (a.val : Int)

end Access

namespace Breakpoint

/-- Whether a breakpoint stops after an instruction, given the registers of the moment.  A
register that does not exist has no value, and so has the value which a breakpoint without one
waits for. -/
def stopsAfter (b : Breakpoint) (s : Snapshot) (r : Registers) : Bool :=
  b.enabled &&
    match b.condition with
    | .pcMatch => false
    | .memoryRead => s.accesses.any (Access.isReadOf b.address)
    | .memoryWrite => s.accesses.any (Access.isWriteOf b.address)
    | .registerValue =>
      match b.register with
      | none => false
      | some name => name != "" && r.named? (Text.upper name) == b.value

/-- Whether a breakpoint stops at a place. -/
def stopsAt (b : Breakpoint) (pc : Int) : Bool :=
  b.enabled && b.condition == .pcMatch && b.value == some pc

end Breakpoint

namespace Debugger

/-- Add a breakpoint, unless it is there already. -/
def add (d : Debugger) (b : Breakpoint) : Debugger :=
  if b ∈ d.breakpoints then d else { d with breakpoints := d.breakpoints ++ [b] }

/-- Take a breakpoint away, if it is there. -/
def remove (d : Debugger) (b : Breakpoint) : Debugger :=
  { d with breakpoints := d.breakpoints.erase b }

/-- Take back the running mark. -/
def stop (d : Debugger) : Debugger := { d with running := false }

/-- Forget what was carried out. -/
def clearHistory (d : Debugger) : Debugger := { d with history := #[], last := none }

/-- Remember what was carried out; beyond a thousand the oldest ones are forgotten. -/
def remember (d : Debugger) (s : Snapshot) : Debugger :=
  let history := d.history.push s
  { d with
    last := some s
    history := history.extract (history.size - historyLength) history.size }

/-- Why a run stops after an instruction, if it does; what the instruction did comes before where
it led. -/
def hit? (d : Debugger) (s : Snapshot) (r : Registers) : Option Event :=
  if d.breakpoints.any fun b => b.stopsAfter s r then
    some (.breakpointAfter s.instruction.assembly.mnemonic s.entry.address)
  else if d.breakpoints.any fun b => b.stopsAt s.registers.pc then
    some (.breakpointAt s.registers.pc)
  else none

end Debugger

namespace Session

variable {τ : Type}

/-- A machine switched on, with a debugger. -/
def powerOn (host : Host τ) : Session τ := ⟨{}, System.powerOn host⟩

/-- Do something with the machine alone. -/
def onSystem {α : Type} (act : Action τ α) : EStateM Fault (Session τ) α := fun s =>
  match act s.system with
  | .ok a system => .ok a { s with system := system }
  | .error f system => .error f { s with system := system }

/-- Change the debugger. -/
def updateDebugger (f : Debugger → Debugger) : EStateM Fault (Session τ) Unit :=
  modify fun s => { s with debugger := f s.debugger }

/-- Make one step and remember what it carried out.  A stop that is called for during the step
takes back the running mark. -/
def step [TimeScale τ] : EStateM Fault (Session τ) (Option Snapshot) := fun s =>
  let heed (system : System τ) : Session τ :=
    if system.host.stoppedSince s.system.host.readings then ⟨s.debugger.stop, system⟩
    else ⟨s.debugger, system⟩
  match Action.step s.system with
  | .error f system => .error f (heed system)
  | .ok none system => .ok none (heed system)
  | .ok (some snapshot) system =>
    let t := heed system
    .ok (some snapshot) { t with debugger := t.debugger.remember snapshot }

/-- Make steps while the running mark stands, up to a number of them. -/
def runSteps [TimeScale τ] : Nat → EStateM Fault (Session τ) Bool
  | 0 => do
    updateDebugger Debugger.stop
    return false
  | budget + 1 => do
    if !(← get).debugger.running then return false
    match ← step with
    | none => runSteps budget
    | some snapshot =>
      let s ← get
      match s.debugger.hit? snapshot s.system.machine.registers with
      | none => runSteps budget
      | some event =>
        updateDebugger Debugger.stop
        onSystem (Action.note event)
        return true

/-- Make steps until a breakpoint is hit, a stop is called for, or a number of steps is used up.
The answer says whether a breakpoint was hit. -/
def run [TimeScale τ] (maxSteps : Int) : EStateM Fault (Session τ) Bool := do
  updateDebugger fun d => { d with running := true }
  runSteps maxSteps.toNat

end Session

end Chip8
