import Chip8.Config.Document
import Chip8.Debugger
import Chip8.RomFile
import Chip8.Window.Layout
import Chip8.Window.Listing
import Chip8.Window.Outline

/-!
# The window

A machine with its debugger, and everything about it that can be seen: the picture, the listing,
the trace, the registers, what the window is doing, and which commands can be given.  What is seen
is a copy, made by `Window.refreshViews` and in part by `Window.refreshScreen`, so it can differ
from the machine while the machine runs.

What can be done with a window may fail, and what it did before it failed stays done.
-/

namespace Chip8

/-- What the user can ask for. -/
inductive Command where
  | run
  | stop
  | step
  | reset
  | loadRom
  | loadConfig
  deriving DecidableEq, Repr

namespace Command

/-- Every command, in the order in which they are listed. -/
def all : List Command := [run, stop, step, reset, loadRom, loadConfig]

/-- The name of a command. -/
def name : Command → String
  | run => "run"
  | stop => "stop"
  | step => "step"
  | reset => "reset"
  | loadRom => "load_rom"
  | loadConfig => "load_config"

/-- The command with a name. -/
def ofName? (s : String) : Option Command := all.find? fun c => c.name == s

end Command

/-- Which commands can be given. -/
structure Switches where
  run : Bool
  stop : Bool
  step : Bool
  reset : Bool
  loadRom : Bool
  loadConfig : Bool
  deriving DecidableEq, Repr

namespace Switches

/-- What can be done depends on whether there is a program and whether it is running. -/
def ofState (hasProgram running : Bool) : Switches :=
  { run := hasProgram && !running
    stop := running
    step := hasProgram && !running
    reset := hasProgram
    loadRom := !running
    loadConfig := !running }

/-- Whether a command can be given. -/
def allows (s : Switches) : Command → Bool
  | .run => s.run
  | .stop => s.stop
  | .step => s.step
  | .reset => s.reset
  | .loadRom => s.loadRom
  | .loadConfig => s.loadConfig

end Switches

/-- A program and the name of the file that it came from. -/
structure Program where
  name : String
  data : Bytes
  deriving DecidableEq

/-- What sets off the pictures of a program that runs. -/
structure Timer where
  active : Bool
  /-- The time between two pictures, in milliseconds. -/
  interval : Int
  deriving DecidableEq, Repr

/-- Something that the user is told in a box of its own. -/
structure Message where
  title : String
  text : String
  deriving DecidableEq, Repr

/-- A question for a file. -/
structure FileDialog where
  title : String
  directory : String
  filters : String
  deriving DecidableEq, Repr

/-- A window. -/
structure Window (τ : Type) where
  session : Session τ
  config : Config
  fonts : FontSet
  /-- The program that was loaded last. -/
  program : Option Program
  timer : Timer
  switches : Switches
  /-- What the window says it is doing. -/
  status : String
  /-- Whether the sign of the buzzer is lit. -/
  buzzing : Bool
  display : Display
  listing : Listing
  trace : Table
  registers : RegisterPane
  /-- What the user has been told and has not taken note of. -/
  messages : Array Message

/-- Why something could not be done with a window. -/
inductive WindowFault where
  | machine (fault : Fault)
  | rom (fault : RomFault)
  | config (fault : ConfigFileFault)
  /-- A row that the listing does not have. -/
  | rowOutOfRange (row : Int)

/-- What can be done with a window. -/
abbrev WindowAction (τ : Type) := EStateM WindowFault (Window τ)

namespace Window

variable {τ : Type}

/-- The machine behind the window. -/
def machine (w : Window τ) : Machine τ := w.session.system.machine

/-- The way the window is built, with the texts that it shows. -/
def layout (w : Window τ) : Layout := Layout.window w.fonts w.registers w.buzzing w.status

/-! ## Doing something with a part of the window -/

/-- Do something with the session; a fault is an answer. -/
def attempt {α : Type} (act : EStateM Fault (Session τ) α) :
    WindowAction τ (Except Fault α) := fun w =>
  match act w.session with
  | .ok a session => .ok (.ok a) { w with session := session }
  | .error f session => .ok (.error f) { w with session := session }

/-- Do something with the session, or fail. -/
def onSession {α : Type} (act : EStateM Fault (Session τ) α) : WindowAction τ α := fun w =>
  match act w.session with
  | .ok a session => .ok a { w with session := session }
  | .error f session => .error (.machine f) { w with session := session }

/-- Do something with the machine, or fail. -/
def onMachine {α : Type} (act : Action τ α) : WindowAction τ α := onSession (Session.onSystem act)

/-- Go on with a value, or fail. -/
def check {α : Type} (r : Except Fault α) : WindowAction τ α :=
  match r with
  | .ok a => pure a
  | .error f => throw (.machine f)

/-- Change the debugger. -/
def updateDebugger (f : Debugger → Debugger) : WindowAction τ Unit :=
  modify fun w => { w with session := { w.session with debugger := f w.session.debugger } }

/-- Write a report. -/
def note (e : Event) : WindowAction τ Unit := onMachine (Action.note e)

/-- Say what the window is doing. -/
def setStatus (text : String) : WindowAction τ Unit := modify fun w => { w with status := text }

/-- Tell the user something. -/
def tell (title text : String) : WindowAction τ Unit :=
  modify fun w => { w with messages := w.messages.push ⟨title, text⟩ }

/-- Start or stop the timer. -/
def setTimer (active : Bool) : WindowAction τ Unit :=
  modify fun w => { w with timer := { w.timer with active := active } }

/-- Let the commands be given that go with running or not running. -/
def setSwitches (running : Bool) : WindowAction τ Unit :=
  modify fun w => { w with switches := .ofState w.program.isSome running }

/-! ## What is seen -/

/-- Show the picture and the sign of the buzzer as they are now. -/
def refreshScreen : WindowAction τ Unit := do
  let w ← get
  let display ← check (w.display.showPicture w.machine.screen.rgb)
  modify fun w => { w with display := display, buzzing := 0 < w.machine.clock.sound }

/-- Mark the rows of the listing that have a breakpoint, whether it is enabled or not. -/
def markBreakpoints : WindowAction τ Unit :=
  modify fun w =>
    let places := w.session.debugger.breakpoints.filter fun b => b.condition == .pcMatch
    { w with listing := w.listing.setBreakpoints (places.filterMap Breakpoint.value) }

/-- Take the listing anew. -/
def refreshListing : WindowAction τ Unit := do
  let w ← get
  let listing ← check (w.listing.refresh w.machine.memory w.machine.registers.pc)
  modify fun w => { w with listing := listing }

/-- Make the row of the next instruction the current one. -/
def highlightNext : WindowAction τ Unit := do
  let w ← get
  let listing ← check (w.listing.highlight w.machine.memory w.machine.registers.pc)
  modify fun w => { w with listing := listing }

/-- Show everything as it is now.  The listing is taken anew only if that is asked for, or if it
does not have the next instruction. -/
def refreshViews (full : Bool) : WindowAction τ Unit := do
  refreshScreen
  modify fun w =>
    { w with
      registers := w.registers.update w.machine.registers w.machine.clock
      trace := .ofTrace w.machine.trace }
  if full then
    refreshListing
    markBreakpoints
  highlightNext

/-- A new window, with a machine that was just switched on. -/
def create (config : Config) (fonts : FontSet) (host : Host τ) : Except WindowFault (Window τ) :=
  let start : Window τ :=
    { session := .powerOn host
      config := config
      fonts := fonts
      program := none
      timer := ⟨false, config.frameInterval⟩
      switches := .ofState false false
      status := "No ROM loaded"
      buzzing := false
      display := .initial config.scale
      listing := .empty
      trace := #[]
      registers := .blank
      messages := #[] }
  let build : WindowAction τ Unit := do
    onMachine config.apply
    refreshViews true
  match build start with
  | .ok _ w => .ok w
  | .error f _ => .error f

/-- Hand out what the user has been told. -/
def takeMessages : WindowAction τ (Array Message) := fun w =>
  .ok w.messages { w with messages := #[] }

end Window

end Chip8
