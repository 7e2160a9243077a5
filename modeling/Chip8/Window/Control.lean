import Chip8.Window.Basic

/-!
# Commands of the window

What the user can do: load a program or a configuration, run, stop, make a step, start over, set
breakpoints in the listing, press keys, and close the window.  While a program runs, the timer
calls for `Window.frame` again and again; a frame is a number of instructions, after which the
picture is shown, and nothing else.

A fault of an instruction ends a run and is told to the user.  A fault of a file is told to the
user if the file was chosen in a dialog, and otherwise is left to the caller.
-/

namespace Chip8.Window

variable {τ : Type}

/-! ## Files -/

/-- Start over with a program. -/
def useProgram (program : Program) : WindowAction τ Unit := do
  modify fun w => { w with program := some program }
  onMachine (Action.resetAndLoad program.data)
  updateDebugger Debugger.clearHistory
  setStatus ("Loaded " ++ program.name)
  refreshViews true
  setSwitches (← get).timer.active

/-- Write the reports about a file, and start over with the program in it. -/
def useFile (path : String) (data : Bytes) : WindowAction τ Unit := do
  (RomFile.reports path data).forM note
  useProgram ⟨Path.baseName path, data⟩

/-- Start over with the program in a file, given the contents of the file if it exists. -/
def loadRom (path : String) (contents : Option Bytes) : WindowAction τ Unit :=
  match RomFile.read path contents with
  | .error f => throw (.rom f)
  | .ok data => useFile path data

/-- Put a configuration into effect. -/
def applyConfig (config : Config) : WindowAction τ Unit := do
  modify fun w => { w with config := config }
  onMachine config.apply
  modify fun w =>
    { w with
      timer := { w.timer with interval := config.frameInterval }
      display := w.display.setScale config.scale }
  refreshViews false

/-- The question for a program. -/
def romDialog : FileDialog :=
  ⟨"Open CHIP-8 ROM", "", "CHIP-8 ROMs (*.ch8 *.c8 *.rom);;All Files (*)"⟩

/-- The question for a configuration. -/
def configDialog : FileDialog :=
  ⟨"Open System Config", "", "YAML Files (*.yaml *.yml);;All Files (*)"⟩

/-- Tell the user that a program cannot be used. -/
def refuseRom (path reason : String) : WindowAction τ Unit := do
  note (.romRefused path reason)
  tell "Error" ("Failed to load ROM file: " ++ reason)

/-- Tell the user that a configuration cannot be used. -/
def refuseConfig (path reason : String) : WindowAction τ Unit := do
  note (.configRefused path reason)
  tell "Error" ("Failed to load system config: " ++ reason)

/-- Let the user choose a program; no choice is an empty path.  The answer is the question that
was put, if the command could be given. -/
def openRom (path : String) (contents : Option Bytes) : WindowAction τ (Option FileDialog) := do
  if !(← get).switches.loadRom then return none
  if path != "" then
    match RomFile.read path contents with
    | .error f => refuseRom path f.message
    | .ok data => useFile path data
  return some romDialog

/-- Put the configuration in a chosen file into effect. -/
def useConfigFile (path : String) (config : Config) : WindowAction τ Unit := fun w =>
  match applyConfig config w with
  | .ok _ w => setStatus ("Config: " ++ Path.baseName path) w
  | .error (.machine f) w =>
    if f.isValueFault then refuseConfig path f.message w else .error (.machine f) w
  | .error f w => .error f w

/-- Let the user choose a configuration; no choice is an empty path.  The answer is the question
that was put, if the command could be given. -/
def openConfig (host : DocumentHost) (path : String) (contents : Option Bytes) :
    WindowAction τ (Option FileDialog) := do
  if !(← get).switches.loadConfig then return none
  if path != "" then
    match Config.ofFile host contents with
    | .ok config => useConfigFile path config
    | .error f =>
      if f.isForeseen host.room then refuseConfig path (f.message host.room path)
      else throw (.config f)
  return some configDialog

/-! ## Running -/

/-- Start to run. -/
def run : WindowAction τ Unit := do
  setStatus "Running..."
  setTimer true
  setSwitches true

/-- Stop running. -/
def stop : WindowAction τ Unit := do
  setTimer false
  updateDebugger Debugger.stop
  setStatus "Stopped"
  setSwitches false
  refreshViews false

/-- End a run because of a fault, and tell the user. -/
def reportFault (f : Fault) : WindowAction τ Unit := do
  setTimer false
  setSwitches false
  note (.executionStopped (← get).machine.registers.pc)
  setStatus "Error"
  tell "Execution Error" (f.name ++ ": " ++ f.message)

/-- Make one step. -/
def step [TimeScale τ] : WindowAction τ Unit := do
  match ← attempt Session.step with
  | .ok _ => pure ()
  | .error f => reportFault f
  refreshViews false

/-- Start over with the program that was loaded last, if there is one. -/
def reset : WindowAction τ Unit := do
  match (← get).program with
  | none => pure ()
  | some program =>
    onMachine (Action.resetAndLoad program.data)
    updateDebugger Debugger.clearHistory
    setStatus ("Reset " ++ program.name)
    refreshViews true

/-- Come to rest at a breakpoint. -/
def rest : WindowAction τ Unit := do
  setTimer false
  setStatus ("Breakpoint at " ++ Text.HexForm.word.write (← get).machine.registers.pc)
  setSwitches false
  refreshViews false

/-- Carry out the instructions of one picture, and show the picture. -/
def frame [TimeScale τ] : WindowAction τ Unit := do
  match ← attempt (Session.run (← get).config.instructionsPerFrame) with
  | .error f => reportFault f
  | .ok true => rest
  | .ok false => refreshScreen

/-- The timer has run out: if it is active, a frame is due.  The answer is whether it was. -/
def timeout [TimeScale τ] : WindowAction τ Bool := do
  if !(← get).timer.active then return false
  frame
  return true

/-- Give a command, if it can be given.  The commands for files only put a question, which is
answered by `openRom` and `openConfig`. -/
def give [TimeScale τ] (c : Command) : WindowAction τ Unit := do
  if (← get).switches.allows c then
    match c with
    | .run => run
    | .stop => stop
    | .step => step
    | .reset => reset
    | .loadRom => pure ()
    | .loadConfig => pure ()

/-! ## Breakpoints and keys -/

/-- Set a breakpoint at an address, or take it away. -/
def toggleBreakpoint (address : Int) : WindowAction τ Unit := do
  let b : Breakpoint := { condition := .pcMatch, value := some address }
  updateDebugger fun d => if b ∈ d.breakpoints then d.remove b else d.add b
  markBreakpoints

/-- Set or take away the breakpoint at the address in a row of the listing. -/
def toggleRow (row : Int) : WindowAction τ Unit := do
  match (← get).listing.addressAt? row with
  | none => throw (.rowOutOfRange row)
  | some address => toggleBreakpoint address

/-- A key of the host goes down or up.  The answer is whether the key means nothing to the machine
and is passed on; a key that repeats itself is passed on too. -/
def key (name : String) (pressed repeated : Bool) : WindowAction τ Bool := do
  match (← get).config.keymap.lookup (Text.upper name) with
  | none => return true
  | some code =>
    if repeated then return true
    onMachine (Action.setKey code pressed)
    return false

/-- Close the window. -/
def close : WindowAction τ Unit := do
  setTimer false
  updateDebugger Debugger.stop

end Chip8.Window
