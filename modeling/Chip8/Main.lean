import Chip8.Console
import Chip8.Window.Start
import Chip8.Yaml.File

/-!
# The program

Opens the window that the command line asks for, and then carries out the orders on standard
input, one a line, and prints what the window shows after each of them.
-/

namespace Chip8

/-- The contents of a file, if it exists. -/
def readFile? (path : String) : IO (Option Bytes) := do
  try return some (← IO.FS.readBinFile path).data
  catch _ => return none

/-- The time of the host, in seconds. -/
def hostTime : IO Float := return secondsOfMicroseconds ((← IO.monoNanosNow) / 1000)

/-- Let the window know what time it is. -/
def Window.atTime (now : Float) (w : Window Float) : Window Float :=
  { w with session.system.host := w.session.system.host.standAt now }

/-- Do something with a window; a fault is printed. -/
def perform (w : Window Float) (act : WindowAction Float Unit) : IO (Window Float) := do
  match act (w.atTime (← hostTime)) with
  | .ok _ w => return w
  | .error f w => do
    IO.eprintln (f.message Yaml.host.room)
    return w

/-- Let the timer run out a number of times. -/
def performFrames (w : Window Float) : Nat → IO (Window Float)
  | 0 => return w
  | n + 1 => do
    IO.sleep w.timer.interval.toNat.toUInt32
    performFrames (← perform w (do let _ ← Window.timeout)) n

/-- Print what the window shows and what the user is told. -/
def showWindow (w : Window Float) : IO (Window Float) := do
  for line in w.lines do IO.println line
  for m in w.messages do IO.println (m.title ++ ": " ++ m.text)
  for e in w.session.system.host.journal.events do
    IO.eprintln (e.level.name ++ " " ++ e.message)
  return { w with
    messages := #[]
    session.system.host.journal := w.session.system.host.journal.drain.2 }

/-- Carry out the orders on a stream until it ends. -/
partial def serve (input : IO.FS.Stream) (w : Window Float) : IO Unit := do
  let line ← input.getLine
  if line.isEmpty then return
  match Order.ofLine? line with
  | none => do
    IO.eprintln ("Unknown order: " ++ line.trimAscii.toString)
    serve input w
  | some (.frames count) => serve input (← showWindow (← performFrames w count))
  | some order => do
    let contents ← match order.path? with
      | some path => readFile? path
      | none => pure none
    let w ← showWindow (← perform w (Window.obey Yaml.host order contents))
    if order != .quit then serve input w

/-- Open the window and serve it. -/
def openWindow (options : Options) : IO UInt32 := do
  let paths := options.rom.toList ++ options.config.toList
  let files ← paths.mapM fun path => return (path, ← readFile? path)
  let seed ← IO.rand 0 1000000
  let random (n : Nat) : Int := (randNat (mkStdGen (seed + n)) 0 255).1
  let host := Host.still (← hostTime) random
  let host := { host with journal := { host.journal with threshold := options.level } }
  let read (path : String) := (files.lookup path).join
  match options.start Yaml.host read ⟨[], "monospace"⟩ host with
  | .error f => do
    IO.eprintln (f.message Yaml.host.room)
    return 1
  | .ok w => do
    serve (← IO.getStdin) (← showWindow w)
    return 0

end Chip8

/-- Read the command line and do what it asks for. -/
def main (arguments : List String) : IO UInt32 := do
  match Chip8.CommandLine.read arguments with
  | .help => do
    IO.print Chip8.CommandLine.helpText
    return 0
  | .refused reason => do
    IO.eprint (Chip8.CommandLine.refusalText reason)
    return 2
  | .proceed options => Chip8.openWindow options
