import Chip8.Text.Integer
import Chip8.Window.Control

/-!
# The console

A window without a toolkit: orders are lines of text, and what the window shows is printed.  An
order is a word and what it is about: a command of the window, with the path of a file where it
takes one; `frames` and a number, to let the timer run out that many times; `press` or `release` and
the name of a key; `break` and the number of a row of the listing; or `quit`.
-/

namespace Chip8

/-- Something to do with a window. -/
inductive Order where
  /-- Give a command. -/
  | give (command : Command)
  /-- Load the program in a file. -/
  | openRom (path : String)
  /-- Put the configuration in a file into effect. -/
  | openConfig (path : String)
  /-- Let the timer run out a number of times. -/
  | frames (count : Nat)
  /-- Press or release a key. -/
  | key (name : String) (pressed : Bool)
  /-- Set or take away the breakpoint in a row of the listing. -/
  | toggle (row : Int)
  | quit
  deriving DecidableEq, Repr

namespace Order

/-- A line as its first word and what comes after the blank behind it. -/
def split (line : List Char) : String × String :=
  (String.ofList (line.takeWhile (· ≠ ' ')), String.ofList ((line.dropWhile (· ≠ ' ')).drop 1))

/-- The order with a word, about something. -/
def ofWords? (word about : String) : Option Order :=
  match word with
  | "frames" => ((Text.readInteger 10 about).toOption).map fun n => frames n.toNat
  | "press" => some (key about true)
  | "release" => some (key about false)
  | "break" => ((Text.readInteger 10 about).toOption).map toggle
  | "quit" => some quit
  | _ =>
    (Command.ofName? word).map fun c =>
      match c with
      | .loadRom => openRom about
      | .loadConfig => openConfig about
      | c => give c

/-- The order on a line. -/
def ofLine? (line : String) : Option Order :=
  let (word, about) := split (Text.strip line.toList)
  ofWords? word about

/-- The file that an order is about. -/
def path? : Order → Option String
  | openRom path => some path
  | openConfig path => some path
  | _ => none

end Order

namespace Window

variable {τ : Type}

/-- Carry out an order, given the contents of the file that it is about.  Frames are left to the
caller, who knows the time. -/
def obey [TimeScale τ] (documents : DocumentHost) (order : Order) (contents : Option Bytes) :
    WindowAction τ Unit := do
  match order with
  | .give c => give c
  | .openRom path => let _ ← openRom path contents
  | .openConfig path => let _ ← openConfig documents path contents
  | .key name pressed => let _ ← key name pressed false
  | .toggle row => toggleRow row
  | .frames _ => pure ()
  | .quit => close

/-- A line of the picture, whose lit pixels are those in the colour of lit pixels. -/
def pictureLine (w : Window τ) (y : Nat) : String :=
  let lit := w.machine.screen.foreground.bytes.toArray
  String.ofList ((List.range 64).map fun x =>
    let cell := 3 * (64 * y + x)
    if w.display.picture.extract cell (cell + 3) == lit then '#' else '.')

/-- The fields of the registers, a line for a group. -/
def registerLines (w : Window τ) : List String :=
  w.registers.map fun g =>
    g.title ++ ": " ++ String.intercalate " " (g.fields.map fun f => f.name ++ "=" ++ f.text)

/-- What the window shows, as lines of text. -/
def lines (w : Window τ) : List String :=
  (List.range 32).map w.pictureLine ++ w.registerLines ++
    [if w.buzzing then w.status ++ " (buzzer)" else w.status]

end Window

/-- What is wrong, in words, if something could not be done with a window. -/
def WindowFault.message (room : Nat) : WindowFault → String
  | .machine f => f.message
  | .rom f => f.message
  | .config f => f.message room ""
  | .rowOutOfRange row => s!"The listing has no row {row}."

end Chip8
