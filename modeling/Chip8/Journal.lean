import Chip8.Text.Radix

/-!
# The journal

What the machine and its tools report while they work.  `Event` lists the reports, `Event.level`
says how much each one matters and `Event.message` is its wording.  A `Journal` keeps the reports
that matter at least as much as its threshold, in the order in which they were made.
-/

namespace Chip8

open Text

/-- How much a report matters. -/
inductive Level where
  | debug
  | info
  | warning
  | error
  deriving DecidableEq, Repr

namespace Level

/-- The rank of a level; a higher one matters more. -/
def rank : Level → Nat
  | debug => 0
  | info => 1
  | warning => 2
  | error => 3

/-- The name of a level. -/
def name : Level → String
  | debug => "DEBUG"
  | info => "INFO"
  | warning => "WARNING"
  | error => "ERROR"

/-- Every level, from the least to the most important one. -/
def all : List Level := [debug, info, warning, error]

/-- The level with a name. -/
def ofName? (s : String) : Option Level := all.find? fun l => l.name == s

end Level

/-- One report. -/
inductive Event where
  /-- An instruction was carried out. -/
  | executed (pc word : Int) (display : String)
  /-- A word that is no instruction was carried out. -/
  | undefinedInstruction (word pc : Int)
  /-- A key ended a wait. -/
  | waitResolved (key register : Nat)
  /-- A program did not fit into memory. -/
  | imageTruncated (size : Nat)
  /-- A program was placed in memory. -/
  | imageLoaded (size : Nat)
  /-- The machine was reset. -/
  | machineReset
  /-- A run stopped because of what an instruction did. -/
  | breakpointAfter (mnemonic : String) (address : Int)
  /-- A run stopped because of where it came to. -/
  | breakpointAt (pc : Int)
  /-- A file was read. -/
  | fileRead (name : String) (size : Nat)
  /-- A file holds more than fits into memory. -/
  | fileOversized (name : String) (size : Nat)
  /-- A program file could not be used. -/
  | romRefused (name reason : String)
  /-- A configuration file could not be used. -/
  | configRefused (name reason : String)
  /-- A fault ended a run. -/
  | executionStopped (pc : Int)
  deriving DecidableEq, Repr

namespace Event

/-- How much a report matters. -/
def level : Event → Level
  | executed .. => .debug
  | waitResolved .. => .debug
  | imageLoaded _ => .info
  | machineReset => .info
  | breakpointAfter .. => .info
  | breakpointAt _ => .info
  | fileRead .. => .info
  | undefinedInstruction .. => .warning
  | imageTruncated _ => .warning
  | fileOversized .. => .warning
  | romRefused .. => .error
  | configRefused .. => .error
  | executionStopped _ => .error

/-- The wording of a report. -/
def message : Event → String
  | executed pc word display =>
    HexForm.address.write pc ++ " " ++ HexForm.word.write word ++ ": " ++ display
  | undefinedInstruction word pc =>
    "Invalid instruction " ++ HexForm.word.write word ++ " at " ++ HexForm.address.write pc
  | waitResolved key register =>
    "Key " ++ HexForm.bare.write key ++ " resolved wait for V" ++ HexForm.bare.write register ++ "."
  | imageTruncated size => s!"ROM image is {size} bytes; truncating to 3584 bytes."
  | imageLoaded size => s!"Loaded ROM image ({size} bytes)."
  | machineReset => "Machine reset."
  | breakpointAfter mnemonic address =>
    "Breakpoint hit after " ++ mnemonic ++ " at " ++ HexForm.address.write address
  | breakpointAt pc => "Breakpoint hit at PC: " ++ HexForm.address.write pc
  | fileRead name size => s!"Read ROM {name} ({size} bytes)."
  | fileOversized name size =>
    s!"ROM {name} is {size} bytes; only the first 3584 bytes will be loaded."
  | romRefused name reason => s!"Failed to load ROM {name}: {reason}"
  | configRefused name reason => s!"Failed to load config {name}: {reason}"
  | executionStopped pc => "Execution stopped at PC " ++ HexForm.address.write pc

end Event

/-- The reports that have been kept. -/
structure Journal where
  threshold : Level
  events : Array Event
  deriving DecidableEq

namespace Journal

/-- An empty journal that keeps everything but debugging reports. -/
def initial : Journal := ⟨.info, #[]⟩

/-- Add a report, if it matters enough. -/
def note (j : Journal) (e : Event) : Journal :=
  if j.threshold.rank ≤ e.level.rank then { j with events := j.events.push e } else j

/-- Hand out the reports kept so far. -/
def drain (j : Journal) : Array Event × Journal := (j.events, { j with events := #[] })

end Journal

end Chip8
