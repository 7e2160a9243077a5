import Chip8.Disassembly
import Chip8.Window.Table

/-!
# The listing

The program as a table of instructions, one of which is the next one.  A `Listing` is taken from
memory when it is refreshed and is not taken again while the program counter stays on one of its
rows; so it may show an instruction that the program has since written over.

Only the rows whose colour may have changed are painted: the row that was current and the row that
becomes current when the program counter moves, and all rows when the breakpoints change.
-/

namespace Chip8

open Text

/-- A table of instructions. -/
structure Listing where
  /-- The instructions as they were when the listing was taken. -/
  lines : Array ListingRow
  /-- What is shown, a row for a line. -/
  table : Table
  /-- The addresses with a breakpoint. -/
  breakpoints : List Int
  /-- The row of the next instruction, if it is in the listing. -/
  current : Option Nat
  /-- The rows that were brought into view, in order. -/
  scrolls : Array Nat

namespace Listing

/-- A listing before it is taken. -/
def empty : Listing := ⟨#[], #[], [], none, #[]⟩

/-- The colour of a row, given the address that stands in it. -/
def shadeOf (l : Listing) (row : Nat) (address : Int) : Shade :=
  if l.current = some row then .current
  else if address ∈ l.breakpoints then .breakpoint
  else .plain

/-- Paint one row in its colour. -/
def paint (l : Listing) (row : Nat) : Listing :=
  match l.lines[row]? with
  | none => l
  | some line => { l with table := l.table.modify row (Row.paint (l.shadeOf row line.address)) }

/-- The row of an address. -/
def rowOf? (l : Listing) (address : Int) : Option Nat :=
  l.lines.findIdx? fun line => line.address == address

/-- Where a listing starts that has to show an address: at the start of the program area, if the
address comes up in twos from there, and otherwise at the address itself. -/
def startFor (pc : Int) : Int := if 512 ≤ pc ∧ (pc - 512) % 2 = 0 then 512 else pc

/-- A line as a row, not yet painted. -/
def rowOfLine (line : ListingRow) : Row :=
  Row.ofTexts (HexForm.word.write line.address) line.bytes line.text

/-- Take the listing anew.  No row is the current one until the listing is told. -/
def refresh (m : Memory) (pc : Int) (l : Listing) : Except Fault Listing := do
  let start := startFor pc
  let lines := (← Disassembly.listing m start (4096 - start)).toArray
  let fresh : Listing := { l with lines := lines, current := none }
  return { fresh with
    table := lines.mapIdx fun row line =>
      (rowOfLine line).paint (fresh.shadeOf row line.address) }

/-- Make a row the current one, and bring it into view with a few rows after it. -/
def moveTo (l : Listing) (target : Option Nat) : Listing :=
  let moved : Listing := { l with current := target }
  let left := match l.current with
    | none => moved
    | some row => moved.paint row
  match target with
  | none => left
  | some row =>
    { left.paint row with scrolls := l.scrolls ++ #[min (row + 5) (l.table.size - 1), row] }

/-- Make the row of the next instruction the current one.  A listing that does not have the
instruction is taken anew. -/
def highlight (m : Memory) (pc : Int) (l : Listing) : Except Fault Listing := do
  let l ← if pc < 4096 ∧ l.rowOf? pc = none then l.refresh m pc else pure l
  return l.moveTo (l.rowOf? pc)

/-- Set the addresses with a breakpoint. -/
def setBreakpoints (addresses : List Int) (l : Listing) : Listing :=
  let marked : Listing := { l with breakpoints := addresses }
  { marked with
    table := l.table.mapIdx fun row cells =>
      match l.lines[row]? with
      | none => cells
      | some line => cells.paint (marked.shadeOf row line.address) }

/-- The address of the current row; `-1` if no row is. -/
def currentAddress (l : Listing) : Int :=
  match l.current.bind fun row => l.lines[row]? with
  | none => -1
  | some line => line.address

/-- The address in a row, where a negative number counts backwards from the last row. -/
def addressAt? (l : Listing) (row : Int) : Option Int :=
  let row := if row < 0 then row + l.lines.size else row
  if row < 0 then none else (l.lines[row.toNat]?).map fun line => line.address

/-- Hand out the rows that were brought into view. -/
def takeScrolls (l : Listing) : Array Nat × Listing := (l.scrolls, { l with scrolls := #[] })

/-- The numbers of the rows that have a colour behind them. -/
def rowsWith (l : Listing) (shade : Shade) : List Nat :=
  (List.range l.table.size).filter fun row => (l.table[row]?.bind Row.shade) == some shade

end Listing

end Chip8
