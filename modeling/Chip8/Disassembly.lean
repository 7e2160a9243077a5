import Chip8.Instruction.Assembly
import Chip8.Machine.Basic

/-!
# Disassembly

The instructions that a part of memory spells, read two bytes at a time without a trace in the
machine.  `Disassembly.rowCount` is the number of lines: from a start on, in twos, below the end
that was asked for and below the last cell, which has no second byte after it.
`Disassembly.listing` takes the bytes out of a memory, and `Action.disassemble` peeks at those of a
machine, cell by cell.
-/

namespace Chip8

open Text

/-- A line of a listing: an address, its two bytes in digits, and the line of assembly. -/
structure ListingRow where
  address : Int
  bytes : String
  text : String
  deriving DecidableEq, Repr

namespace Disassembly

/-- The number of lines that a listing of a number of bytes has. -/
def rowCount (start length : Int) : Nat := ((min (start + length) 4095 - start + 1) / 2).toNat

/-- The line for an address. -/
def row (m : Memory) (address : Int) : Except Fault ListingRow := do
  let high ← m.read address
  let low ← m.read (address + 1)
  let word : Int := 256 * high.toNat + low.toNat
  return ⟨address,
    HexForm.pair.write high.toNat ++ " " ++ HexForm.pair.write low.toNat,
    (Instruction.decode word).text⟩

/-- A number of lines, from an address on. -/
def rows (m : Memory) (address : Int) : Nat → Except Fault (List ListingRow)
  | 0 => .ok []
  | n + 1 => do
    let first ← row m address
    let rest ← rows m (address + 2) n
    return first :: rest

/-- The listing of a number of bytes from an address on. -/
def listing (m : Memory) (start length : Int) : Except Fault (List ListingRow) :=
  rows m start (rowCount start length)

end Disassembly

namespace Action

variable {τ : Type}

/-- The line for an address, from two cells that are peeked at. -/
def peekLine (address : Int) : Action τ ListingRow := do
  let high ← peek address
  let low ← peek (address + 1)
  let word : Int := 256 * high.toNat + low.toNat
  return ⟨address,
    HexForm.pair.write high.toNat ++ " " ++ HexForm.pair.write low.toNat,
    (Instruction.decode word).text⟩

/-- A number of lines, from an address on. -/
def peekLines (address : Int) : Nat → Action τ (List ListingRow)
  | 0 => pure []
  | n + 1 => do
    let first ← peekLine address
    let rest ← peekLines (address + 2) n
    return first :: rest

/-- List a number of bytes from an address on. -/
def disassemble (start length : Int) : Action τ (List ListingRow) :=
  peekLines start (Disassembly.rowCount start length)

end Action

end Chip8
