import Chip8.Machine.Basic

/-!
# Tables

Rows of three cells with text and, if they were painted, a colour behind it.  `Row.paint` colours
a whole row, so that the three cells of a row that was painted agree, and `Table.ofTrace` is the
table of the instructions carried out last.
-/

namespace Chip8

open Text

/-- The colour behind a row. -/
inductive Shade where
  /-- A row like any other. -/
  | plain
  /-- A row with a breakpoint. -/
  | breakpoint
  /-- The row of the next instruction. -/
  | current
  deriving DecidableEq, Repr

/-- The colour of a shade, in digits. -/
def Shade.color : Shade → String
  | plain => "#101010"
  | breakpoint => "#5a1010"
  | current => "#404000"

/-- A text and the colour behind it; a cell has no colour before it is painted. -/
structure Cell where
  text : String
  shade : Option Shade := none
  deriving DecidableEq, Repr

/-- The cells of a row, from left to right. -/
abbrev Row := Vector Cell 3

namespace Row

/-- A row that is not painted. -/
def ofTexts (first second third : String) : Row := #v[⟨first, none⟩, ⟨second, none⟩, ⟨third, none⟩]

/-- A row with one colour behind all its cells. -/
def paint (shade : Shade) (r : Row) : Row := r.map fun c => { c with shade := some shade }

/-- The colour behind a row, as its first cell has it. -/
def shade (r : Row) : Option Shade := r[0].shade

@[simp] theorem shade_of_mem_paint {s : Shade} {r : Row} {c : Cell} (h : c ∈ r.paint s) :
    c.shade = some s := by
  obtain ⟨d, _, rfl⟩ := Vector.mem_map.1 h
  rfl

end Row

/-- The rows of a table, from the top. -/
abbrev Table := Array Row

/-- The table of the instructions carried out last: address, word, and what was done. -/
def Table.ofTrace (entries : List TraceEntry) : Table :=
  (entries.map fun e =>
    Row.ofTexts (HexForm.word.write e.address) (HexForm.word.write e.word) e.display).toArray

end Chip8
