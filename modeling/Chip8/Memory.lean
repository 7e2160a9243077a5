import Chip8.Fault

/-!
# Memory

Four kilobytes of cells.  The first eighty hold the glyphs of the sixteen digits, five rows each;
programs are placed at address 512 and fill the rest.  `Memory.read`, `Memory.write` and
`Memory.dump` refuse addresses outside.

`Bytes.splice` puts bytes in the place of a range of cells, and the cells stay as many as they were
exactly if the bytes are as many as the range (`Bytes.size_splice_iff`).  `Memory.loadRom` does so
with the whole program area, and `Memory.get_loadRom` says what each cell then holds.
-/

namespace Chip8

/-- The number of memory cells. -/
def memorySize : Nat := 4096

/-- Where a program starts. -/
def romStart : Nat := 512

/-- The number of cells that a program can fill. -/
def romSize : Nat := 3584

/-- The number of rows, and so of bytes, of a glyph. -/
def glyphHeight : Nat := 5

/-- The sixteen glyphs, one row of pixels a byte. -/
def font : List UInt8 :=
  [0xF0, 0x90, 0x90, 0x90, 0xF0,
   0x20, 0x60, 0x20, 0x20, 0x70,
   0xF0, 0x10, 0xF0, 0x80, 0xF0,
   0xF0, 0x10, 0xF0, 0x10, 0xF0,
   0x90, 0x90, 0xF0, 0x10, 0x10,
   0xF0, 0x80, 0xF0, 0x10, 0xF0,
   0xF0, 0x80, 0xF0, 0x90, 0xF0,
   0xF0, 0x10, 0x20, 0x40, 0x40,
   0xF0, 0x90, 0xF0, 0x90, 0xF0,
   0xF0, 0x90, 0xF0, 0x10, 0xF0,
   0xF0, 0x90, 0xF0, 0x90, 0x90,
   0xE0, 0x90, 0xE0, 0x90, 0xE0,
   0xF0, 0x80, 0x80, 0x80, 0xF0,
   0xE0, 0x90, 0x90, 0x90, 0xE0,
   0xF0, 0x80, 0xF0, 0x80, 0xF0,
   0xF0, 0x80, 0xF0, 0x80, 0x80]

/-- The bytes of a program or of a file. -/
abbrev Bytes := Array UInt8

namespace Bytes

/-- Bytes with zeros behind them, up to a length; no byte is taken away. -/
def fillUp (b : Bytes) (length : Nat) : Bytes := b ++ Array.replicate (length - b.size) 0

/-- Bytes with others in the place of those from `first` on and before `last`.  The others may be
more or fewer, and then what comes behind them moves. -/
def splice (cells : Bytes) (first last : Nat) (image : Bytes) : Bytes :=
  cells.extract 0 first ++ image ++ cells.extract last cells.size

theorem size_fillUp (b : Bytes) {length : Nat} (h : b.size ≤ length) :
    (b.fillUp length).size = length := by
  rw [fillUp, Array.size_append, Array.size_replicate]
  omega

section Splice

variable {cells image : Bytes} {first last : Nat}

theorem size_splice (hfirst : first ≤ cells.size) :
    (cells.splice first last image).size = first + image.size + (cells.size - last) := by
  rw [splice, Array.size_append, Array.size_append, Array.size_extract, Array.size_extract]
  omega

/-- Bytes in the place of others leave the size as it is exactly if they are as many. -/
theorem size_splice_iff (hrange : first ≤ last) (hlast : last ≤ cells.size) :
    (cells.splice first last image).size = cells.size ↔ image.size = last - first := by
  rw [size_splice (Nat.le_trans hrange hlast)]
  omega

/-- In front of the range nothing changes, in it are the new bytes, and the rest comes behind. -/
theorem getElem?_splice (hfirst : first ≤ cells.size) (k : Nat) :
    (cells.splice first last image)[k]? =
      if k < first then cells[k]?
      else if k < first + image.size then image[k - first]?
      else cells[last + (k - (first + image.size))]? := by
  have hfront : (cells.extract 0 first).size = first := by
    rw [Array.size_extract]
    omega
  rw [splice, Array.getElem?_append, Array.size_append, hfront, Array.getElem?_append, hfront]
  by_cases hbefore : k < first
  · rw [if_pos (by omega), if_pos hbefore, if_pos hbefore, Array.getElem?_extract,
      if_pos (by omega), Nat.zero_add]
  · rw [if_neg hbefore, if_neg hbefore]
    split
    · rfl
    · rw [Array.getElem?_extract]
      split
      · rfl
      · rw [Array.getElem?_eq_none (by omega)]

/-- The new bytes stand where the range began. -/
theorem extract_splice (hfirst : first ≤ cells.size) :
    (cells.splice first last image).extract first (first + image.size) = image := by
  have hsize : first + image.size ≤ (cells.splice first last image).size := by
    rw [size_splice hfirst]
    omega
  refine Array.ext_getElem? fun k => ?_
  rw [Array.getElem?_extract, Nat.min_eq_left hsize, Nat.add_sub_cancel_left]
  by_cases hk : k < image.size
  · rw [if_pos hk, getElem?_splice hfirst, if_neg (by omega), if_pos (by omega),
      Nat.add_sub_cancel_left]
  · rw [if_neg hk, Array.getElem?_eq_none (by omega)]

end Splice

end Bytes

/-- The contents of the memory cells. -/
structure Memory where
  cells : Vector UInt8 4096
  deriving DecidableEq

namespace Memory

/-- Memory at power-on: the glyphs, and zero everywhere else. -/
def blank : Memory :=
  ⟨⟨Bytes.splice (Array.replicate memorySize 0) 0 font.length font.toArray,
    ((Bytes.size_splice_iff (Nat.zero_le _) (by rw [Array.size_replicate]; decide)).2
      List.size_toArray).trans Array.size_replicate⟩⟩

/-- The cell at an address. -/
def get (m : Memory) (a : Fin 4096) : UInt8 := m.cells[a]

/-- The memory with one cell changed. -/
def set (m : Memory) (a : Fin 4096) (b : UInt8) : Memory := ⟨m.cells.set a b⟩

/-- The cell that an address names, if there is one. -/
def locate (address : Int) : Except Fault (Fin 4096) :=
  if h : 0 ≤ address ∧ address < 4096 then .ok ⟨address.toNat, by omega⟩
  else .error (.addressOutOfBounds address)

/-- The byte at an address. -/
def read (m : Memory) (address : Int) : Except Fault UInt8 :=
  (locate address).map m.get

/-- A value that a cell can hold. -/
def byteOf (data : Int) : Except Fault UInt8 :=
  if 0 ≤ data ∧ data ≤ 255 then .ok (UInt8.ofNat data.toNat)
  else .error (.dataNotByte data)

/-- The memory with a value at an address; the address is checked before the value. -/
def write (m : Memory) (address data : Int) : Except Fault Memory := do
  let a ← locate address
  let b ← byteOf data
  return m.set a b

/-- The bytes of a program brought to the length of the program area: cut off at its end, or
filled up with zeros. -/
def romImage (data : Bytes) : Bytes :=
  Bytes.fillUp (if romSize < data.size then data.extract 0 romSize else data) romSize

theorem size_romImage (data : Bytes) : (romImage data).size = romSize := by
  rw [romImage]
  split
  · exact Bytes.size_fillUp _ (by rw [Array.size_extract]; omega)
  · exact Bytes.size_fillUp _ (by omega)

/-- The image of a program has the length of the program area, so no cell comes or goes. -/
theorem size_splice_romImage (m : Memory) (data : Bytes) :
    (Bytes.splice m.cells.toArray romStart memorySize (romImage data)).size = memorySize := by
  have hlast : memorySize ≤ m.cells.toArray.size := Nat.le_of_eq m.cells.size_toArray.symm
  exact ((Bytes.size_splice_iff (by decide) hlast).2 (size_romImage data)).trans
    m.cells.size_toArray

/-- The memory with a program in the place of the program area. -/
def loadRom (m : Memory) (data : Bytes) : Memory :=
  ⟨⟨Bytes.splice m.cells.toArray romStart memorySize (romImage data),
    m.size_splice_romImage data⟩⟩

/-- Consecutive cells; a dump of no cells still needs an address that memory has. -/
def dump (m : Memory) (start length : Int) : Except Fault Bytes := do
  if length < 0 then throw (.negativeLength length)
  let first ← locate start
  if length ≠ 0 then
    let _ ← locate (start + length - 1)
  return m.cells.toArray.extract first.val (first.val + length.toNat)

/-! ## Laws -/

@[ext] theorem ext {m n : Memory} (h : ∀ a, m.get a = n.get a) : m = n := by
  cases m; cases n
  congr 1
  exact Vector.ext fun i hi => h ⟨i, hi⟩

theorem get_set (m : Memory) (a b : Fin 4096) (x : UInt8) :
    (m.set a x).get b = if a = b then x else m.get b := by
  simp [get, set, Vector.getElem_set, Fin.ext_iff]

theorem getElem?_cells (m : Memory) (a : Fin 4096) :
    m.cells.toArray[a.val]? = some (m.get a) :=
  Array.getElem?_eq_getElem (by rw [Vector.size_toArray]; exact a.isLt)

/-- The glyphs come first, and then zeros. -/
theorem get_blank (a : Fin 4096) : blank.get a = (font[a.val]?).getD 0 := by
  rw [← Option.some_inj, ← getElem?_cells, blank, Bytes.getElem?_splice (Nat.zero_le _),
    if_neg (Nat.not_lt_zero _), List.size_toArray, Nat.sub_zero, Nat.zero_add,
    List.getElem?_toArray]
  split
  · rename_i hglyph
    rw [List.getElem?_eq_getElem hglyph]
    rfl
  · rename_i hbehind
    rw [Array.getElem?_replicate, if_pos (by rw [memorySize]; omega),
      List.getElem?_eq_none (by omega)]
    rfl

/-- The image of a program is the part of it that fits, with zeros behind. -/
theorem romImage_eq (data : Bytes) :
    romImage data = data.extract 0 romSize ++ Array.replicate (romSize - data.size) 0 := by
  rw [romImage, Bytes.fillUp]
  split
  · rename_i hlong
    have hfull : romSize - (min romSize data.size - 0) = romSize - data.size := by omega
    rw [Array.size_extract, hfull]
  · rename_i hfits
    rw [Array.extract_eq_self_of_le (by omega)]

/-- A byte of the image is the byte of the program, or zero behind its end. -/
theorem getElem?_romImage (data : Bytes) {k : Nat} (hk : k < romSize) :
    (romImage data)[k]? = some ((data[k]?).getD 0) := by
  rw [romImage_eq, Array.getElem?_append, Array.size_extract]
  by_cases hin : k < data.size
  · rw [if_pos (by omega), Array.getElem?_extract, if_pos (by omega), Nat.zero_add,
      Array.getElem?_eq_getElem hin]
    rfl
  · rw [if_neg (by omega), Array.getElem?_replicate, if_pos (by omega),
      Array.getElem?_eq_none (by omega)]
    rfl

/-- Below the program area nothing changes; above, the program and then zeros. -/
theorem get_loadRom (m : Memory) (data : Bytes) (a : Fin 4096) :
    (m.loadRom data).get a = if a.val < 512 then m.get a else (data[a.val - 512]?).getD 0 := by
  have hfirst : romStart ≤ m.cells.toArray.size := by
    rw [Vector.size_toArray]
    decide
  have hlast : romStart + romSize = memorySize := rfl
  have ha : a.val < memorySize := a.isLt
  rw [← Option.some_inj, ← getElem?_cells, loadRom, Bytes.getElem?_splice hfirst, size_romImage,
    hlast, if_pos ha]
  show _ = some (if a.val < romStart then m.get a else (data[a.val - romStart]?).getD 0)
  by_cases hbelow : a.val < romStart
  · rw [if_pos hbelow, if_pos hbelow, getElem?_cells]
  · rw [if_neg hbelow, if_neg hbelow, getElem?_romImage data (by omega)]

end Memory

end Chip8
