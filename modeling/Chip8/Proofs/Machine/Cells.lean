import Chip8.Memory
import Chip8.Registers

/-!
# Consecutive cells

What becomes of a block of cells into which values are put, and of registers into which its bytes
are put.  A block may reach beyond the end of memory; then what lies outside is left out.

* `Memory.at?` — the byte at an address, if memory has it;
* `Memory.storedAt` — a cell after values were put into consecutive cells, and `storedAt_cons`, one
  value more;
* `Registers.loadedAt` — a register after the bytes of consecutive cells were put into consecutive
  registers, and `loadedAt_succ`, one byte more.
-/

namespace Chip8

namespace Memory

/-- The byte at an address, if memory has it. -/
def at? (m : Memory) (address : Int) : Option UInt8 :=
  if h : address < 4096 ∧ 0 ≤ address then some (m.get ⟨address.toNat, by omega⟩) else none

theorem at?_cell (m : Memory) {address : Int} {a : Fin 4096} (h : address = a.val) :
    m.at? address = some (m.get a) := by
  subst h
  rw [at?, dif_pos (by omega)]
  rfl

theorem at?_outside (m : Memory) {address : Int} (h : 4096 ≤ address) : m.at? address = none :=
  dif_neg (by omega)

/-- A cell after values were put into the cells from an address on, as far as there are cells. -/
def storedAt (m : Memory) (first : Int) (values : List Int) (a : Fin 4096) : UInt8 :=
  if first ≤ (a.val : Int) then
    ((values[((a.val : Int) - first).toNat]?).map fun n => UInt8.ofNat n.toNat).getD (m.get a)
  else m.get a

@[simp] theorem storedAt_nil (m : Memory) (first : Int) (a : Fin 4096) :
    m.storedAt first [] a = m.get a := by
  simp [storedAt]

/-- Outside the block memory is as it was. -/
theorem storedAt_of_outside (m : Memory) {first : Int} {values : List Int} {a : Fin 4096}
    (h : ¬ (first ≤ (a.val : Int) ∧ (a.val : Int) < first + values.length)) :
    m.storedAt first values a = m.get a := by
  rw [storedAt]
  split
  · rw [List.getElem?_eq_none (by omega)]
    rfl
  · rfl

/-- The first value goes into its cell, and the others go behind it. -/
theorem storedAt_cons (m : Memory) {first : Int} {a : Fin 4096} (h : first = a.val) (value : Int)
    (values : List Int) (c : Fin 4096) :
    m.storedAt first (value :: values) c =
      (m.set a (UInt8.ofNat value.toNat)).storedAt (first + 1) values c := by
  subst h
  rw [storedAt, storedAt, get_set]
  by_cases hc : a = c
  · subst hc
    rw [if_pos (by omega), if_neg (by omega), if_pos rfl, Int.sub_self]
    rfl
  · by_cases hle : (a.val : Int) ≤ c.val
    · have hne : a.val ≠ c.val := fun h => hc (Fin.ext h)
      have hindex : ((c.val : Int) - a.val).toNat = ((c.val : Int) - (a.val + 1)).toNat + 1 := by
        omega
      rw [if_pos hle, if_pos (by omega), if_neg hc, hindex, List.getElem?_cons_succ]
    · rw [if_neg hle, if_neg (by omega), if_neg hc]

end Memory

namespace Registers

/-- A general register after the bytes of the cells from an address on were put into a number of
consecutive registers, as far as there are cells. -/
def loadedAt (r : Registers) (m : Memory) (address : Int) (first count : Nat) (y : Fin 16) : Int :=
  if first ≤ y.val ∧ y.val < first + count then
    ((m.at? (address + (y.val - first : Nat))).map fun b => (b.toNat : Int)).getD (r.get y)
  else r.get y

@[simp] theorem loadedAt_zero (r : Registers) (m : Memory) (address : Int) (first : Nat)
    (y : Fin 16) : r.loadedAt m address first 0 y = r.get y := if_neg (by omega)

/-- Nothing is loaded from beyond the end of memory. -/
theorem loadedAt_outside (r : Registers) (m : Memory) {address : Int} (h : 4096 ≤ address)
    (first count : Nat) (y : Fin 16) : r.loadedAt m address first count y = r.get y := by
  rw [loadedAt, Memory.at?_outside m (by omega)]
  exact ite_self _

/-- The first register gets its byte, and the others get theirs. -/
theorem loadedAt_succ (r : Registers) (m : Memory) {address : Int} {a : Fin 4096}
    (ha : address = a.val) {x : Fin 16} {first : Nat} (hx : x.val = first) (count : Nat)
    (y : Fin 16) :
    r.loadedAt m address first (count + 1) y =
      (r.put x (m.get a).toNat).loadedAt m (address + 1) (first + 1) count y := by
  have hbyte : ((m.get a).toNat : Int) % 256 = (m.get a).toNat := by
    have hlt := (m.get a).toNat_lt
    omega
  rw [loadedAt, loadedAt, get_put]
  by_cases hy : x = y
  · subst hy
    rw [if_pos (by omega), if_neg (by omega), if_pos rfl, hbyte, hx, Nat.sub_self,
      m.at?_cell (a := a) (by omega)]
    rfl
  · have hne : x.val ≠ y.val := fun h => hy (Fin.ext h)
    rw [if_neg hy]
    by_cases hin : first + 1 ≤ y.val ∧ y.val < first + 1 + count
    · have hcell :
          address + (y.val - first : Nat) = address + 1 + (y.val - (first + 1) : Nat) := by
        omega
      rw [if_pos (by omega), if_pos hin, hcell]
    · rw [if_neg (by omega), if_neg hin]

/-- What is loaded from memory is a byte, as the registers hold bytes. -/
theorem loadedAt_byte {r : Registers} (h : ∀ y, 0 ≤ r.get y ∧ r.get y ≤ 255) (m : Memory)
    (address : Int) (first count : Nat) (y : Fin 16) :
    0 ≤ r.loadedAt m address first count y ∧ r.loadedAt m address first count y ≤ 255 := by
  rw [loadedAt]
  split
  · cases m.at? (address + (y.val - first : Nat)) with
    | none => exact h y
    | some b =>
      have hb := b.toNat_lt
      show 0 ≤ (b.toNat : Int) ∧ (b.toNat : Int) ≤ 255
      omega
  · exact h y

end Registers

end Chip8
