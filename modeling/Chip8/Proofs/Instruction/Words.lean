import Chip8.Instruction.Basic

/-!
# Words and their digits

Decoding takes a word apart by its four hexadecimal digits.  Here a word is put together from
digits, so that a pattern like `8xy4` can be written down and its instruction told for all its words
at once.

* `spelled` — the word with four digits, and `exists_digits`: every number of sixteen bits is one;
* `pair`, `triple` — the byte and the address that the last digits spell;
* `digitAt_three` … `addressField_spelled` — the fields of a spelled word;
* `decode_addByte`, `decode_store`, … — the instructions of patterns.
-/

namespace Chip8

namespace Instruction

/-- The word with four digits, the most significant one first. -/
def spelled (d x y n : Fin 16) : Int := 0x1000 * d.val + 0x100 * x.val + 0x10 * y.val + n.val

/-- The byte with two digits. -/
def pair (y n : Fin 16) : Fin 256 := ⟨16 * y.val + n.val, by omega⟩

/-- The address with three digits. -/
def triple (x y n : Fin 16) : Fin 4096 := ⟨256 * x.val + 16 * y.val + n.val, by omega⟩

theorem val_digitAt (word : Int) (place : Nat) :
    ((digitAt word place).val : Int) = word / Nat.pow 16 place % 16 := by
  rw [digitAt]
  exact Int.toNat_of_nonneg (by omega)

/-- Every number of sixteen bits is a word of four digits. -/
theorem exists_digits {word : Int} (h : 0 ≤ word ∧ word < 0x10000) :
    ∃ d x y n, word = spelled d x y n := by
  refine ⟨digitAt word 3, digitAt word 2, digitAt word 1, digitAt word 0, ?_⟩
  rw [spelled, val_digitAt, val_digitAt, val_digitAt, val_digitAt]
  simp only [Nat.pow_eq, Nat.reducePow]
  omega

/-! ## The fields of a spelled word -/

section Fields

variable (d x y n : Fin 16)

@[simp] theorem digitAt_three : digitAt (spelled d x y n) 3 = d := by
  ext
  simp only [digitAt, spelled, Nat.pow_eq, Nat.reducePow]
  omega

@[simp] theorem digitAt_two : digitAt (spelled d x y n) 2 = x := by
  ext
  simp only [digitAt, spelled, Nat.pow_eq, Nat.reducePow]
  omega

@[simp] theorem digitAt_one : digitAt (spelled d x y n) 1 = y := by
  ext
  simp only [digitAt, spelled, Nat.pow_eq, Nat.reducePow]
  omega

@[simp] theorem digitAt_zero : digitAt (spelled d x y n) 0 = n := by
  ext
  simp only [digitAt, spelled, Nat.pow_eq, Nat.reducePow]
  omega

@[simp] theorem lowByte_spelled : lowByte (spelled d x y n) = pair y n := by
  ext
  simp only [lowByte, spelled, pair]
  omega

@[simp] theorem addressField_spelled : addressField (spelled d x y n) = triple x y n := by
  ext
  simp only [addressField, spelled, triple]
  omega

end Fields

/-! ## Patterns -/

theorem decode_addByte (x y n : Fin 16) : decode (spelled 7 x y n) = .addByte x (pair y n) := by
  simp only [decode, digitAt_three, digitAt_two, lowByte_spelled]
  rfl

theorem decode_eight (x y n : Fin 16) :
    decode (spelled 8 x y n) = decodeArithmetic (spelled 8 x y n) x y := by
  simp only [decode, digitAt_three, digitAt_two, digitAt_one]
  rfl

theorem decode_transfer (x y n : Fin 16) :
    decode (spelled 15 x y n) = decodeTransfer (spelled 15 x y n) x := by
  simp only [decode, digitAt_three, digitAt_two]

theorem decode_store (x : Fin 16) : decode (spelled 15 x 5 5) = .store x := by
  rw [decode_transfer, decodeTransfer, lowByte_spelled]
  rfl

theorem decode_load (x : Fin 16) : decode (spelled 15 x 6 5) = .load x := by
  rw [decode_transfer, decodeTransfer, lowByte_spelled]
  rfl

end Instruction

end Chip8
