import Chip8.Proofs.Clock.Exact
import Chip8.Proofs.Instruction.Words
import Chip8.Proofs.Machine.Cycle

/-!
# Arithmetic on registers

The words `8xy1` to `8xy7` and `8xyE` put a result into the register `x` and a flag into the flag
register.  Operands, result and flag may overlap in every way: a register can be combined with
itself, and the flag register can be an operand, the destination, or both.  Still one equation for
each operation tells it all, between the operands as they were before, the result and the flag.

* `Arithmetic` — the operations, with the digits by which their words are told apart;
* `Arithmetic.Balances` — the equation of each, and `Balances.unique`: it leaves no choice;
* `execute_arithmetic` — the operands are read before either register is written, and the flag
  register is written last;
* `computes_registers` — **every operation balances, whichever registers coincide**, and so does the
  addition of a byte, which sets no flag.
-/

namespace Chip8

/-- The operations that set the flag register. -/
inductive Arithmetic where
  | or
  | and
  | xor
  | add
  | sub
  | shiftRight
  | subFrom
  | shiftLeft
  deriving DecidableEq, Repr

namespace Arithmetic

/-- The number by which the word of an operation ends. -/
def ending : Arithmetic → Nat
  | or => 0x1
  | and => 0x2
  | xor => 0x3
  | add => 0x4
  | sub => 0x5
  | shiftRight => 0x6
  | subFrom => 0x7
  | shiftLeft => 0xE

theorem ending_lt (op : Arithmetic) : op.ending < 16 := by
  cases op <;> decide

/-- The last digit of the word of an operation. -/
def digit (op : Arithmetic) : Fin 16 := ⟨op.ending, op.ending_lt⟩

/-- The instruction of an operation. -/
def instruction (x y : Fin 16) : Arithmetic → Instruction
  | or => .bitOr x y
  | and => .bitAnd x y
  | xor => .bitXor x y
  | add => .add x y
  | sub => .sub x y
  | shiftRight => .shiftRight x y
  | subFrom => .subFrom x y
  | shiftLeft => .shiftLeft x y

theorem decode_spelled (op : Arithmetic) (x y : Fin 16) :
    Instruction.decode (Instruction.spelled 8 x y op.digit) = op.instruction x y := by
  rw [Instruction.decode_eight, Instruction.decodeArithmetic, Instruction.digitAt_zero]
  cases op <;> rfl

/-- The equation between the operands of an operation, its result and its flag.  A carry is worth
256, and a borrow, which is the absence of the flag, as much. -/
def Balances (a b shifted result flag : Int) : Arithmetic → Prop
  | or => result = (a.toNat ||| b.toNat : Nat) ∧ flag = 0
  | and => result = (a.toNat &&& b.toNat : Nat) ∧ flag = 0
  | xor => result = (a.toNat ^^^ b.toNat : Nat) ∧ flag = 0
  | add => result + 256 * flag = a + b
  | sub => result = a - b + 256 * (1 - flag)
  | subFrom => result = b - a + 256 * (1 - flag)
  | shiftRight => 2 * result + flag = shifted
  | shiftLeft => result + 256 * flag = 2 * shifted

/-- The equation leaves no choice: at most one byte and one bit satisfy it. -/
theorem Balances.unique {op : Arithmetic} {a b shifted r f r' f' : Int}
    (h : op.Balances a b shifted r f) (h' : op.Balances a b shifted r' f')
    (hr : 0 ≤ r ∧ r ≤ 255) (hr' : 0 ≤ r' ∧ r' ≤ 255) (hf : f = 0 ∨ f = 1) (hf' : f' = 0 ∨ f' = 1) :
    r = r' ∧ f = f' := by
  cases op with
  | or | and | xor => exact ⟨h.1.trans h'.1.symm, h.2.trans h'.2.symm⟩
  | add | sub | subFrom | shiftRight | shiftLeft =>
    simp only [Balances] at h h'
    omega

end Arithmetic

/-- The value that a shift works on. -/
def Registers.shifted (r : Registers) (x y : Fin 16) : Int :=
  if r.shiftSecond then r.get y else r.get x

namespace Action

variable {τ : Type}

/-- What a shift works on, if the registers hold bytes. -/
theorem shiftOperand_eq (x y : Fin 16) {s : System τ}
    (hbytes : ∀ z, 0 ≤ s.machine.registers.get z ∧ s.machine.registers.get z ≤ 255) :
    shiftOperand x y s = .ok (s.machine.registers.shifted x y) s := by
  have hy := hbytes y
  rw [shiftOperand, bind_of_ok (registers_apply s), Registers.shifted]
  cases s.machine.registers.shiftSecond with
  | true =>
    show EStateM.Result.ok (s.machine.registers.get y % 256) s = _
    rw [Int.emod_eq_of_lt hy.1 (by omega)]
    rfl
  | false => rfl

theorem byteValue_of_byte {n : Int} (h : 0 ≤ n ∧ n ≤ 255) : byteValue n = n.toNat := by
  rw [byteValue, Int.emod_eq_of_lt h.1 (by omega)]

/-- A number below 256 is put into a register as it is. -/
theorem emod_of_lt {n : Nat} (h : n < 256) : (n : Int) % 256 = n :=
  Int.emod_eq_of_lt (Int.natCast_nonneg n) (by omega)

variable [TimeScale τ]

/-- **An operation puts a number into its register and then a flag into the flag register**, and the
low byte of the number balances with the flag and the operands. -/
theorem execute_arithmetic (op : Arithmetic) (x y : Fin 16) {s : System τ}
    (hbytes : ∀ z, 0 ≤ s.machine.registers.get z ∧ s.machine.registers.get z ≤ 255) :
    ∃ n flag display,
      execute (op.instruction x y) s = .ok (.advance display)
        { s with machine.registers :=
            (s.machine.registers.put x n).assign Registers.flag flag } ∧
      (flag = 0 ∨ flag = 1) ∧
      op.Balances (s.machine.registers.get x) (s.machine.registers.get y)
        (s.machine.registers.shifted x y) (n % 256) flag := by
  have ha := hbytes x
  have hb := hbytes y
  have hshift := shiftOperand_eq x y hbytes
  have ha' : (s.machine.registers.get x).toNat < 2 ^ 8 := by omega
  have hb' : (s.machine.registers.get y).toNat < 2 ^ 8 := by omega
  have hshifted : 0 ≤ s.machine.registers.shifted x y ∧
      s.machine.registers.shifted x y ≤ 255 := by
    rw [Registers.shifted]
    split
    · exact hb
    · exact ha
  cases op with
  | or =>
    refine ⟨_, _, _, rfl, .inl rfl, ?_, rfl⟩
    rw [byteValue_of_byte ha, byteValue_of_byte hb]
    exact emod_of_lt (Nat.or_lt_two_pow ha' hb')
  | and =>
    refine ⟨_, _, _, rfl, .inl rfl, ?_, rfl⟩
    rw [byteValue_of_byte ha, byteValue_of_byte hb]
    exact emod_of_lt (Nat.and_lt_two_pow _ hb')
  | xor =>
    refine ⟨_, _, _, rfl, .inl rfl, ?_, rfl⟩
    rw [byteValue_of_byte ha, byteValue_of_byte hb]
    exact emod_of_lt (Nat.xor_lt_two_pow ha' hb')
  | add =>
    refine ⟨_, _, _, rfl, ?_, ?_⟩
    · split <;> simp
    · show _ % 256 + 256 * _ = _
      split <;> omega
  | sub =>
    refine ⟨_, _, _, rfl, ?_, ?_⟩
    · split <;> simp
    · show _ % 256 = _ - _ + 256 * (1 - _)
      split <;> omega
  | subFrom =>
    refine ⟨_, _, _, rfl, ?_, ?_⟩
    · split <;> simp
    · show _ % 256 = _ - _ + 256 * (1 - _)
      split <;> omega
  | shiftRight =>
    rw [Arithmetic.instruction, execute, bind_of_ok hshift]
    refine ⟨_, _, _, rfl, ?_, ?_⟩
    · omega
    · show 2 * (_ % 256) + _ = _
      omega
  | shiftLeft =>
    rw [Arithmetic.instruction, execute, bind_of_ok hshift]
    refine ⟨_, _, _, rfl, ?_, ?_⟩
    · omega
    · show _ % 256 + 256 * _ = 2 * _
      omega

theorem execute_addByte (x : Fin 16) (byte : Fin 256) (s : System τ) :
    execute (.addByte x byte) s = .ok (.advance s!"Add {byte.val} to {registerName x}")
      { s with machine.registers :=
          s.machine.registers.put x (s.machine.registers.get x + byte.val) } := rfl

/-- **Arithmetic on registers**, in every state whose registers hold bytes.

Each operation gives the byte and the flag that balance with the values of its two registers, which
may be one register, before it.  The flag register then holds the flag, also if it is an operand or
the destination; the destination, if it is another register, holds the byte.  The word `7xnn` adds a
byte and drops the carry.  Nothing else changes. -/
theorem computes_registers (x y : Fin 16) {s : System τ}
    (hbytes : ∀ z, 0 ≤ s.machine.registers.get z ∧ s.machine.registers.get z ≤ 255) :
    (∀ op : Arithmetic, ∃ result flag display v,
      execute (Instruction.decode (Instruction.spelled 8 x y op.digit)) s =
        .ok (.advance display) { s with machine.registers.v := v } ∧
      (0 ≤ result ∧ result ≤ 255) ∧ (flag = 0 ∨ flag = 1) ∧
      op.Balances (s.machine.registers.get x) (s.machine.registers.get y)
        (if s.machine.registers.shiftSecond then s.machine.registers.get y
          else s.machine.registers.get x) result flag ∧
      v.get Registers.flag = flag ∧ (x ≠ Registers.flag → v.get x = result) ∧
      ∀ z, z ≠ x → z ≠ Registers.flag → v.get z = s.machine.registers.get z) ∧
    ∀ m n, ∃ display v,
      execute (Instruction.decode (Instruction.spelled 7 x m n)) s =
        .ok (.advance display) { s with machine.registers.v := v } ∧
      v.get x = (s.machine.registers.get x + (Instruction.pair m n).val) % 256 ∧
      ∀ z, z ≠ x → v.get z = s.machine.registers.get z := by
  refine ⟨fun op => ?_, fun m n => ?_⟩
  · obtain ⟨number, flag, display, hrun, hflag, hbalances⟩ := execute_arithmetic op x y hbytes
    rw [← op.decode_spelled] at hrun
    have hget : ∀ z, ((s.machine.registers.put x number).assign Registers.flag flag).get z =
        if Registers.flag = z then flag
        else if x = z then number % 256 else s.machine.registers.get z := by
      intro z
      rw [Registers.get_assign, Registers.get_put]
    refine ⟨number % 256, flag, display, _, hrun, by omega, hflag, hbalances, ?_, fun hx => ?_,
      fun z hzx hz => ?_⟩
    · exact (hget _).trans (if_pos rfl)
    · exact (hget x).trans ((if_neg hx.symm).trans (if_pos rfl))
    · exact (hget z).trans ((if_neg hz.symm).trans (if_neg hzx.symm))
  · have hrun := execute_addByte x (Instruction.pair m n) s
    rw [← Instruction.decode_addByte] at hrun
    refine ⟨_, _, hrun, ?_, fun z hz => ?_⟩
    · exact (Registers.get_put ..).trans (if_pos rfl)
    · exact (Registers.get_put ..).trans (if_neg hz.symm)

/-- A machine with 200 in the flag register. -/
def flagged : System Rat :=
  { System.powerOn (Host.still 0 fun _ => 0) with
    machine.registers := Registers.initial.assign Registers.flag 200 }

/-- Doubling the flag register leaves the carry in it, not the sum. -/
theorem computes_registers_doubling :
    (∀ z, 0 ≤ flagged.machine.registers.get z ∧ flagged.machine.registers.get z ≤ 255) ∧
    ∃ display v, execute (Instruction.decode 0x8FF4) flagged =
      .ok (.advance display) { flagged with machine.registers.v := v } ∧ v.get 15 = 1 := by
  have hbytes : ∀ z,
      0 ≤ flagged.machine.registers.get z ∧ flagged.machine.registers.get z ≤ 255 :=
    (Registers.inRange_initial.assign Registers.flag (by decide)).general
  have hword : Instruction.spelled 8 15 15 Arithmetic.add.digit = 0x8FF4 := rfl
  have hvalue : flagged.machine.registers.get 15 = 200 :=
    (Registers.initial.get_assign Registers.flag 15 200).trans (if_pos rfl)
  obtain ⟨result, flag, display, v, hrun, hresult, hflag, hbalances, hv, -⟩ :=
    (computes_registers 15 15 hbytes).1 .add
  rw [hword] at hrun
  rw [hvalue] at hbalances
  have hexpected : Arithmetic.add.Balances 200 200 200 144 1 := by
    show (144 : Int) + 256 * 1 = 200 + 200
    decide
  obtain ⟨-, hone⟩ := hbalances.unique hexpected hresult (by decide) hflag (.inr rfl)
  exact ⟨hbytes, display, v, hrun, hv.trans hone⟩

end Action

end Chip8
