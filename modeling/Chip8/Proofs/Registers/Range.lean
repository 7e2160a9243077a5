import Chip8.Registers

/-!
# Registers in range

The registers hold integers, because a host may put anything into them.  `Registers.InRange` says
what is left of that freedom once only programs have written them: bytes in the general registers,
two bytes in the index register, a program counter that no jump takes further than `nnn + V0`, and
a stack of at most sixteen addresses.

* `inRange_initial` and `InRange.reset` — the registers at power-on and after a reset;
* `InRange.put`, `InRange.assign`, `InRange.withIndex`, `InRange.withPc` — what an instruction
  writes keeps the registers in range;
* `InRange.push_free` and `InRange.pop_used` — what a call and a return do in range, and
  `InRange.withPushed` and `InRange.withPopped` that it keeps the registers in range; `push_full`
  and `pop_empty` are their only failures.
-/

namespace Chip8

namespace Registers

/-- Every register holds what a program can have put there. -/
structure InRange (r : Registers) : Prop where
  /-- The general registers hold bytes. -/
  general : ∀ x, 0 ≤ r.get x ∧ r.get x ≤ 255
  /-- The index register holds two bytes. -/
  index : 0 ≤ r.index ∧ r.index ≤ 0xFFFF
  /-- The program counter is at most as far as a jump with an offset goes. -/
  pc : 0 ≤ r.pc ∧ r.pc ≤ 0xFFF + 0xFF
  /-- No more slots are in use than there are. -/
  sp : 0 ≤ r.sp ∧ r.sp ≤ 16
  /-- Every slot holds the address after an instruction. -/
  stack : ∀ k, 0 ≤ r.slot k ∧ r.slot k ≤ 4096
  /-- Only a drawing that has to wait is waiting. -/
  awaiting : r.awaitingBlank = true → r.drawOnBlank = true

theorem inRange_initial : initial.InRange := by
  have hzero : ∀ k : Fin 16, (Vector.replicate 16 (0 : Int)).get k = 0 := fun k =>
    Vector.getElem_replicate k.isLt
  refine ⟨fun x => ?_, by decide, by decide, by decide, fun k => ?_, by decide⟩
  · show 0 ≤ (Vector.replicate 16 (0 : Int)).get x ∧ _
    rw [get, initial, hzero]
    decide
  · show 0 ≤ (Vector.replicate 16 (0 : Int)).get k ∧ _
    rw [slot, initial, hzero]
    decide

namespace InRange

variable {r : Registers}

/-- A value put into a general register as it is has to be a byte. -/
theorem assign (h : r.InRange) (x : Fin 16) {n : Int} (hn : 0 ≤ n ∧ n ≤ 255) :
    (r.assign x n).InRange := by
  refine ⟨fun y => ?_, h.index, h.pc, h.sp, h.stack, h.awaiting⟩
  rw [get_assign]
  split
  · exact hn
  · exact h.general y

/-- Whatever is put into a general register is cut to a byte. -/
theorem put (h : r.InRange) (x : Fin 16) (n : Int) : (r.put x n).InRange :=
  h.assign x ⟨by omega, by omega⟩

theorem withGeneral (h : r.InRange) {v : Vector Int 16} (hv : ∀ x, 0 ≤ v.get x ∧ v.get x ≤ 255) :
    { r with v := v }.InRange :=
  ⟨hv, h.index, h.pc, h.sp, h.stack, h.awaiting⟩

theorem withIndex (h : r.InRange) {n : Int} (hn : 0 ≤ n ∧ n ≤ 0xFFFF) :
    { r with index := n }.InRange :=
  ⟨h.general, hn, h.pc, h.sp, h.stack, h.awaiting⟩

theorem withPc (h : r.InRange) {n : Int} (hn : 0 ≤ n ∧ n ≤ 0xFFF + 0xFF) :
    { r with pc := n }.InRange :=
  ⟨h.general, h.index, hn, h.sp, h.stack, h.awaiting⟩

theorem withAwaiting (h : r.InRange) {on : Bool} (hon : on = true → r.drawOnBlank = true) :
    { r with awaitingBlank := on }.InRange :=
  ⟨h.general, h.index, h.pc, h.sp, h.stack, hon⟩

theorem setShiftSecond (h : r.InRange) (on : Bool) : (r.setShiftSecond on).InRange :=
  ⟨h.general, h.index, h.pc, h.sp, h.stack, h.awaiting⟩

/-- A drawing is let go together with the option to wait. -/
theorem setDrawOnBlank (h : r.InRange) (on : Bool) : (r.setDrawOnBlank on).InRange := by
  refine ⟨h.general, h.index, h.pc, h.sp, h.stack, fun hw => ?_⟩
  rw [Registers.setDrawOnBlank, Bool.and_eq_true] at hw
  exact hw.2

theorem reset (r : Registers) : r.reset.InRange :=
  (inRange_initial.setShiftSecond _).setDrawOnBlank _

end InRange

/-! ## The call stack in range -/

/-- A call with every slot taken fails and leaves the registers alone. -/
theorem push_full {r : Registers} (address : Int) (h : 16 ≤ r.sp) :
    push address r = .error (.stackOverflow r.pc) r := by
  show (if 16 ≤ r.sp then throw (.stackOverflow r.pc) else _ : EStateM Fault Registers Unit) r = _
  rw [if_pos h]
  rfl

/-- A return with no slot taken fails and leaves the registers alone. -/
theorem pop_empty {r : Registers} (h : r.sp ≤ 0) :
    pop r = .error (.stackUnderflow r.pc) r := by
  show (if r.sp ≤ 0 then throw (.stackUnderflow r.pc) else _ : EStateM Fault Registers Int) r = _
  rw [if_pos h]
  rfl

namespace InRange

variable {r : Registers}

/-- A call into a free slot. -/
theorem push_free (h : r.InRange) (address : Int) (hsp : r.sp < 16) :
    ∃ k : Fin 16, r.sp = k.val ∧
      push address r = .ok () { r.setSlot k address with sp := (k.val : Int) + 1 } := by
  have h0 := h.sp.1
  have hs : r.sp = ((r.sp.toNat : Nat) : Int) := by omega
  exact ⟨⟨r.sp.toNat, by omega⟩, hs, push_eq r address _ hs⟩

/-- A return to a slot that is in use. -/
theorem pop_used (h : r.InRange) (hsp : 0 < r.sp) :
    ∃ k : Fin 16, r.sp = (k.val : Int) + 1 ∧ pop r = .ok (r.slot k) { r with sp := k.val } := by
  have h1 := h.sp.2
  have hs : r.sp = (((r.sp - 1).toNat : Nat) : Int) + 1 := by omega
  exact ⟨⟨(r.sp - 1).toNat, by omega⟩, hs, pop_eq r _ hs⟩

theorem withPushed (h : r.InRange) (k : Fin 16) {address : Int}
    (ha : 0 ≤ address ∧ address ≤ 4096) :
    { r.setSlot k address with sp := (k.val : Int) + 1 }.InRange := by
  have hsp : 0 ≤ (k.val : Int) + 1 ∧ (k.val : Int) + 1 ≤ 16 := by omega
  refine ⟨h.general, h.index, h.pc, hsp, fun l => ?_, h.awaiting⟩
  show 0 ≤ (r.setSlot k address).slot l ∧ (r.setSlot k address).slot l ≤ 4096
  rw [slot_setSlot]
  split
  · exact ha
  · exact h.stack l

theorem withPopped (h : r.InRange) (k : Fin 16) : { r with sp := (k.val : Int) }.InRange := by
  have hsp : 0 ≤ (k.val : Int) ∧ (k.val : Int) ≤ 16 := by omega
  exact ⟨h.general, h.index, h.pc, hsp, h.stack, h.awaiting⟩

end InRange

end Registers

end Chip8
