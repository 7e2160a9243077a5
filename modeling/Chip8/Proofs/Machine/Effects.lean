import Chip8.Proofs.Machine.Memory

/-!
# What instructions do

Most instructions are **plain**: they compute with the general registers and the index register,
touch nothing else of the machine, and always go on.  `execute_plain` says that once for all of
them.  The others have a statement each, which gives the answer and the state they leave:

* `execute_clear`, `execute_ret`, `execute_call`, `execute_awaitKey` — one part of the machine each;
* `skipOnKey_outside`, `skipOnKey_inside` — a skip on a key fails at a register that names none;
* `startTimer_eq` — a register in range always fits into a timer;
* `execute_decimal_eq`, `execute_store_eq`, `execute_load_eq` — the sweeps through memory, with all
  that they have done when they end;
* `execute_draw_stalled`, `execute_draw_eq` — a drawing waits exactly if `drawStalls` says so, and
  else is one more sweep;
* `execute_decimal`, `execute_store`, `execute_load`, `execute_draw` — the same sweeps, for when it
  is enough to know which parts of the machine they change.
-/

namespace Chip8

open Text

/-- An instruction that only computes with general registers and the index register, and then goes
on somewhere. -/
def Instruction.isPlain : Instruction → Bool
  | .clear | .ret | .call _ | .skipPressed _ | .skipReleased _ | .awaitKey _ | .setDelay _
  | .setSound _ | .decimal _ | .store _ | .load _ | .draw .. => false
  | _ => true

/-- An instruction that goes through memory. -/
def Instruction.isSweep : Instruction → Bool
  | .decimal _ | .store _ | .load _ | .draw .. => true
  | _ => false

/-- The machine goes on, at most as far as a jump with an offset goes. -/
def PcUpdate.Onward : PcUpdate → Prop
  | .advance | .skip => True
  | .jump target => 0 ≤ target ∧ target ≤ 0xFFF + 0xFF
  | .stall => False

theorem onward_skipIf (condition : Bool) (display : String) :
    (Outcome.skipIf condition display).update.Onward := by
  cases condition <;> trivial

namespace Action

variable {τ α : Type}

/-! ## Plain instructions -/

/-- The operand of a shift is a byte. -/
theorem shiftOperand_apply (x y : Fin 16) {s : System τ} (hr : s.machine.registers.InRange) :
    ∃ a, (0 ≤ a ∧ a ≤ 255) ∧ shiftOperand x y s = .ok a s := by
  cases hs : s.machine.registers.shiftSecond with
  | true =>
    refine ⟨s.machine.registers.get y % 256, by omega, ?_⟩
    rw [shiftOperand, bind_of_ok (registers_apply s), hs]
    rfl
  | false =>
    refine ⟨s.machine.registers.get x, hr.general x, ?_⟩
    rw [shiftOperand, bind_of_ok (registers_apply s), hs]
    rfl

/-- Putting a result and a flag into registers in range leaves them in range. -/
theorem inRange_putWithFlag {r : Registers} (hr : r.InRange) (x : Fin 16) (result : Int)
    {flag : Int}
    (hf : 0 ≤ flag ∧ flag ≤ 255) : ((r.put x result).assign Registers.flag flag).InRange :=
  (hr.put x result).assign _ hf

/-- **A plain instruction always succeeds**, changes nothing of the machine but general registers
and the index register, which stay in range, and goes on. -/
theorem execute_plain [TimeScale τ] {i : Instruction} (hi : i.isPlain = true) {s : System τ}
    (hr : s.machine.registers.InRange) :
    ∃ o v index host,
      execute i s = .ok o
        { machine :=
            { s.machine with registers := { s.machine.registers with v := v, index := index } }
          host := host } ∧
      { s.machine.registers with v := v, index := index }.InRange ∧ o.update.Onward := by
  cases i with
  | clear | ret | call | skipPressed | skipReleased | awaitKey | setDelay | setSound | decimal
  | store | load | draw => exact absurd hi Bool.false_ne_true
  | jump target => exact ⟨_, _, _, _, rfl, hr, show _ ∧ _ by omega⟩
  | jumpOffset base =>
    have h0 := hr.general Digit.first
    exact ⟨_, _, _, _, rfl, hr, show _ ∧ _ by omega⟩
  | skipEqual | skipUnequal | skipSame | skipDifferent =>
    exact ⟨_, _, _, _, rfl, hr, onward_skipIf _ _⟩
  | setByte x | addByte x | copy x | random x | getDelay x =>
    exact ⟨_, _, _, _, rfl, hr.put x _, trivial⟩
  | bitOr x | bitAnd x | bitXor x =>
    exact ⟨_, _, _, _, rfl, inRange_putWithFlag hr x _ (by decide), trivial⟩
  | add x | sub x | subFrom x =>
    exact ⟨_, _, _, _, rfl, inRange_putWithFlag hr x _ (by split <;> decide), trivial⟩
  | shiftRight x y =>
    obtain ⟨a, ha, hrun⟩ := shiftOperand_apply x y hr
    rw [execute, bind_of_ok hrun]
    exact ⟨_, _, _, _, rfl, inRange_putWithFlag hr x (a / 2) (by omega), trivial⟩
  | shiftLeft x y =>
    obtain ⟨a, ha, hrun⟩ := shiftOperand_apply x y hr
    rw [execute, bind_of_ok hrun]
    exact ⟨_, _, _, _, rfl, inRange_putWithFlag hr x (a * 2) (by omega), trivial⟩
  | setIndex address => exact ⟨_, _, _, _, rfl, hr.withIndex (by omega), trivial⟩
  | addIndex x => exact ⟨_, _, _, _, rfl, hr.withIndex (by omega), trivial⟩
  | glyph x =>
    have hx := hr.general x
    have hindex : 0 ≤ (glyphHeight : Int) * s.machine.registers.get x ∧
        (glyphHeight : Int) * s.machine.registers.get x ≤ 0xFFFF := by
      simp only [glyphHeight]
      omega
    exact ⟨_, _, _, _, rfl, hr.withIndex hindex, trivial⟩
  | undefined word => exact ⟨_, _, _, _, rfl, hr, trivial⟩

/-! ## One part of the machine -/

theorem onRegisters_of_ok {act : EStateM Fault Registers α} {s : System τ} {a : α} {r : Registers}
    (h : act s.machine.registers = .ok a r) :
    onRegisters act s = .ok a { s with machine.registers := r } := by
  rw [onRegisters, h]

theorem onRegisters_of_error {act : EStateM Fault Registers α} {s : System τ} {f : Fault}
    (h : act s.machine.registers = .error f s.machine.registers) :
    onRegisters act s = .error f s := by
  rw [onRegisters, h]

variable [TimeScale τ]

theorem execute_clear (s : System τ) :
    execute .clear s =
      .ok (.advance "Clear the screen") { s with machine.screen := s.machine.screen.clear } := rfl

/-- A return with no call in progress fails. -/
theorem execute_ret_empty {s : System τ} (h : s.machine.registers.sp ≤ 0) :
    execute .ret s = .error (.stackUnderflow s.machine.registers.pc) s := by
  rw [execute, bind_of_error (onRegisters_of_error (Registers.pop_empty h))]

/-- A return goes to the address in the topmost slot in use. -/
theorem execute_ret {s : System τ} (hr : s.machine.registers.InRange)
    (h : 0 < s.machine.registers.sp) :
    ∃ k : Fin 16, s.machine.registers.sp = (k.val : Int) + 1 ∧
      execute .ret s =
        .ok (.jump (s.machine.registers.slot k)
            ("Return to addr " ++ HexForm.address.write (s.machine.registers.slot k)))
          { s with machine.registers.sp := k.val } := by
  obtain ⟨k, hk, hpop⟩ := hr.pop_used h
  refine ⟨k, hk, ?_⟩
  rw [execute, bind_of_ok (onRegisters_of_ok hpop)]
  rfl

/-- A call with every slot in use fails. -/
theorem execute_call_full {s : System τ} (target : Fin 4096) (h : 16 ≤ s.machine.registers.sp) :
    execute (.call target) s = .error (.stackOverflow s.machine.registers.pc) s := by
  rw [execute, bind_of_ok (registers_apply s),
    bind_of_error (onRegisters_of_error (Registers.push_full _ h))]

/-- A call leaves the address of the instruction after it in the first free slot. -/
theorem execute_call {s : System τ} (target : Fin 4096) (hr : s.machine.registers.InRange)
    (h : s.machine.registers.sp < 16) :
    ∃ k : Fin 16, s.machine.registers.sp = k.val ∧
      execute (.call target) s =
        .ok (.jump target.val ("Call subroutine at " ++ HexForm.address.write target.val))
          { s with
            machine.registers :=
              { s.machine.registers.setSlot k (s.machine.registers.pc + 2) with
                sp := (k.val : Int) + 1 } } := by
  obtain ⟨k, hk, hpush⟩ := hr.push_free (s.machine.registers.pc + 2) h
  refine ⟨k, hk, ?_⟩
  rw [execute, bind_of_ok (registers_apply s), bind_of_ok (onRegisters_of_ok hpush)]
  rfl

/-! ## The keypad and the timers -/

omit [TimeScale τ] in
theorem isPressed_outside {key : Int} (h : 15 < key) (s : System τ) :
    isPressed key s = .error (.keyOutOfRange key) s := by
  have hkey : s.machine.keypad.isPressed key = .error (.keyOutOfRange key) := by
    rw [Keypad.isPressed, Keypad.index, Digit.require_outside _ (by omega)]
    rfl
  rw [isPressed, bind_of_ok (machine_apply s), hkey, check_error]

omit [TimeScale τ] in
theorem isPressed_inside (key : Fin 16) (s : System τ) :
    isPressed key.val s = .ok (s.machine.keypad.isDown key) s := by
  have hkey : s.machine.keypad.isPressed key.val = .ok (s.machine.keypad.isDown key) := by
    rw [Keypad.isPressed, Keypad.index, Digit.require_coe]
    rfl
  rw [isPressed, bind_of_ok (machine_apply s), hkey, check_ok]

omit [TimeScale τ] in
/-- A skip on a key fails at a register that names no key. -/
theorem skipOnKey_outside (down : Bool) {x : Fin 16} {s : System τ}
    (h : 15 < s.machine.registers.get x) :
    skipOnKey down x s = .error (.keyOutOfRange (s.machine.registers.get x)) s := by
  rw [skipOnKey, bind_of_ok (registers_apply s), bind_of_error (isPressed_outside h s)]

omit [TimeScale τ] in
/-- A skip on a key that exists only looks at it. -/
theorem skipOnKey_inside (down : Bool) {x key : Fin 16} {s : System τ}
    (h : s.machine.registers.get x = key.val) :
    skipOnKey down x s = .ok (.skipIf (s.machine.keypad.isDown key == down)
      (skipOnKeyText down key.val (s.machine.keypad.isDown key == down))) s := by
  rw [skipOnKey, bind_of_ok (registers_apply s), h, bind_of_ok (isPressed_inside key s)]
  rfl

/-- A wait for a key is on behalf of the register which the instruction names. -/
theorem execute_awaitKey (x : Fin 16) (s : System τ) :
    execute (.awaitKey x) s =
      .ok (.advance s!"Store next key press in {registerName x}")
        { s with machine.keypad := s.machine.keypad.await x } := by
  have hrequest : s.machine.keypad.request x.val = .ok (s.machine.keypad.await x) := by
    rw [Keypad.request, Keypad.index, Digit.require_coe]
    rfl
  have hact : requestKey x.val s =
      .ok () { s with machine.keypad := s.machine.keypad.await x } := by
    rw [requestKey, bind_of_ok (machine_apply s), hrequest]
    rfl
  rw [execute, bind_of_ok hact]
  rfl

omit [TimeScale τ] in
/-- A register in range always fits into a timer. -/
theorem startTimer_eq (t : Clock.Timer) (x : Fin 16) {s : System τ}
    (hr : s.machine.registers.InRange) :
    startTimer t x s =
      .ok (.advance s!"Set {t.name} timer to {registerName x} ({s.machine.registers.get x})")
        { s with
          machine.clock :=
            s.machine.clock.withTimer t (UInt8.ofNat (s.machine.registers.get x).toNat) } := by
  have hact : setTimer t (s.machine.registers.get x) s = .ok ()
      { s with
        machine.clock :=
          s.machine.clock.withTimer t (UInt8.ofNat (s.machine.registers.get x).toNat) } := by
    rw [setTimer, bind_of_ok (machine_apply s), Clock.assign_accepted _ t (hr.general x)]
    rfl
  rw [startTimer, bind_of_ok (registers_apply s), bind_of_ok hact]
  rfl

/-! ## The sweeps -/

theorem length_registersUpTo (x : Fin 16) : (registersUpTo x).length = x.val + 1 := by
  rw [registersUpTo, List.length_take, List.length_finRange]
  omega

theorem val_registersUpTo (x : Fin 16) :
    (registersUpTo x).map Fin.val = List.range' 0 (registersUpTo x).length := by
  revert x
  decide

/-- The values that the registers up to a register hold. -/
def valuesUpTo (r : Registers) (x : Fin 16) : List Int := (registersUpTo x).map r.get

theorem length_valuesUpTo (r : Registers) (x : Fin 16) : (valuesUpTo r x).length = x.val + 1 := by
  rw [valuesUpTo, List.length_map, length_registersUpTo]

/-- The decimal digits of a byte, the most significant one first. -/
def digits (value : Int) : List Int := [value / 100 % 10, value / 10 % 10, value % 10]

theorem endOfMove_inRange {first : Int} (h : 0 ≤ first ∧ first ≤ 0xFFFF) (count : Nat) :
    0 ≤ endOfMove first count ∧ endOfMove first count ≤ 0xFFFF := by
  rw [endOfMove]
  omega

/-- Storing registers writes them to the cells that there are. -/
theorem execute_store_eq (x : Fin 16) {s : System τ} (hr : s.machine.registers.InRange) :
    ∃ memory accesses,
      (∀ a, memory.get a = s.machine.memory.storedAt s.machine.registers.index
        (valuesUpTo s.machine.registers x) a) ∧
      execute (.store x) s = endOfSweep s.machine.registers.index (x.val + 1)
        (.advance s!"Store V0 to {registerName x} starting at I")
        { s with
          machine.memory := memory
          machine.accesses := accesses
          machine.registers.index := endOfMove s.machine.registers.index (x.val + 1) } := by
  obtain ⟨memory, accesses, hmemory, hrun⟩ :=
    storeRegisters_eq (registersUpTo x) s hr.general hr.index.1
  rw [length_registersUpTo] at hrun
  refine ⟨memory, accesses, hmemory, ?_⟩
  rw [execute, bind_of_sweep hrun]
  rfl

/-- Loading registers reads them from the cells that there are, whatever the registers hold. -/
theorem execute_load_eq (x : Fin 16) {s : System τ} (hindex : 0 ≤ s.machine.registers.index) :
    ∃ (v : Vector Int 16) (accesses : Array Access),
      (∀ y, v.get y = s.machine.registers.loadedAt s.machine.memory s.machine.registers.index 0
        (x.val + 1) y) ∧
      execute (.load x) s = endOfSweep s.machine.registers.index (x.val + 1)
        (.advance s!"Read memory at I into V0 to {registerName x}")
        { s with
          machine.registers.v := v
          machine.registers.index := endOfMove s.machine.registers.index (x.val + 1)
          machine.accesses := accesses } := by
  obtain ⟨v, accesses, hv, hrun⟩ :=
    loadRegisters_eq (registersUpTo x) s 0 (val_registersUpTo x) hindex
  rw [length_registersUpTo] at hv hrun
  refine ⟨v, accesses, hv, ?_⟩
  rw [execute, bind_of_sweep hrun]
  rfl

/-- Writing the digits of a register writes them to the cells that there are. -/
theorem execute_decimal_eq (x : Fin 16) {s : System τ} (hr : s.machine.registers.InRange) :
    ∃ memory accesses,
      (∀ a, memory.get a = s.machine.memory.storedAt s.machine.registers.index
        (digits (s.machine.registers.get x)) a) ∧
      execute (.decimal x) s = endOfSweep s.machine.registers.index 3
        (.advance s!"Store BCD of {s.machine.registers.get x} starting at I")
        { s with machine.memory := memory, machine.accesses := accesses } := by
  have hi := hr.index.1
  rw [execute, bind_of_ok (registers_apply s), digits]
  let having (memory : Memory) (accesses : Array Access) : System τ :=
    { s with machine.memory := memory, machine.accesses := accesses }
  refine write_then_eq (s := s) hi (by omega) fun memory accesses => ?_
  refine write_then_eq (s := having memory accesses) (by omega) (by omega)
    fun memory accesses => ?_
  rw [show s.machine.registers.index + 1 + 1 = s.machine.registers.index + 2 by omega]
  refine write_then_eq (s := having memory accesses) (by omega) (by omega)
    fun memory accesses => ?_
  refine ⟨memory, accesses, by simp, ?_⟩
  rw [List.length_nil, endOfSweep_zero]
  rfl

/-! Often it is enough to know which parts of the machine a sweep changes. -/

/-- Storing registers changes memory, the index register and the record of accesses. -/
theorem execute_store (x : Fin 16) {s : System τ} (hr : s.machine.registers.InRange) :
    ∃ memory accesses index, (0 ≤ index ∧ index ≤ 0xFFFF) ∧
      execute (.store x) s = endOfSweep s.machine.registers.index (x.val + 1)
        (.advance s!"Store V0 to {registerName x} starting at I")
        { s with
          machine.memory := memory
          machine.accesses := accesses
          machine.registers.index := index } := by
  obtain ⟨memory, accesses, -, hrun⟩ := execute_store_eq x hr
  exact ⟨memory, accesses, _, endOfMove_inRange hr.index _, hrun⟩

/-- Loading registers changes general registers, the index register and the record of accesses. -/
theorem execute_load (x : Fin 16) {s : System τ} (hr : s.machine.registers.InRange) :
    ∃ v accesses index, { s.machine.registers with v := v, index := index }.InRange ∧
      execute (.load x) s = endOfSweep s.machine.registers.index (x.val + 1)
        (.advance s!"Read memory at I into V0 to {registerName x}")
        { s with
          machine.registers.v := v
          machine.registers.index := index
          machine.accesses := accesses } := by
  obtain ⟨v, accesses, hv, hrun⟩ := execute_load_eq x hr.index.1
  have hbytes : ∀ y, 0 ≤ v.get y ∧ v.get y ≤ 255 := by
    intro y
    rw [hv]
    exact Registers.loadedAt_byte hr.general ..
  have hrange := (hr.withGeneral hbytes).withIndex (endOfMove_inRange hr.index (x.val + 1))
  exact ⟨v, accesses, _, hrange, hrun⟩

/-- Writing the digits of a register changes memory and the record of accesses. -/
theorem execute_decimal (x : Fin 16) {s : System τ} (hr : s.machine.registers.InRange) :
    ∃ memory accesses,
      execute (.decimal x) s = endOfSweep s.machine.registers.index 3
        (.advance s!"Store BCD of {s.machine.registers.get x} starting at I")
        { s with machine.memory := memory, machine.accesses := accesses } := by
  obtain ⟨memory, accesses, -, hrun⟩ := execute_decimal_eq x hr
  exact ⟨memory, accesses, hrun⟩

end Action

/-! ## Drawing -/

namespace System

variable {τ : Type} [TimeScale τ]

/-- The system after the clock was given a chance to tick. -/
def ticked (s : System τ) : System τ :=
  { machine := { s.machine with clock := s.machine.clock.update (s.host.time s.host.readings) }
    host := { s.host with readings := s.host.readings + 1 } }

/-- Whether a drawing asks the clock.  It does not if drawing never waits, nor if it was waiting
already and the tick of this step has come. -/
def asksClock (s : System τ) : Bool :=
  s.machine.registers.drawOnBlank &&
    !(s.machine.registers.awaitingBlank && s.machine.clock.vblank)

/-- The system after a drawing asked the clock, if it did. -/
def asked (s : System τ) : System τ := if s.asksClock then s.ticked else s

/-- Whether a drawing has to wait. -/
def drawStalls (s : System τ) : Bool := s.asksClock && !s.ticked.machine.clock.vblank

theorem asked_cases (s : System τ) : s.asked = s.ticked ∨ s.asked = s := by
  rw [asked]
  split
  · exact .inl rfl
  · exact .inr rfl

theorem asked_of_stalls {s : System τ} (h : s.drawStalls = true) : s.asked = s.ticked := by
  rw [drawStalls, Bool.and_eq_true] at h
  rw [asked, if_pos h.1]

theorem drawOnBlank_of_stalls {s : System τ} (h : s.drawStalls = true) :
    s.machine.registers.drawOnBlank = true := by
  rw [drawStalls, asksClock, Bool.and_eq_true, Bool.and_eq_true] at h
  exact h.1.1

end System

/-- The bit which meets a cell, of a sprite that is drawn at the point which two registers give. -/
def Machine.spriteAt {τ : Type} (m : Machine τ) (x y : Fin 16) (rows : Nat) :
    Fin 2048 → Option Bool :=
  Screen.sprite m.memory (m.registers.get x % 64).toNat (m.registers.get y % 32).toNat
    m.registers.index rows

namespace Registers

/-- The registers after a drawing of some rows: if all of them were there, the flag register tells
whether there was a hit. -/
def drawn (r : Registers) (rows : Nat) (hit : Bool) : Registers :=
  if rows = 0 ∨ r.index + rows ≤ 4096 then
    { r with awaitingBlank := false }.assign flag (if hit then 1 else 0)
  else { r with awaitingBlank := false }

theorem drawn_eq (r : Registers) (rows : Nat) (hit : Bool) :
    ∃ v, (∀ y, flag ≠ y → v.get y = r.get y) ∧
      r.drawn rows hit = { r with v := v, awaitingBlank := false } := by
  rw [drawn]
  split
  · refine ⟨_, fun y hy => ?_, rfl⟩
    exact (r.get_assign flag y _).trans (if_neg hy)
  · exact ⟨r.v, fun _ _ => rfl, rfl⟩

theorem InRange.drawn {r : Registers} (hr : r.InRange) (rows : Nat) (hit : Bool) :
    (r.drawn rows hit).InRange := by
  have hidle : { r with awaitingBlank := false }.InRange := hr.withAwaiting nofun
  rw [Registers.drawn]
  split
  · exact hidle.assign flag (by cases hit <;> decide)
  · exact hidle

end Registers

namespace Action

variable {τ : Type}

/-- **Drawing a sprite draws the rows that memory has**, no drawing is waiting any longer, and if it
succeeds the flag register tells whether there was a hit. -/
theorem drawSprite_eq (x y : Fin 16) (rows : Nat) {s : System τ}
    (hr : s.machine.registers.InRange) :
    ∃ hit screen accesses display,
      s.machine.screen.Combined (s.machine.spriteAt x y rows) screen ∧
      (hit = true ↔ s.machine.screen.Clash (s.machine.spriteAt x y rows)) ∧
      drawSprite x y rows s = endOfSweep s.machine.registers.index rows (.advance display)
        { s with
          machine.registers := s.machine.registers.drawn rows hit
          machine.screen := screen
          machine.accesses := accesses } := by
  have hx : ((s.machine.registers.get x % 64).toNat : Int) = s.machine.registers.get x % 64 := by
    omega
  have hy : ((s.machine.registers.get y % 32).toNat : Int) = s.machine.registers.get y % 32 := by
    omega
  obtain ⟨hit, screen, accesses, hscreen, hhit, hrun⟩ :=
    drawRows_eq (s.machine.registers.get x % 64).toNat rows
      { s with machine.registers.awaitingBlank := false } (s.machine.registers.get y % 32).toNat
      s.machine.registers.index false hr.index.1
  rw [or_iff_right Bool.false_ne_true] at hhit
  rw [hx, hy] at hrun
  have hseq : ∃ text, drawSprite x y rows s =
      (drawRows (s.machine.registers.get x % 64) (s.machine.registers.get y % 32)
          s.machine.registers.index false rows >>= fun hit => do
        updateRegisters fun r => r.assign Registers.flag (if hit then 1 else 0)
        return .advance text) { s with machine.registers.awaitingBlank := false } := ⟨_, rfl⟩
  obtain ⟨text, hseq⟩ := hseq
  refine ⟨hit, screen, accesses, text, hscreen, hhit, ?_⟩
  rw [hseq, bind_of_sweep hrun]
  by_cases hin : rows = 0 ∨ s.machine.registers.index + rows ≤ 4096
  · simp only [endOfSweep, Registers.drawn, if_pos hin]
    rfl
  · simp only [endOfSweep, Registers.drawn, if_neg hin]

variable [TimeScale τ]

theorem blankSeen_apply (s : System τ) :
    blankSeen s =
      if s.machine.registers.awaitingBlank && s.machine.clock.vblank then .ok true s
      else .ok s.ticked.machine.clock.vblank s.ticked := by
  rw [blankSeen, bind_of_ok (machine_apply s)]
  cases s.machine.registers.awaitingBlank && s.machine.clock.vblank <;> rfl

/-- `drawStalls` is what a drawing asks, and asking it leaves the system `asked`. -/
theorem mustWait_apply (s : System τ) : mustWait s = .ok s.drawStalls s.asked := by
  rw [mustWait, bind_of_ok (registers_apply s), System.drawStalls, System.asked, System.asksClock]
  cases s.machine.registers.drawOnBlank with
  | false => rfl
  | true =>
    show (blankSeen >>= fun seen => pure !seen) s = _
    have hseen := blankSeen_apply s
    cases hknown : s.machine.registers.awaitingBlank && s.machine.clock.vblank with
    | false =>
      rw [hknown] at hseen
      rw [bind_of_ok hseen]
      rfl
    | true =>
      rw [hknown] at hseen
      rw [bind_of_ok hseen]
      rfl

/-- A drawing that has to wait draws nothing, and is marked as waiting. -/
theorem execute_draw_stalled (x y rows : Fin 16) {s : System τ} (h : s.drawStalls = true) :
    execute (.draw x y rows) s =
      .ok (.stall "Waiting for vblank")
        { s.ticked with machine.registers.awaitingBlank := true } := by
  rw [execute, draw, bind_of_ok (mustWait_apply s), h, System.asked_of_stalls h]
  rfl

/-- A drawing that need not wait is one more sweep. -/
theorem execute_draw_eq (x y rows : Fin 16) {s : System τ} (hr : s.machine.registers.InRange)
    (h : s.drawStalls = false) :
    ∃ hit screen accesses display,
      s.machine.screen.Combined (s.machine.spriteAt x y rows.val) screen ∧
      (hit = true ↔ s.machine.screen.Clash (s.machine.spriteAt x y rows.val)) ∧
      execute (.draw x y rows) s = endOfSweep s.machine.registers.index rows.val (.advance display)
        { s.asked with
          machine.registers := s.machine.registers.drawn rows.val hit
          machine.screen := screen
          machine.accesses := accesses } := by
  rw [execute, draw, bind_of_ok (mustWait_apply s), h]
  show ∃ hit screen accesses display, _ ∧ _ ∧ drawSprite x y rows.val s.asked = _
  cases hclock : s.asksClock with
  | false =>
    rw [System.asked, hclock]
    exact drawSprite_eq x y rows.val (s := s) hr
  | true =>
    rw [System.asked, hclock]
    exact drawSprite_eq x y rows.val (s := s.ticked) hr

/-- It changes cells, the record of accesses and the flag register. -/
theorem execute_draw (x y rows : Fin 16) {s : System τ} (hr : s.machine.registers.InRange)
    (h : s.drawStalls = false) :
    ∃ v cells accesses display,
      execute (.draw x y rows) s = endOfSweep s.machine.registers.index rows.val (.advance display)
        { s.asked with
          machine.registers := { s.machine.registers with v := v, awaitingBlank := false }
          machine.screen.cells := cells
          machine.accesses := accesses } ∧
      { s.machine.registers with v := v, awaitingBlank := false }.InRange ∧
      (s.machine.screen.TwoColored → { s.machine.screen with cells := cells }.TwoColored) := by
  obtain ⟨hit, screen, accesses, display, hscreen, -, hrun⟩ := execute_draw_eq x y rows hr h
  obtain ⟨v, -, hv⟩ := s.machine.registers.drawn_eq rows.val hit
  have hrange := hr.drawn rows.val hit
  have hasked : s.asked.machine.screen = s.machine.screen := by
    rw [System.asked]
    split <;> rfl
  obtain ⟨cells, rfl⟩ := hscreen.eq_withCells
  rw [hv] at hrun hrange
  rw [← hasked] at hrun
  exact ⟨v, cells, accesses, display, hrun, hrange, hscreen.twoColored⟩

end Action

end Chip8
