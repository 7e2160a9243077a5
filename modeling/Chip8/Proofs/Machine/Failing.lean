import Chip8.Proofs.Machine.Footprints
import Chip8.Proofs.Machine.Refusals

/-!
# What a failing step leaves

An instruction that goes through memory fails at the first cell that there is not, and what it has
done until then stays done.  So a failure leaves the first part of a loop: as many of its turns as
there are cells from the index register on, which `System.cellsLeft` counts.

* `Torn` — what each instruction leaves when it fails, to the last cell;
* `execute_torn` — **an instruction that fails leaves just that**;
* `Spared` — what no failure touches;
* `step_torn` — **a step that fails leaves that much of its instruction and nothing else**, but for
  the ticks of the clock, the record of accesses, and the key that it delivers at its start.
-/

namespace Chip8

variable {τ : Type}

/-! ## As far as there are cells -/

/-- Beyond the last cell there is nothing to be written to. -/
theorem Memory.storedAt_take (m : Memory) {first : Int} {count : Nat} (h : 4096 ≤ first + count)
    (values : List Int) (a : Fin 4096) :
    m.storedAt first (values.take count) a = m.storedAt first values a := by
  rw [storedAt, storedAt]
  split
  · rw [List.getElem?_take_of_lt (by omega)]
  · rfl

/-- Nor to be loaded from. -/
theorem Registers.loadedAt_of_le (r : Registers) (m : Memory) {address : Int} {count more : Nat}
    (h : 4096 ≤ address + count) (hmore : count ≤ more) (y : Fin 16) :
    r.loadedAt m address 0 more y = r.loadedAt m address 0 count y := by
  rw [loadedAt, loadedAt]
  by_cases hy : y.val < count
  · rw [if_pos (by omega), if_pos (by omega)]
  · rw [if_neg (c := 0 ≤ y.val ∧ y.val < 0 + count) (by omega), m.at?_outside (by omega)]
    exact ite_self _

/-- Nor to be drawn. -/
theorem Screen.sprite_of_le (m : Memory) (x y : Nat) {address : Int} {rows more : Nat}
    (h : 4096 ≤ address + rows) (hmore : rows ≤ more) (c : Fin 2048) :
    sprite m x y address more c = sprite m x y address rows c := by
  rw [sprite, sprite]
  by_cases hc : y ≤ c.val / 64 ∧ c.val / 64 < y + rows
  · rw [if_pos (by omega), if_pos hc]
  · rw [if_neg hc]
    by_cases hy : y ≤ c.val / 64
    · rw [m.at?_outside (by omega)]
      exact ite_self _
    · exact if_neg (by omega)

namespace System

/-- The number of cells from the one that the index register points at to the last one. -/
def cellsLeft (s : System τ) : Nat := (4096 - s.machine.registers.index).toNat

end System

namespace Action

/-- A sweep that fails has gone further than the cells that are left. -/
theorem endOfSweep_eq_error {α : Type} {first : Int} {count : Nat} {a : α} {s t : System τ}
    {f : Fault} (h : endOfSweep first count a s = .error f t) :
    t = s ∧ (4096 - first).toNat < count := by
  rw [endOfSweep] at h
  split at h
  · cases h
  · cases h
    exact ⟨rfl, by omega⟩

variable [TimeScale τ]

/-- **What an instruction leaves that fails.**  An instruction that goes through memory has done as
many turns as there are cells left, and any other one has done nothing. -/
inductive Torn (s : System τ) : Instruction → System τ → Prop where
  | refused {i : Instruction} (hi : i.isSweep = false) : Torn s i s
  | decimal (x : Fin 16) (memory : Memory) (accesses : Array Access) (hshort : s.cellsLeft < 3)
    (hmemory : ∀ a, memory.get a = s.machine.memory.storedAt s.machine.registers.index
      ((digits (s.machine.registers.get x)).take s.cellsLeft) a) :
    Torn s (.decimal x) { s with machine.memory := memory, machine.accesses := accesses }
  | store (x : Fin 16) (memory : Memory) (accesses : Array Access) (hshort : s.cellsLeft ≤ x.val)
    (hmemory : ∀ a, memory.get a = s.machine.memory.storedAt s.machine.registers.index
      ((valuesUpTo s.machine.registers x).take s.cellsLeft) a) :
    Torn s (.store x)
      { s with
        machine.memory := memory
        machine.accesses := accesses
        machine.registers.index := s.machine.registers.index + s.cellsLeft }
  | load (x : Fin 16) (v : Vector Int 16) (accesses : Array Access) (hshort : s.cellsLeft ≤ x.val)
    (hv : ∀ y, v.get y = s.machine.registers.loadedAt s.machine.memory s.machine.registers.index 0
      s.cellsLeft y) :
    Torn s (.load x)
      { s with
        machine.registers.v := v
        machine.registers.index := s.machine.registers.index + s.cellsLeft
        machine.accesses := accesses }
  | draw (x y rows : Fin 16) (screen : Screen) (accesses : Array Access)
    (hshort : s.cellsLeft < rows.val)
    (hscreen : s.machine.screen.Combined (s.machine.spriteAt x y s.cellsLeft) screen) :
    Torn s (.draw x y rows)
      { s.asked with
        machine.registers := { s.machine.registers with awaitingBlank := false }
        machine.screen := screen
        machine.accesses := accesses }

omit [TimeScale τ] in
/-- The index register comes to the end of memory. -/
theorem endOfMove_of_short {s : System τ} {count : Nat} (h : s.cellsLeft < count) :
    endOfMove s.machine.registers.index count = s.machine.registers.index + s.cellsLeft := by
  rw [System.cellsLeft] at h ⊢
  rw [endOfMove]
  omega

/-- **An instruction that fails leaves what it has done as far as there are cells.** -/
theorem execute_torn {i : Instruction} {s t : System τ} {f : Fault}
    (hr : s.machine.registers.InRange) (h : execute i s = .error f t) : Torn s i t := by
  have hcells : 4096 ≤ s.machine.registers.index + s.cellsLeft := by
    rw [System.cellsLeft]
    omega
  -- the cases are the refusals, as no other instruction fails
  cases (execute_fails_iff i hr f).1 ⟨t, h⟩ with
  | call target full =>
    cases (execute_call_full target (by omega)).symm.trans h
    exact .refused rfl
  | ret empty =>
    cases (execute_ret_empty (by omega)).symm.trans h
    exact .refused rfl
  | skipPressed x noKey | skipReleased x noKey =>
    cases (skipOnKey_outside _ noKey).symm.trans h
    exact .refused rfl
  | decimal x out =>
    obtain ⟨memory, accesses, hmemory, hrun⟩ := execute_decimal_eq x hr
    obtain ⟨rfl, hshort⟩ := endOfSweep_eq_error (hrun.symm.trans h)
    refine .decimal x memory accesses hshort fun a => ?_
    rw [hmemory, Memory.storedAt_take _ hcells]
  | store x out =>
    obtain ⟨memory, accesses, hmemory, hrun⟩ := execute_store_eq x hr
    obtain ⟨rfl, hshort⟩ := endOfSweep_eq_error (hrun.symm.trans h)
    rw [endOfMove_of_short hshort]
    refine .store x memory accesses (Nat.le_of_lt_succ hshort) fun a => ?_
    rw [hmemory, Memory.storedAt_take _ hcells]
  | load x out =>
    obtain ⟨v, accesses, hv, hrun⟩ := execute_load_eq x hr.index.1
    obtain ⟨rfl, hshort⟩ := endOfSweep_eq_error (hrun.symm.trans h)
    rw [endOfMove_of_short hshort]
    refine .load x v accesses (Nat.le_of_lt_succ hshort) fun y => ?_
    rw [hv, Registers.loadedAt_of_le _ _ hcells (Nat.le_of_lt hshort)]
  | draw x y rows now some out =>
    obtain ⟨hit, screen, accesses, display, hscreen, -, hrun⟩ := execute_draw_eq x y rows hr now
    obtain ⟨rfl, hshort⟩ := endOfSweep_eq_error (hrun.symm.trans h)
    have hsprite : s.machine.spriteAt x y rows.val = s.machine.spriteAt x y s.cellsLeft :=
      funext (Screen.sprite_of_le _ _ _ hcells (Nat.le_of_lt hshort))
    have hdrawn : s.machine.registers.drawn rows.val hit =
        { s.machine.registers with awaitingBlank := false } := if_neg (by omega)
    rw [hsprite] at hscreen
    rw [hdrawn]
    exact .draw x y rows screen accesses hshort hscreen

end Action

/-! ## Steps -/

namespace System

variable [TimeScale τ]

/-- A later state in which everything that no failure touches is as it was: the pointers to the
program and into the stack, the stack, the options, the trace, the keys and the wait for them, the
colours, the flag register unless a key was to be delivered to it, and the host.  The clock has been
updated, and the key that was to be delivered has been taken. -/
structure Spared (s t : System τ) : Prop where
  pc : t.machine.registers.pc = s.machine.registers.pc
  sp : t.machine.registers.sp = s.machine.registers.sp
  stack : t.machine.registers.stack = s.machine.registers.stack
  shiftSecond : t.machine.registers.shiftSecond = s.machine.registers.shiftSecond
  drawOnBlank : t.machine.registers.drawOnBlank = s.machine.registers.drawOnBlank
  trace : t.machine.trace = s.machine.trace
  keypad : t.machine.keypad = { s.machine.keypad with response := none }
  foreground : t.machine.screen.foreground = s.machine.screen.foreground
  background : t.machine.screen.background = s.machine.screen.background
  flag : (∀ p, s.machine.keypad.response = some p → p.register ≠ Registers.flag) →
    t.machine.registers.get Registers.flag = s.machine.registers.get Registers.flag
  clock : t.machine.clock = s.clockAt t
  host : t.host = { s.host with readings := t.host.readings }

/-- What a step leaves that fails: there is no whole word to be fetched, or the instruction fails
after the word was. -/
inductive StepTorn (s t : System τ) : Prop where
  | edge (last : s.machine.registers.pc = 4095)
    (ht : t = Action.hasRead s.prepared (Fin.last 4095))
  | instruction (a : Fin 4095) (ha : s.machine.registers.pc = (a.val : Int))
    (ht : Action.Torn (s.prepared.fetched a) (Instruction.decode (s.machine.memory.word a)) t)

variable {s t : System τ}

/-- The updates until a later state are the one at the start of the step and those after it. -/
theorem clockAt_prepared (h : s.prepared.host.readings ≤ t.host.readings) :
    s.prepared.clockAt t = s.clockAt t := by
  have hall : s.host.timesUntil t.host =
      s.host.timesUntil s.prepared.host ++ s.prepared.host.timesUntil t.host :=
    Host.timesUntil_append rfl (Nat.le_succ _) h
  have hfirst : s.host.timesUntil s.prepared.host = [s.host.time s.host.readings] :=
    Host.timesUntil_one rfl
  rw [clockAt, clockAt, hall, hfirst, Clock.updateAll_append]
  rfl

/-- What comes before the instruction touches nothing of it. -/
theorem spared_prepared (s : System τ) : s.Spared s.prepared where
  pc := prepared_pc s
  sp := Registers.deliver_sp ..
  stack := Registers.deliver_stack ..
  shiftSecond := Registers.deliver_shiftSecond ..
  drawOnBlank := Registers.deliver_drawOnBlank ..
  trace := rfl
  keypad := rfl
  foreground := rfl
  background := rfl
  flag := s.machine.registers.get_deliver_of_ne
  clock := by rw [← clockAt_prepared (Nat.le_refl _), Footprint.clockAt_self rfl]
  host := rfl

/-- **Nor does an instruction that fails.** -/
theorem spared_of_torn {i : Instruction} {a : Fin 4095}
    (h : Action.Torn (s.prepared.fetched a) i t) : s.Spared t := by
  have hprepared := s.spared_prepared
  cases h with
  | refused hi => exact { hprepared with }
  | decimal x memory accesses hshort hmemory => exact { hprepared with }
  | store x memory accesses hshort hmemory => exact { hprepared with }
  | load x v accesses hshort hv =>
    -- the flag register is the last one, and there is no cell left for it
    refine { hprepared with flag := fun hp => ?_ }
    refine (hv Registers.flag).trans ?_
    have hflag : ¬ (0 ≤ Registers.flag.val ∧
        Registers.flag.val < 0 + (s.prepared.fetched a).cellsLeft) := by
      rintro ⟨-, hlt⟩
      have hlast : Registers.flag.val = 15 := rfl
      omega
    rw [Registers.loadedAt, if_neg hflag]
    exact hprepared.flag hp
  | draw x y rows screen accesses hshort hscreen =>
    rcases (s.prepared.fetched a).asked_cases with hasked | hasked <;> rw [hasked]
    · refine { hprepared with
        foreground := hscreen.foreground, background := hscreen.background, clock := ?_, host := rfl }
      rw [← clockAt_prepared (Nat.le_succ _), Footprint.clockAt_ticked rfl]
      rfl
    · exact { hprepared with foreground := hscreen.foreground, background := hscreen.background }

/-- A step that only computes with registers, when no key is awaited or to be delivered. -/
theorem after_computed {s : System τ} {a : Fin 4095} {i : Instruction} {f : Registers → Registers}
    (hw : s.machine.keypad.waiting = false) (hnone : s.machine.keypad.response = none)
    (ha : s.machine.registers.pc = (a.val : Int))
    (hi : Instruction.decode (s.machine.memory.word a) = i)
    (hrun : ∀ t : System τ, ∃ display, Action.execute i t =
      .ok (.advance display) { t with machine.registers := f t.machine.registers }) :
    (s.after .step).machine.keypad = s.machine.keypad ∧
      (s.after .step).machine.memory = s.machine.memory ∧
      (s.after .step).machine.registers =
        { f s.machine.registers with pc := (f s.machine.registers).pc + 2 } := by
  obtain ⟨display, hrun⟩ := hrun (s.prepared.fetched a)
  have hkeypad : (s.prepared.fetched a).machine.keypad = s.machine.keypad := by
    show { s.machine.keypad with response := none } = _
    rw [← hnone]
  rw [after, Action.step_inside hw ha, hi, hrun, registers_fetched hnone]
  exact ⟨hkeypad, rfl, rfl⟩

/-- A step fails in the fetch of its word, or in its instruction. -/
theorem torn_of_error {f : Fault} (hs : s.machine.WellFormed) (h : Action.step s = .error f t) :
    s.StepTorn t := by
  rcases Action.step_cases s hs.registers.pc.1 with
    ⟨-, hrun⟩ | ⟨-, -, hrun⟩ | ⟨-, hlast, hrun⟩ | ⟨a, -, ha, hrun⟩
  · cases hrun.symm.trans h
  · cases hrun.symm.trans h
  · cases hrun.symm.trans h
    exact .edge hlast rfl
  · have hr : (s.prepared.fetched a).machine.registers.InRange :=
      hs.registers.deliver s.machine.keypad.response
    rw [hrun] at h
    exact .instruction a ha (Action.execute_torn hr (Action.finish_eq_error.1 h))

/-- **What a failing step leaves**, in every state that programs and the host lead to.  Nothing is
touched of what `System.Spared` lists, and the rest is as `System.StepTorn` tells it: as much of a
way through memory as there are cells, and no change at all by any other instruction. -/
theorem step_torn {f : Fault} (hs : s.Reachable) (h : Action.step s = .error f t) :
    s.Spared t ∧ s.StepTorn t := by
  have htorn := torn_of_error hs.wellFormed h
  refine ⟨?_, htorn⟩
  cases htorn with
  | edge hlast ht =>
    rw [ht]
    exact { s.spared_prepared with }
  | instruction a ha ht => exact spared_of_torn ht

/-- A program that stores four registers into the last two cells. -/
def overlong : Bytes := #[0x60, 0x05, 0xAF, 0xFE, 0xF3, 0x55]

/-- A machine with that program. -/
def hasty : System Rat := started (Host.still 0 fun _ => 0) overlong

/-- That machine when it has come to the store. -/
def storing : System Rat := (hasty.after .step).after .step

theorem storing_ready : storing.machine.keypad = .initial ∧
    Instruction.decode (storing.machine.memory.word 516) = .store 3 ∧
    storing.machine.registers = { Registers.initial.put 0 5 with index := 4094, pc := 516 } := by
  have hbyte : Instruction.decode (hasty.machine.memory.word 512) = .setByte 0 5 := by
    have hword : hasty.machine.memory.word 512 = 0x6005 := Memory.word_loadRom _ _ (k := 0) rfl
    rw [hword]
    decide
  have hindex : Instruction.decode (hasty.machine.memory.word 514) = .setIndex 4094 := by
    have hword : hasty.machine.memory.word 514 = 0xAFFE := Memory.word_loadRom _ _ (k := 2) rfl
    rw [hword]
    decide
  have hstore : Instruction.decode (hasty.machine.memory.word 516) = .store 3 := by
    have hword : hasty.machine.memory.word 516 = 0xF355 := Memory.word_loadRom _ _ (k := 4) rfl
    rw [hword]
    decide
  obtain ⟨hkeypad, hmemory, hregisters⟩ :=
    after_computed (s := hasty) (f := fun r => r.put 0 5) rfl rfl rfl hbyte fun t => ⟨_, rfl⟩
  have hstart : hasty.machine.keypad = .initial := rfl
  rw [← hmemory] at hindex hstore
  obtain ⟨hkeypad', hmemory', hregisters'⟩ :=
    after_computed (f := fun r => { r with index := 4094 }) (by rw [hkeypad, hstart]; rfl)
      (by rw [hkeypad, hstart]; rfl) (by rw [hregisters]; rfl) hindex fun t => ⟨_, rfl⟩
  rw [← hmemory'] at hstore
  rw [hregisters] at hregisters'
  rw [storing]
  exact ⟨hkeypad'.trans (hkeypad.trans hstart), hstore, hregisters'⟩

/-- The first two registers get into the last two cells, and the machine stays at the store with the
index register past them. -/
theorem step_torn_storing : storing.Reachable ∧
    ∃ f t, Action.step storing = .error f t ∧ t.machine.registers.pc = 516 ∧
      t.machine.registers.index = 4096 ∧ t.machine.memory.get 4094 = 5 ∧
      t.machine.registers.get Registers.flag = 0 := by
  have hreach : storing.Reachable := ((reachable_started _ _).after .step).after .step
  obtain ⟨hkeypad, hstore, hregisters⟩ := storing_ready
  have hw : storing.machine.keypad.waiting = false := by rw [hkeypad]; rfl
  have hnone : storing.machine.keypad.response = none := by rw [hkeypad]; rfl
  have hpc : storing.machine.registers.pc = ((516 : Fin 4095).val : Int) := by rw [hregisters]; rfl
  have hindex : storing.prepared.machine.registers.index = 4094 := by
    rw [registers_prepared hnone, hregisters]
  have hrefused : storing.prepared.Refuses (.store 3) _ := .store 3 (by rw [hindex]; decide)
  rw [← hstore] at hrefused
  obtain ⟨t, hrun⟩ := (Action.step_failsWith_iff hreach.wellFormed _).2
    ⟨hw, by rw [hpc]; decide, .instruction 516 hpc _ hrefused⟩
  obtain ⟨hspared, htorn⟩ := step_torn hreach hrun
  have hready := (registers_fetched hnone 516).trans hregisters
  cases htorn with
  | edge hlast ht =>
    exact absurd (hpc.symm.trans hlast) (by decide)
  | instruction a ha ht =>
    have hat : a = 516 := Fin.ext (by omega)
    rw [hat, hstore] at ht
    cases ht with
    | refused hi => cases hi
    | store x memory accesses hshort hmemory =>
      refine ⟨hreach, _, _, hrun, hspared.pc.trans hpc, ?_, ?_, ?_⟩
      · rw [cellsLeft, hready]
        rfl
      · refine (hmemory 4094).trans ?_
        rw [cellsLeft, hready]
        rfl
      · refine (hspared.flag (by rw [hnone]; nofun)).trans ?_
        rw [hregisters]
        decide

end System

end Chip8
