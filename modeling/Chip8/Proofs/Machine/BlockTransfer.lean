import Chip8.Proofs.Instruction.Words
import Chip8.Proofs.Machine.Footprints
import Chip8.Proofs.Machine.Idling

/-!
# Storing registers and loading them back

A program saves its registers by `Fx55` and restores them by `Fx65`.  Between the two it can do
whatever it likes, as long as it leaves the cells alone that hold the saved registers.

* `Memory.storedAt_register` — a stored register is in its cell;
* `System.Writes` — the cells to which an operation writes, and `get_after`, `get_afterAll`: the
  others stay as they are, through a run of any length;
* `execute_store_inside`, `execute_load_inside` — a block that memory has is stored and loaded
  completely, the latter into any registers;
* `transfers_restore` — **loading gives back what was stored**, and storing what was just loaded
  changes nothing.
-/

namespace Chip8

/-! ## The values that are stored -/

theorem Action.getElem?_valuesUpTo (r : Registers) {x y : Fin 16} (h : y ≤ x) :
    (Action.valuesUpTo r x)[y.val]? = some (r.get y) := by
  have hregister : (Action.registersUpTo x)[y.val]? = some y := by
    revert x y
    decide
  rw [Action.valuesUpTo, List.getElem?_map, hregister]
  rfl

namespace Memory

/-- A stored register is in its cell. -/
theorem storedAt_register (m : Memory) {first : Int} {r : Registers} {x y : Fin 16} (h : y ≤ x)
    {a : Fin 4096} (ha : (a.val : Int) = first + y.val) :
    m.storedAt first (Action.valuesUpTo r x) a = UInt8.ofNat (r.get y).toNat := by
  have hplace : ((a.val : Int) - first).toNat = y.val := by omega
  rw [storedAt, if_pos (by omega), hplace, Action.getElem?_valuesUpTo r h]
  rfl

end Memory

namespace System

variable {τ : Type} [TimeScale τ]

/-! ## Operations that write to a cell -/

/-- The next operation writes to a cell.  A step that finds nothing to wait for, and a word, writes
to the cells that its instruction stores something in. -/
inductive Writes (s : System τ) (a : Fin 4096) : Operation → Prop where
  | step {place : Fin 4095} (hactive : s.machine.keypad.waiting = false)
    (hplace : s.machine.registers.pc = (place.val : Int))
    (hin : s.machine.registers.index ≤ (a.val : Int) ∧
      (a.val : Int) < s.machine.registers.index +
        (Instruction.decode (s.machine.memory.word place)).cellsWritten) : Writes s a .step
  | loadRom (data : Bytes) (hin : romStart ≤ a.val) : Writes s a (.loadRom data)
  | reset : Writes s a .reset
  | resetAndLoad (data : Bytes) : Writes s a (.resetAndLoad data)

/-- No operation of a run writes to one of a number of consecutive cells. -/
def Spares (s : System τ) (first : Int) (count : Nat) : List Operation → Prop
  | [] => True
  | o :: run =>
    (∀ a : Fin 4096, first ≤ (a.val : Int) → (a.val : Int) < first + count → ¬ s.Writes a o) ∧
      (s.after o).Spares first count run

omit [TimeScale τ] in
/-- Following an instruction up does not touch memory. -/
theorem memory_finish (place word : Int) (i : Instruction)
    (r : EStateM.Result Fault (System τ) Outcome) :
    (Action.stateOf (Action.finish place word i r)).machine.memory =
      (Action.stateOf r).machine.memory := by
  cases r with
  | error f t => rfl
  | ok o t =>
    rw [Action.finish]
    cases Action.followUp t.machine.registers.pc o.update <;> rfl

/-- A cell to which an operation does not write stays as it is. -/
theorem get_after {s : System τ} (hs : s.machine.WellFormed) {a : Fin 4096} {o : Operation}
    (h : ¬ s.Writes a o) : (s.after o).machine.memory.get a = s.machine.memory.get a := by
  cases o with
  | step =>
    rcases Action.step_cases s hs.registers.pc.1 with
      ⟨-, hrun⟩ | ⟨-, -, hrun⟩ | ⟨-, -, hrun⟩ | ⟨place, hactive, hplace, hrun⟩
    · rw [after_of_ok hrun]
      rfl
    · rw [after_of_ok hrun]
      rfl
    · rw [after_of_error hrun]
      rfl
    · have hr : (s.prepared.fetched place).machine.registers.InRange := hs.registers.deliver _
      have hindex : (s.prepared.fetched place).machine.registers.index =
          s.machine.registers.index := Registers.deliver_index ..
      rw [after, hrun, memory_finish]
      refine (Action.execute_footprint _ hr).memory a ?_
      rw [hindex]
      exact fun hin => h (.step hactive hplace hin)
  | reset => exact absurd .reset h
  | resetAndLoad data => exact absurd (.resetAndLoad data) h
  | loadRom data =>
    have hbelow : a.val < 512 := Nat.lt_of_not_le fun hin => h (.loadRom data hin)
    rw [placed_after rfl, Operation.placed, Memory.get_loadRom, if_pos hbelow]
  | setKey | setShiftSecond | setDrawOnBlank | setForeground | setBackground =>
    rw [placed_after rfl]
    rfl

/-- **Cells that a run spares stay as they are.** -/
theorem get_afterAll {first : Int} {count : Nat} (run : List Operation) : ∀ {s : System τ},
    s.machine.WellFormed → s.Spares first count run →
    ∀ a : Fin 4096, first ≤ (a.val : Int) → (a.val : Int) < first + count →
      (s.afterAll run).machine.memory.get a = s.machine.memory.get a := by
  induction run with
  | nil => exact fun _ _ _ _ _ => rfl
  | cons o run ih =>
    intro s hs hspares a hlow hhigh
    have hfirst := get_after hs (hspares.1 a hlow hhigh)
    exact (ih (hs.after o) hspares.2 a hlow hhigh).trans hfirst

/-! ## Blocks that memory has -/

omit [TimeScale τ] in
/-- The system with the index register at an address. -/
def pointedAt (s : System τ) (address : Int) : System τ :=
  { s with machine.registers.index := address }

/-- A later state in which the registers up to a register were stored from an address on. -/
structure Stored (s : System τ) (x : Fin 16) (first : Int) (t : System τ) : Prop where
  /-- Memory changes, and the index register goes on behind the block. -/
  rest : ∃ memory accesses, t =
    { s with
      machine.memory := memory
      machine.accesses := accesses
      machine.registers.index := first + x.val + 1 }
  cell : ∀ (y : Fin 16) (a : Fin 4096), y ≤ x → (a.val : Int) = first + y.val →
    ((t.machine.memory.get a).toNat : Int) = s.machine.registers.get y
  outside : ∀ a : Fin 4096, ¬ (first ≤ (a.val : Int) ∧ (a.val : Int) ≤ first + x.val) →
    t.machine.memory.get a = s.machine.memory.get a

/-- A later state in which the registers up to a register were loaded from an address on. -/
structure Loaded (s : System τ) (x : Fin 16) (first : Int) (t : System τ) : Prop where
  /-- General registers change, and the index register goes on behind the block. -/
  rest : ∃ v accesses, t =
    { s with
      machine.registers.v := v
      machine.registers.index := first + x.val + 1
      machine.accesses := accesses }
  register : ∀ (y : Fin 16) (a : Fin 4096), y ≤ x → (a.val : Int) = first + y.val →
    t.machine.registers.get y = ((s.machine.memory.get a).toNat : Int)
  above : ∀ y : Fin 16, x < y → t.machine.registers.get y = s.machine.registers.get y

section Inside

variable {x : Fin 16} {first : Int} (hin : 0 ≤ first ∧ first + x.val ≤ 4095)

include hin

omit [TimeScale τ] in
/-- A sweep through a block that memory has succeeds. -/
theorem endOfSweep_block (o : Outcome) (t : System τ) :
    Action.endOfSweep first (x.val + 1) o t = .ok o t := if_pos (.inr (by omega))

omit [TimeScale τ] in
/-- And it leads right behind the block. -/
theorem endOfMove_block : Action.endOfMove first (x.val + 1) = first + x.val + 1 := by
  rw [Action.endOfMove]
  omega

omit [TimeScale τ] in
/-- Every register up to the last one has a cell. -/
theorem exists_blockCell {y : Fin 16} (hy : y ≤ x) :
    ∃ a : Fin 4096, (a.val : Int) = first + y.val := by
  have hle : y.val ≤ x.val := hy
  obtain ⟨a, ha⟩ := Action.exists_cell (show 0 ≤ first + (y.val : Int) ∧ _ by omega)
  exact ⟨a, ha.symm⟩

/-- Registers that hold bytes are stored in a block that memory has, all of them. -/
theorem execute_store_inside {s : System τ} (hs : s.machine.WellFormed) :
    ∃ display t, Action.execute (Instruction.decode (Instruction.spelled 15 x 5 5))
        (s.pointedAt first) = .ok (.advance display) t ∧
      s.Stored x first t ∧ t.machine.WellFormed := by
  have hpointed : (s.pointedAt first).machine.registers.InRange :=
    hs.registers.withIndex (by omega)
  have hbehind : 0 ≤ first + x.val + 1 ∧ first + x.val + 1 ≤ 0xFFFF := by omega
  obtain ⟨memory, accesses, hmemory, hrun⟩ := Action.execute_store_eq x hpointed
  rw [← Instruction.decode_store] at hrun
  replace hrun := hrun.trans (endOfSweep_block hin _ _)
  have hmove : Action.endOfMove (s.pointedAt first).machine.registers.index (x.val + 1) =
    first + x.val + 1 := endOfMove_block hin
  rw [hmove] at hrun
  refine ⟨_, _, hrun, ⟨⟨memory, accesses, rfl⟩, fun y a hy ha => ?_, fun a ha => ?_⟩, ?_⟩
  · have hbyte := hs.registers.general y
    have hcell : memory.get a = UInt8.ofNat (s.machine.registers.get y).toNat :=
      (hmemory a).trans (Memory.storedAt_register _ hy ha)
    show ((memory.get a).toNat : Int) = _
    rw [hcell, UInt8.toNat_ofNat']
    omega
  · refine (hmemory a).trans (Memory.storedAt_of_outside _ ?_)
    rw [Action.length_valuesUpTo]
    show ¬ (first ≤ (a.val : Int) ∧ (a.val : Int) < first + (x.val + 1 : Nat))
    omega
  · exact { hs with registers := hs.registers.withIndex hbehind }

/-- A block that memory has is loaded completely, into any registers. -/
theorem execute_load_inside {s : System τ} (hs : s.machine.registers.index = first) :
    ∃ display t, Action.execute (Instruction.decode (Instruction.spelled 15 x 6 5)) s =
        .ok (.advance display) t ∧ s.Loaded x first t := by
  obtain ⟨v, accesses, hv, hrun⟩ :=
    Action.execute_load_eq (s := s) x (by rw [hs]; exact hin.1)
  rw [← Instruction.decode_load, hs, endOfSweep_block hin, endOfMove_block hin] at hrun
  refine ⟨_, _, hrun, ⟨v, accesses, rfl⟩, fun y a hy ha => ?_, fun y hy => ?_⟩
  · have hread : s.machine.memory.at? (s.machine.registers.index + (y.val - 0 : Nat)) =
        some (s.machine.memory.get a) := s.machine.memory.at?_cell (by omega)
    refine (hv y).trans ?_
    rw [Registers.loadedAt, if_pos (by omega), hread]
    rfl
  · refine (hv y).trans (if_neg ?_)
    omega

omit [TimeScale τ] in
/-- What was loaded are bytes. -/
theorem Loaded.wellFormed {s t : System τ} (h : s.Loaded x first t) (hs : s.machine.WellFormed) :
    t.machine.WellFormed := by
  have hgeneral : ∀ y, 0 ≤ t.machine.registers.get y ∧ t.machine.registers.get y ≤ 255 := by
    intro y
    by_cases hy : y ≤ x
    · obtain ⟨a, ha⟩ := exists_blockCell hin hy
      have hbyte := (s.machine.memory.get a).toNat_lt
      rw [h.register y a hy ha]
      omega
    · rw [h.above y (Fin.not_le.1 hy)]
      exact hs.registers.general y
  obtain ⟨v, accesses, rfl⟩ := h.rest
  exact { hs with registers := (hs.registers.withGeneral hgeneral).withIndex (by omega) }

omit [TimeScale τ] hin in
/-- Storing what was just loaded changes no cell. -/
theorem Stored.memory_of_loaded {s t u : System τ} (h : t.Stored x first u)
    (hloaded : s.Loaded x first t) : u.machine.memory = s.machine.memory := by
  have hmemory : t.machine.memory = s.machine.memory := by
    obtain ⟨v, accesses, rfl⟩ := hloaded.rest
    rfl
  refine Memory.ext fun a => ?_
  by_cases ha : first ≤ (a.val : Int) ∧ (a.val : Int) ≤ first + x.val
  · obtain ⟨y, hy⟩ : ∃ y : Fin 16, (a.val : Int) = first + y.val :=
      ⟨⟨((a.val : Int) - first).toNat, by omega⟩, by simp only; omega⟩
    have hyx : y ≤ x := Fin.le_def.2 (by omega)
    have hsame := (h.cell y a hyx hy).trans (hloaded.register y a hyx hy)
    exact UInt8.toNat_inj.1 (Int.ofNat.inj hsame)
  · rw [h.outside a ha, hmemory]

end Inside

/-- **Loading gives back what was stored**, for every block that memory has.

Storing the registers up to `x` from an address on writes them to the cells of the block, and
changes no other cell and no register but the index register, which comes to stand behind the block.
No run changes these cells whose operations do not write to them.  And in every state in which the
cells hold what was stored, whatever its registers hold, loading from that address gives the registers
up to `x` the stored values, leaves the others and memory alone, and puts the index register behind
the block again.

The other way round, storing what was just loaded from the same address leaves memory as it was. -/
theorem transfers_restore {s : System τ} (hs : s.Reachable) (x : Fin 16) {first : Int}
    (hin : 0 ≤ first ∧ first + x.val ≤ 4095) :
    (∃ display t, Action.execute (Instruction.decode (Instruction.spelled 15 x 5 5))
        (s.pointedAt first) = .ok (.advance display) t ∧
      s.Stored x first t ∧
      (∀ run, t.Spares first (x.val + 1) run →
        ∀ a : Fin 4096, first ≤ (a.val : Int) → (a.val : Int) ≤ first + x.val →
          (t.afterAll run).machine.memory.get a = t.machine.memory.get a) ∧
      ∀ u : System τ, u.machine.registers.index = first →
        (∀ a : Fin 4096, first ≤ (a.val : Int) → (a.val : Int) ≤ first + x.val →
          u.machine.memory.get a = t.machine.memory.get a) →
        ∃ display w, Action.execute (Instruction.decode (Instruction.spelled 15 x 6 5)) u =
            .ok (.advance display) w ∧
          (∀ y ≤ x, w.machine.registers.get y = s.machine.registers.get y) ∧
          (∀ y, x < y → w.machine.registers.get y = u.machine.registers.get y) ∧
          w.machine.memory = u.machine.memory ∧
          w.machine.registers.index = first + x.val + 1) ∧
    ∃ display display' t u,
      Action.execute (Instruction.decode (Instruction.spelled 15 x 6 5)) (s.pointedAt first) =
        .ok (.advance display) t ∧
      Action.execute (Instruction.decode (Instruction.spelled 15 x 5 5)) (t.pointedAt first) =
        .ok (.advance display') u ∧
      u.machine.memory = s.machine.memory := by
  refine ⟨?_, ?_⟩
  · obtain ⟨display, t, hstore, hstored, ht⟩ := execute_store_inside hin hs.wellFormed
    refine ⟨display, t, hstore, hstored, fun run hrun a hlow hhigh => ?_, fun u hindex hsame => ?_⟩
    · exact get_afterAll run ht hrun a hlow (by omega)
    · obtain ⟨display', w, hload, hloaded⟩ := execute_load_inside hin hindex
      refine ⟨display', w, hload, fun y hy => ?_, hloaded.above, ?_, ?_⟩
      · obtain ⟨a, ha⟩ := exists_blockCell hin hy
        have hyx : y.val ≤ x.val := hy
        rw [hloaded.register y a hy ha, hsame a (by omega) (by omega), hstored.cell y a hy ha]
      · obtain ⟨v, accesses, rfl⟩ := hloaded.rest
        rfl
      · obtain ⟨v, accesses, rfl⟩ := hloaded.rest
        rfl
  · have hpointed : (s.pointedAt first).machine.WellFormed :=
      { hs.wellFormed with registers := hs.wellFormed.registers.withIndex (by omega) }
    obtain ⟨display, t, hload, hloaded⟩ := execute_load_inside hin (s := s.pointedAt first) rfl
    obtain ⟨display', u, hstore, hstored, -⟩ :=
      execute_store_inside hin (hloaded.wellFormed hin hpointed)
    have hsame : u.machine.memory = (s.pointedAt first).machine.memory :=
      hstored.memory_of_loaded hloaded
    exact ⟨display, display', t, u, hload, hstore, hsame⟩

/-- A machine whose program has put 42 into the first register. -/
def saving : System Rat := (System.started (Host.still 0 fun _ => 0) #[0x60, 0x2A]).after .step

theorem get_saving : saving.machine.registers.get 0 = 42 := by
  have hbyte : Instruction.decode
      ((System.started (Host.still (0 : Rat) fun _ => 0) #[0x60, 0x2A]).machine.memory.word 512) =
        .setByte 0 42 := by
    have hword : (System.started (Host.still (0 : Rat) fun _ => 0)
        #[0x60, 0x2A]).machine.memory.word 512 = 0x602A := Memory.word_loadRom _ _ (k := 0) rfl
    rw [hword]
    decide
  have hstep := Action.step_inside
    (s := System.started (Host.still (0 : Rat) fun _ => 0) #[0x60, 0x2A]) (a := 512) rfl rfl
  rw [hbyte] at hstep
  rw [saving, after, hstep]
  rfl

/-- All registers are stored at the very end of memory, and the first one comes back from there
after every register was overwritten. -/
theorem transfers_restore_topmost : saving.Reachable ∧
    (0 ≤ (4080 : Int) ∧ (4080 : Int) + (15 : Fin 16).val ≤ 4095) ∧
    ∃ display t, Action.execute (Instruction.decode 0xFF55) (saving.pointedAt 4080) =
        .ok (.advance display) t ∧
      t.machine.memory.get 4080 = 42 ∧
      ∃ display w, Action.execute (Instruction.decode 0xFF65)
          { t.afterAll [.setDrawOnBlank true] with
            machine.registers := { Registers.initial with index := 4080 } } =
            .ok (.advance display) w ∧
        w.machine.registers.get 0 = 42 ∧ w.machine.registers.index = 4096 := by
  have hreach : saving.Reachable := (reachable_started _ _).after .step
  have hin : 0 ≤ (4080 : Int) ∧ (4080 : Int) + (15 : Fin 16).val ≤ 4095 := by decide
  have hstoreWord : Instruction.spelled 15 15 5 5 = 0xFF55 := rfl
  have hloadWord : Instruction.spelled 15 15 6 5 = 0xFF65 := rfl
  obtain ⟨⟨display, t, hstore, hstored, hspared, hload⟩, -⟩ := transfers_restore hreach 15 hin
  rw [hstoreWord] at hstore
  rw [hloadWord] at hload
  have hrun : t.Spares 4080 16 [.setDrawOnBlank true] := ⟨fun _ _ _ => nofun, trivial⟩
  obtain ⟨display', w, hloaded, hback, -, -, hindex⟩ :=
    hload { t.afterAll [.setDrawOnBlank true] with
      machine.registers := { Registers.initial with index := 4080 } } rfl (hspared _ hrun)
  have hcell := hstored.cell 0 4080 (by decide) rfl
  rw [get_saving] at hcell
  refine ⟨hreach, hin, display, t, hstore, ?_, display', w, hloaded, ?_, hindex⟩
  · exact UInt8.toNat_inj.1 (Int.ofNat.inj hcell)
  · rw [hback 0 (by decide), get_saving]

end System

end Chip8
