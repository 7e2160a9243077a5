import Chip8.Proofs.Machine.Path
import Chip8.Proofs.Machine.Throttle

/-!
# What an instruction can change

Each instruction has a footprint: the parts of the machine that it can change.  `Instruction.paints`,
`Instruction.cellsWritten`, `Instruction.movesStack`, `Instruction.pointsIndex`,
`Instruction.writesTo`, `Instruction.startsDelay` and `Instruction.startsSound` tell it part by part
from the instruction alone, and `Instruction.asks?` tells whether it begins to wait for a key.

* `Footprint` — a later state in which everything outside the footprint is as it was, except that
  the clock has ticked;
* `execute_footprint` — **every instruction keeps to its footprint**, whether it succeeds or fails;
* `step_footprint` — **and so does every step that carries one out**, but for the tick at its start
  and the delivery of an awaited key.
-/

namespace Chip8

/-! ## Footprints -/

namespace Instruction

/-- The instructions that change pixels. -/
def paints : Instruction → Bool
  | .clear | .draw .. => true
  | _ => false

/-- How many cells an instruction writes to, from the one that the index register points at. -/
def cellsWritten : Instruction → Nat
  | .decimal _ => 3
  | .store x => x.val + 1
  | _ => 0

/-- The instructions that change the call stack. -/
def movesStack : Instruction → Bool
  | .call _ | .ret => true
  | _ => false

/-- The instructions that change the index register. -/
def pointsIndex : Instruction → Bool
  | .setIndex _ | .addIndex _ | .glyph _ | .store _ | .load _ => true
  | _ => false

/-- The general registers that an instruction writes to. -/
def writesTo (y : Fin 16) : Instruction → Bool
  | .setByte x _ | .addByte x _ | .copy x _ | .random x _ | .getDelay x => x == y
  | .bitOr x _ | .bitAnd x _ | .bitXor x _ | .add x _ | .sub x _ | .subFrom x _
  | .shiftRight x _ | .shiftLeft x _ => x == y || Registers.flag == y
  | .draw .. => Registers.flag == y
  | .load x => y ≤ x
  | _ => false

/-- The instructions that start the delay timer. -/
def startsDelay : Instruction → Bool
  | .setDelay _ => true
  | _ => false

/-- The instructions that start the sound timer. -/
def startsSound : Instruction → Bool
  | .setSound _ => true
  | _ => false

end Instruction

variable {τ : Type} [TimeScale τ]

/-- The clock of a later state, if nothing but ticks has happened to it. -/
def System.clockAt (s t : System τ) : Clock τ :=
  s.machine.clock.updateAll (s.host.timesUntil t.host)

/-- A later state in which everything outside the footprint of an instruction is as it was, except
that the clock has ticked. -/
structure Footprint (i : Instruction) (s t : System τ) : Prop where
  screen : i.paints = false → t.machine.screen = s.machine.screen
  foreground : t.machine.screen.foreground = s.machine.screen.foreground
  background : t.machine.screen.background = s.machine.screen.background
  memory : ∀ a : Fin 4096,
    ¬ (s.machine.registers.index ≤ (a.val : Int) ∧
      (a.val : Int) < s.machine.registers.index + i.cellsWritten) →
    t.machine.memory.get a = s.machine.memory.get a
  sp : i.movesStack = false → t.machine.registers.sp = s.machine.registers.sp
  stack : i.movesStack = false → t.machine.registers.stack = s.machine.registers.stack
  index : i.pointsIndex = false → t.machine.registers.index = s.machine.registers.index
  general : ∀ y, i.writesTo y = false → t.machine.registers.get y = s.machine.registers.get y
  delay : i.startsDelay = false → t.machine.clock.delay = (s.clockAt t).delay
  sound : i.startsSound = false → t.machine.clock.sound = (s.clockAt t).sound
  keypad : i.asks? = none → t.machine.keypad = s.machine.keypad
  keys : t.machine.keypad.down = s.machine.keypad.down
  shiftSecond : t.machine.registers.shiftSecond = s.machine.registers.shiftSecond
  drawOnBlank : t.machine.registers.drawOnBlank = s.machine.registers.drawOnBlank

namespace Registers

theorem get_put_of_ne {r : Registers} {x y : Fin 16} (h : (x == y) = false) (n : Int) :
    (r.put x n).get y = r.get y := by
  rw [get_put, if_neg (by simpa using h)]

theorem get_assign_of_ne {r : Registers} {x y : Fin 16} (h : (x == y) = false) (n : Int) :
    (r.assign x n).get y = r.get y := by
  rw [get_assign, if_neg (by simpa using h)]

end Registers

namespace Footprint

variable {i : Instruction} {s t : System τ}

theorem clockAt_self (h : t.host.readings = s.host.readings) : s.clockAt t = s.machine.clock := by
  rw [System.clockAt, Host.timesUntil_of_eq h]
  rfl

theorem clockAt_ticked (h : t.host.readings = s.host.readings + 1) :
    s.clockAt t = s.ticked.machine.clock := by
  rw [System.clockAt, Host.timesUntil_one h]
  rfl

/-- An instruction need not do all that it can. -/
theorem refl (i : Instruction) (s : System τ) : Footprint i s s where
  screen _ := rfl
  foreground := rfl
  background := rfl
  memory _ _ := rfl
  sp _ := rfl
  stack _ := rfl
  index _ := rfl
  general _ _ := rfl
  delay _ := by rw [clockAt_self rfl]
  sound _ := by rw [clockAt_self rfl]
  keypad _ := rfl
  keys := rfl
  shiftSecond := rfl
  drawOnBlank := rfl

/-- General registers and the index register change. -/
theorem ofRegisters {v : Vector Int 16} {index : Int} {host : Host τ}
    (hreadings : host.readings = s.host.readings)
    (hgeneral : ∀ y, i.writesTo y = false → v.get y = s.machine.registers.get y)
    (hindex : i.pointsIndex = false → index = s.machine.registers.index) :
    Footprint i s
      { machine :=
          { s.machine with registers := { s.machine.registers with v := v, index := index } }
        host := host } :=
  { refl i s with
    general := hgeneral
    index := hindex
    delay := fun _ => by rw [clockAt_self hreadings]
    sound := fun _ => by rw [clockAt_self hreadings] }

/-- A drawing changes the screen and the flag register, and may ask the clock. -/
theorem ofDrawing (x y rows : Fin 16) {bit? : Fin 2048 → Option Bool} {screen : Screen}
    (hscreen : s.machine.screen.Combined bit? screen) (hit : Bool) (accesses : Array Access) :
    Footprint (.draw x y rows) s
      { s.asked with
        machine.registers := s.machine.registers.drawn rows.val hit
        machine.screen := screen
        machine.accesses := accesses } := by
  obtain ⟨v, hv, hdrawn⟩ := s.machine.registers.drawn_eq rows.val hit
  have hgeneral : ∀ y, (Registers.flag == y) = false → v.get y = s.machine.registers.get y := by
    intro y hy
    exact hv y (by simpa using hy)
  rw [hdrawn]
  rcases s.asked_cases with hasked | hasked <;> rw [hasked]
  · exact { refl (.draw x y rows) s with
      screen := nofun
      foreground := hscreen.foreground
      background := hscreen.background
      general := hgeneral
      delay := fun _ => by rw [clockAt_ticked rfl]
      sound := fun _ => by rw [clockAt_ticked rfl] }
  · exact { refl (.draw x y rows) s with
      screen := nofun
      foreground := hscreen.foreground
      background := hscreen.background
      general := hgeneral }

/-- What is done with a word before and after its instruction leaves no footprint. -/
theorem followed {u : System τ} {a : Fin 4095}
    (h : Footprint i (s.fetched a) u) (e : TraceEntry) (next : Int) (report : Event) :
    Footprint i s
      { machine :=
          { u.machine.remember e with
            registers := { u.machine.registers with pc := next }
            accesses := #[] }
        host := u.host.note report } := { h with }

end Footprint

namespace Action

/-- **Every instruction keeps to its footprint**, whether it succeeds or fails. -/
theorem execute_footprint (i : Instruction) {s : System τ} (hr : s.machine.registers.InRange) :
    Footprint i s (stateOf (execute i s)) := by
  -- the parts that an instruction does change, its footprint says nothing of
  have hmeant {p : Prop} (h : true = false) : p := Bool.noConfusion h
  cases i with
  | clear => exact { Footprint.refl .clear s with screen := hmeant }
  | jump | jumpOffset | skipEqual | skipUnequal | skipSame | skipDifferent | undefined =>
    exact .ofRegisters rfl (fun _ _ => rfl) fun _ => rfl
  | setByte | addByte | copy | random | getDelay =>
    exact .ofRegisters rfl (fun _ hy => Registers.get_put_of_ne hy _) fun _ => rfl
  | setIndex | addIndex | glyph => exact .ofRegisters rfl (fun _ _ => rfl) hmeant
  | bitOr | bitAnd | bitXor | add | sub | subFrom =>
    refine .ofRegisters rfl (fun y hy => ?_) fun _ => rfl
    obtain ⟨hx, hflag⟩ := Bool.or_eq_false_iff.1 hy
    exact (Registers.get_assign_of_ne hflag _).trans (Registers.get_put_of_ne hx _)
  | shiftRight x y | shiftLeft x y =>
    obtain ⟨a, -, hrun⟩ := shiftOperand_apply x y hr
    rw [execute, bind_of_ok hrun]
    refine .ofRegisters rfl (fun y hy => ?_) fun _ => rfl
    obtain ⟨hx, hflag⟩ := Bool.or_eq_false_iff.1 hy
    exact (Registers.get_assign_of_ne hflag _).trans (Registers.get_put_of_ne hx _)
  | ret =>
    by_cases hsp : s.machine.registers.sp ≤ 0
    · rw [execute_ret_empty hsp]
      exact .refl _ s
    · obtain ⟨slot, -, hrun⟩ := execute_ret hr (by omega)
      rw [hrun]
      exact { Footprint.refl .ret s with sp := hmeant, stack := hmeant }
  | call target =>
    by_cases hsp : 16 ≤ s.machine.registers.sp
    · rw [execute_call_full target hsp]
      exact .refl _ s
    · obtain ⟨slot, -, hrun⟩ := execute_call target hr (by omega)
      rw [hrun]
      exact { Footprint.refl (.call target) s with sp := hmeant, stack := hmeant }
  | skipPressed x | skipReleased x =>
    rcases key_or_outside hr x with hx | ⟨key, hx⟩
    · rw [execute, skipOnKey_outside _ hx]
      exact .refl _ s
    · rw [execute, skipOnKey_inside _ hx]
      exact .refl _ s
  | awaitKey x =>
    rw [execute_awaitKey]
    exact { Footprint.refl (.awaitKey x) s with
      keypad := fun h => absurd h (Option.some_ne_none x) }
  | setDelay x =>
    rw [execute, startTimer_eq .delay x hr]
    exact { Footprint.refl (.setDelay x) s with delay := hmeant }
  | setSound x =>
    rw [execute, startTimer_eq .sound x hr]
    exact { Footprint.refl (.setSound x) s with sound := hmeant }
  | decimal x =>
    obtain ⟨memory, accesses, hmemory, hrun⟩ := execute_decimal_eq x hr
    rw [hrun, stateOf_endOfSweep]
    refine { Footprint.refl (.decimal x) s with memory := fun a ha => ?_ }
    exact (hmemory a).trans (Memory.storedAt_of_outside _ ha)
  | store x =>
    obtain ⟨memory, accesses, hmemory, hrun⟩ := execute_store_eq x hr
    rw [hrun, stateOf_endOfSweep]
    refine { Footprint.refl (.store x) s with index := hmeant, memory := fun a ha => ?_ }
    refine (hmemory a).trans (Memory.storedAt_of_outside _ ?_)
    rw [length_valuesUpTo]
    exact ha
  | load x =>
    obtain ⟨v, accesses, hv, hrun⟩ := execute_load_eq x hr.index.1
    rw [hrun, stateOf_endOfSweep]
    refine { Footprint.refl (.load x) s with index := hmeant, general := fun y hy => ?_ }
    have hout : ¬ y ≤ x := of_decide_eq_false hy
    exact (hv y).trans (if_neg (by omega))
  | draw x y rows =>
    cases hstall : s.drawStalls with
    | true =>
      rw [execute_draw_stalled x y rows hstall]
      exact { Footprint.refl (.draw x y rows) s with
        delay := fun _ => by rw [Footprint.clockAt_ticked rfl]; rfl
        sound := fun _ => by rw [Footprint.clockAt_ticked rfl]; rfl }
    | false =>
      obtain ⟨hit, screen, accesses, display, hscreen, -, hrun⟩ := execute_draw_eq x y rows hr hstall
      rw [hrun, stateOf_endOfSweep]
      exact (Footprint.ofDrawing x y rows hscreen hit accesses)

/-! ## Steps -/

/-- **A step keeps to the footprint of the instruction that it carries out**, in every state that
programs and the host lead to, but for the tick at its start and the delivery of an awaited key,
which `System.prepared` tells.

An undefined word changes nothing at all besides: the machine goes on behind it, and remembers it.
The instruction is the one that the word at the program counter spells. -/
theorem step_footprint {s t : System τ} (hs : s.Reachable) {snapshot : Snapshot}
    (h : step s = .ok (some snapshot) t) :
    Footprint snapshot.instruction s.prepared t ∧
      (∀ word, snapshot.instruction = .undefined word →
        t.machine =
          { s.prepared.machine with
            registers := { s.prepared.machine.registers with pc := s.machine.registers.pc + 2 }
            trace := (snapshot.entry :: s.machine.trace).take traceLength }) ∧
      ∃ a : Fin 4095, s.machine.registers.pc = (a.val : Int) ∧
        snapshot.instruction = Instruction.decode (s.machine.memory.word a) := by
  obtain ⟨a, ha, hfinish⟩ := step_eq_finish h
  obtain ⟨o, u, next, hrun, hnext, rfl, rfl⟩ := finish_carried hfinish
  refine ⟨?_, ?_, a, ha, rfl⟩
  · have hr : (s.prepared.fetched a).machine.registers.InRange :=
      hs.wellFormed.registers.deliver s.machine.keypad.response
    have hfootprint := execute_footprint (Instruction.decode (s.machine.memory.word a)) hr
    rw [hrun] at hfootprint
    exact hfootprint.followed _ next _
  · intro word hword
    replace hword : Instruction.decode (s.machine.memory.word a) = .undefined word := hword
    rw [hword] at hrun
    cases hrun
    cases hnext
    have hpc : (s.prepared.fetched a).machine.registers.pc = s.machine.registers.pc :=
      System.prepared_pc s
    rw [hpc]
    rfl

/-- A machine whose program stores two registers over the first glyph. -/
def scribbling : System Rat := .started (Host.still 0 fun _ => 0) #[0xF1, 0x55]

/-- The third row of the glyph stays, and so do the general registers. -/
theorem step_footprint_scribbling : scribbling.Reachable ∧
    ∃ snapshot t, step scribbling = .ok (some snapshot) t ∧ snapshot.instruction = .store 1 ∧
      t.machine.memory.get 2 = scribbling.machine.memory.get 2 ∧ t.machine.registers.get 1 = 0 := by
  have hreach : scribbling.Reachable := System.reachable_started _ _
  refine ⟨hreach, ?_⟩
  have hword : scribbling.machine.memory.word 512 = 0xF155 := Memory.word_loadRom _ _ (k := 0) rfl
  have hdecode : Instruction.decode (scribbling.machine.memory.word 512) = .store 1 := by
    rw [hword]
    decide
  have hr : (scribbling.prepared.fetched 512).machine.registers.InRange :=
    hreach.wellFormed.registers.deliver scribbling.machine.keypad.response
  obtain ⟨memory, accesses, -, hstore⟩ := execute_store_eq 1 hr
  have hok := hstore.trans (if_pos (.inr (by decide)))
  have hstep := step_inside (s := scribbling) (a := 512) rfl rfl
  rw [hdecode, hok] at hstep
  obtain ⟨snapshot, t, hrun, hinstruction⟩ : ∃ snapshot t,
      step scribbling = .ok (some snapshot) t ∧ snapshot.instruction = .store 1 :=
    ⟨_, _, hstep, rfl⟩
  obtain ⟨hfootprint, -⟩ := step_footprint hreach hrun
  rw [hinstruction] at hfootprint
  have hzero : scribbling.prepared.machine.registers.get 1 = 0 := rfl
  refine ⟨snapshot, t, hrun, hinstruction, ?_, (hfootprint.general 1 rfl).trans hzero⟩
  exact hfootprint.memory 2 (by decide)

end Action

end Chip8
