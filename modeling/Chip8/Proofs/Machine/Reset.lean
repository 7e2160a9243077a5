import Chip8.Proofs.Clock.Exact
import Chip8.Proofs.Machine.History
import Chip8.Proofs.Machine.Likeness

/-!
# Starting over

A machine that is started over keeps its picture, its colours and its two options, and nothing else.
Two systems are `Twins` if their machines are the same and their hosts have the same times and
random bytes to give; what was given before does not matter, nor what the journals hold.

* `Operation.respects_twins` — **twins stay twins under every operation**, and it reports the same
  of both, a snapshot, nothing, or a fault;
* `twins_started_over` — machines that agree in what a reset keeps are twins once they are started
  over with the same program at the same time;
* `startedOver_forgets` — so nothing tells them apart ever after.
-/

namespace Chip8

variable {τ : Type}

/-! ## Operations as actions -/

/-- Do something that has no answer. -/
def Action.silently (act : Action τ Unit) : Action τ (Option Snapshot) := do
  act
  return none

theorem Action.stateOf_silently (act : Action τ Unit) (s : System τ) :
    stateOf (silently act s) = stateOf (act s) := by
  rw [silently]
  cases hact : act s with
  | ok a t => rw [bind_of_ok hact]; rfl
  | error f t => rw [bind_of_error hact]; rfl

section

variable [TimeScale τ]

/-- What an operation does, and answers. -/
def Operation.action : Operation → Action τ (Option Snapshot)
  | .step => Action.step
  | .loadRom data => Action.silently (Action.loadRom data)
  | .reset => Action.silently Action.reset
  | .resetAndLoad data => Action.silently (Action.resetAndLoad data)
  | .setKey key pressed => Action.silently (Action.setKey key pressed)
  | .setShiftSecond on => Action.silently (Action.setShiftSecond on)
  | .setDrawOnBlank on => Action.silently (Action.setDrawOnBlank on)
  | .setForeground components => Action.silently (Action.setForeground components)
  | .setBackground components => Action.silently (Action.setBackground components)

namespace System

theorem after_eq (s : System τ) (o : Operation) : s.after o = Action.stateOf (o.action s) := by
  cases o with
  | step => rfl
  | _ => rw [after, Operation.action, Action.stateOf_silently]

/-- What an operation reports: the snapshot of what it carried out, if anything, or its fault. -/
def report (s : System τ) (o : Operation) : Except Fault (Option Snapshot) :=
  match o.action s with
  | .ok a _ => .ok a
  | .error f _ => .error f

/-- What operations report, one after the other. -/
def reports (s : System τ) : List Operation → List (Except Fault (Option Snapshot))
  | [] => []
  | o :: operations => s.report o :: (s.after o).reports operations

end System

end

/-! ## Twins -/

theorem Machine.ext {m n : Machine τ} (registers : m.registers = n.registers)
    (memory : m.memory = n.memory) (screen : m.screen = n.screen) (clock : m.clock = n.clock)
    (keypad : m.keypad = n.keypad) (accesses : m.accesses = n.accesses)
    (trace : m.trace = n.trace) : m = n := by
  cases m
  cases n
  congr

namespace System

/-- The same machine on hosts that have the same to give from now on. -/
structure Twins (s t : System τ) : Prop where
  machine : s.machine = t.machine
  time : ∀ n, s.host.time (s.host.readings + n) = t.host.time (t.host.readings + n)
  random : ∀ n, s.host.random (s.host.draws + n) = t.host.random (t.host.draws + n)

theorem Twins.alike {s t : System τ} (h : s.Twins t) : s.Alike t := by
  refine ⟨?_, ?_, ?_, ?_, ?_, ?_, h.random⟩ <;> rw [h.machine]

/-- Systems that are alike differ in what is about time only. -/
theorem Alike.machine_eq {s t : System τ} (h : s.Alike t)
    (hclock : s.machine.clock = t.machine.clock)
    (hon : s.machine.registers.drawOnBlank = t.machine.registers.drawOnBlank)
    (hwaiting : s.machine.registers.awaitingBlank = t.machine.registers.awaitingBlank) :
    s.machine = t.machine := by
  obtain ⟨hregisters, hmemory, hscreen, hkeypad, haccesses, htrace, -⟩ := h
  have hwaits := congrArg (fun r : Registers =>
    r.withWaits t.machine.registers.drawOnBlank t.machine.registers.awaitingBlank) hregisters
  have hall : s.machine.registers = t.machine.registers := by
    rw [← Registers.withWaits_self s.machine.registers, hon, hwaiting]
    exact hwaits
  exact Machine.ext hall hmemory hscreen hclock hkeypad haccesses htrace

/-- Twins are alike in every respect, so what both undergo leaves them twins. -/
theorem likeness_twins : Action.Likeness (Twins : System τ → System τ → Prop) where
  alike h := h.alike
  kept := by
    intro s t s' t' h hs ht halike
    have htiming : s'.timing.clock = t'.timing.clock ∧
        s'.timing.drawOnBlank = t'.timing.drawOnBlank ∧
        s'.timing.awaitingBlank = t'.timing.awaitingBlank := by
      rw [hs, ht, timing, timing, h.machine]
      exact ⟨rfl, rfl, rfl⟩
    have htime : ∀ n, s'.timing.time (s'.timing.readings + n) =
        t'.timing.time (t'.timing.readings + n) := by
      rw [hs, ht]
      exact h.time
    exact ⟨halike.machine_eq htiming.1 htiming.2.1 htiming.2.2, htime, halike.random⟩
  timers f h := ⟨by simp only [h.machine], h.time, h.random⟩
  released h := ⟨by simp only [h.machine], h.time, h.random⟩

end System

namespace Action

variable {α β : Type}

/-! ## What twins undergo -/

theorem twins_withMachine {f : Machine τ → Action τ β} (hf : ∀ m, Respects System.Twins (f m)) :
    Respects System.Twins (machine >>= f) := by
  intro s t h
  show Matches System.Twins (f s.machine s) (f t.machine t)
  rw [h.machine]
  exact hf _ s t h

theorem twins_withRegisters {f : Registers → Action τ β}
    (hf : ∀ r, Respects System.Twins (f r)) : Respects System.Twins (registers >>= f) :=
  twins_withMachine fun m => hf m.registers

theorem twins_update (f : Machine τ → Machine τ) : Respects System.Twins (update f) :=
  fun _ _ h => .ok () ⟨congrArg f h.machine, h.time, h.random⟩

theorem twins_updateRegisters (f : Registers → Registers) :
    Respects (System.Twins (τ := τ)) (updateRegisters f) :=
  twins_update fun m => { m with registers := f m.registers }

theorem twins_note (e : Event) : Respects (System.Twins (τ := τ)) (note e) :=
  System.likeness_twins.note e

theorem twins_takeAccesses : Respects (System.Twins (τ := τ)) takeAccesses :=
  twins_withMachine fun _ => (twins_update _).bind fun _ => respects_pure _

/-- Twins that ask for the time are given the same, and stay twins. -/
theorem twins_readTime {s t : System τ} (h : s.Twins t) (f : τ → Machine τ → Machine τ) :
    System.Twins ⟨f s.host.readTime.1 s.machine, s.host.readTime.2⟩
      ⟨f t.host.readTime.1 t.machine, t.host.readTime.2⟩ := by
  have hnow : s.host.readTime.1 = t.host.readTime.1 := h.time 0
  exact ⟨by rw [hnow, h.machine], agree_later h.time, h.random⟩

section

variable [TimeScale τ]

theorem twins_tick : Respects (System.Twins (τ := τ)) tick :=
  fun _ _ h => .ok () (twins_readTime h fun now m => { m with clock := m.clock.update now })

theorem twins_mustWait : Respects (System.Twins (τ := τ)) mustWait := by
  have hseen : Respects (System.Twins (τ := τ)) blankSeen := by
    refine twins_withMachine fun m => ?_
    cases m.registers.awaitingBlank && m.clock.vblank with
    | true => exact respects_pure true
    | false => exact twins_tick.bind fun _ => twins_withMachine fun m => respects_pure _
  refine twins_withRegisters fun r => ?_
  cases r.drawOnBlank with
  | true => exact hseen.bind fun _ => respects_pure _
  | false => exact respects_pure false

theorem twins_draw (x y : Fin 16) (rows : Nat) :
    Respects (System.Twins (τ := τ)) (draw x y rows) := by
  refine twins_mustWait.bind fun wait => ?_
  cases wait with
  | true => exact (twins_update _).bind fun _ => respects_pure _
  | false => exact System.likeness_twins.drawSprite x y rows

theorem twins_execute (i : Instruction) : Respects (System.Twins (τ := τ)) (execute i) := by
  cases hlooks : i.looksAtClock with
  | false => exact System.likeness_twins.execute hlooks
  | true =>
    cases i with
    | getDelay x =>
      exact twins_withMachine fun m => (twins_update _).bind fun _ => respects_pure _
    | draw x y rows => exact twins_draw x y rows.val
    | _ => cases hlooks

theorem twins_runInstruction : Respects (System.Twins (τ := τ)) runInstruction := by
  refine twins_withRegisters fun r => (System.likeness_twins.fetch r.pc).bind fun word => ?_
  refine (twins_execute _).bind fun outcome => ?_
  refine twins_withRegisters fun r => (twins_note _).bind fun _ => ?_
  refine twins_withRegisters fun r' => ?_
  cases followUp r'.pc outcome.update with
  | none => exact respects_pure none
  | some next =>
    refine (twins_update _).bind fun _ => (twins_update _).bind fun _ => ?_
    exact twins_withRegisters fun _ => twins_takeAccesses.bind fun _ => respects_pure _

/-- **A step does the same to twins**, however it goes. -/
theorem twins_step : Respects (System.Twins (τ := τ)) step := by
  have htakeKey : Respects (System.Twins (τ := τ)) takeKey :=
    twins_withMachine fun _ => (twins_update _).bind fun _ => respects_pure _
  have hdeliver : Respects (System.Twins (τ := τ)) deliverKey := by
    refine htakeKey.bind fun response => ?_
    cases response with
    | none => exact respects_pure ()
    | some p => exact twins_update _
  refine twins_tick.bind fun _ => twins_takeAccesses.bind fun _ => twins_withMachine fun m => ?_
  cases m.keypad.waiting with
  | true => exact respects_pure none
  | false =>
    refine hdeliver.bind fun _ => twins_withRegisters fun r => ?_
    show Respects System.Twins (if 4096 ≤ r.pc then pure none else runInstruction)
    split
    · exact respects_pure none
    · exact twins_runInstruction

end

/-! ## What the host does to twins -/

theorem twins_loadRom (data : Bytes) : Respects (System.Twins (τ := τ)) (loadRom data) := by
  have hload : Respects (System.Twins (τ := τ)) (do
      update fun m => { m with memory := m.memory.loadRom data }
      note (.imageLoaded data.size)) := (twins_update _).bind fun _ => twins_note _
  show Respects System.Twins (if romSize < data.size then _ else _)
  split
  · exact (twins_note _).bind fun _ => hload
  · exact hload

theorem twins_reset : Respects (System.Twins (τ := τ)) reset := by
  have hrestart := fun s t (h : System.Twins (τ := τ) s t) => twins_readTime h fun now m =>
    { Machine.powerOn now with screen := m.screen, registers := m.registers.reset }
  exact Respects.bind (fun s t h => .ok () (hrestart s t h)) fun _ => twins_note _

theorem twins_resetAndLoad (data : Bytes) :
    Respects (System.Twins (τ := τ)) (resetAndLoad data) :=
  twins_reset.bind fun _ => twins_loadRom data

theorem twins_setKey (key : Int) (pressed : Bool) :
    Respects (System.Twins (τ := τ)) (setKey key pressed) := by
  refine twins_withMachine fun m => (respects_check _).bind fun k => ?_
  cases m.keypad.resolved? k pressed with
  | none => exact twins_update _
  | some p => exact (twins_note _).bind fun _ => twins_update _

theorem twins_changeScreen (paint : Screen → Except Fault Screen) :
    Respects (System.Twins (τ := τ)) (changeScreen paint) :=
  twins_withMachine fun _ => (respects_check _).bind fun _ => twins_update _

end Action

/-- **Every operation does the same to twins**, with the same answer or the same fault. -/
theorem Operation.respects_twins [TimeScale τ] (o : Operation) :
    Action.Respects (System.Twins (τ := τ)) o.action := by
  have hsilent : ∀ {act : Action τ Unit}, Action.Respects System.Twins act →
      Action.Respects System.Twins (Action.silently act) :=
    fun hact => hact.bind fun _ => Action.respects_pure none
  cases o with
  | step => exact Action.twins_step
  | loadRom data => exact hsilent (Action.twins_loadRom data)
  | reset => exact hsilent Action.twins_reset
  | resetAndLoad data => exact hsilent (Action.twins_resetAndLoad data)
  | setKey key pressed => exact hsilent (Action.twins_setKey key pressed)
  | setShiftSecond on => exact hsilent (Action.twins_updateRegisters fun r => r.setShiftSecond on)
  | setDrawOnBlank on => exact hsilent (Action.twins_updateRegisters fun r => r.setDrawOnBlank on)
  | setForeground components =>
    rw [action, Action.setForeground_eq]
    exact hsilent (Action.twins_changeScreen _)
  | setBackground components =>
    rw [action, Action.setBackground_eq]
    exact hsilent (Action.twins_changeScreen _)

/-! ## Starting over -/

/-- The same picture in the same colours, and the same two options. -/
structure Machine.SameSetup (m n : Machine τ) : Prop where
  screen : m.screen = n.screen
  shiftSecond : m.registers.shiftSecond = n.registers.shiftSecond
  drawOnBlank : m.registers.drawOnBlank = n.registers.drawOnBlank

namespace System

variable [TimeScale τ]

/-- An operation reports the same of twins, and leaves them twins. -/
theorem Twins.after {s t : System τ} (h : s.Twins t) (o : Operation) :
    s.report o = t.report o ∧ (s.after o).Twins (t.after o) := by
  have hmatches := o.respects_twins s t h
  rw [report, report, after_eq, after_eq]
  revert hmatches
  generalize o.action s = r, o.action t = r'
  rintro (⟨a, hst⟩ | ⟨f, hst⟩)
  · exact ⟨rfl, hst⟩
  · exact ⟨rfl, hst⟩

/-- So do operations, one after the other. -/
theorem Twins.afterAll (operations : List Operation) : ∀ {s t : System τ}, s.Twins t →
    s.reports operations = t.reports operations ∧
      (s.afterAll operations).Twins (t.afterAll operations) := by
  induction operations with
  | nil => exact fun h => ⟨rfl, h⟩
  | cons o operations ih =>
    intro s t h
    obtain ⟨hreport, hafter⟩ := h.after o
    obtain ⟨hreports, hend⟩ := ih hafter
    refine ⟨?_, hend⟩
    rw [reports, reports, hreport, hreports]

/-- A reset keeps the picture, its colours and the options. -/
theorem sameSetup_reset (s : System τ) : s.machine.SameSetup (s.after .reset).machine :=
  ⟨rfl, rfl, rfl⟩

/-- Machines that agree in what a reset keeps are twins once they are reset at the same time. -/
theorem twins_started_over {s t : System τ} (hsetup : s.machine.SameSetup t.machine)
    (htime : ∀ n, s.host.time (s.host.readings + n) = t.host.time (t.host.readings + n))
    (hrandom : ∀ n, s.host.random (s.host.draws + n) = t.host.random (t.host.draws + n)) :
    (s.after .reset).Twins (t.after .reset) := by
  have hnow : s.host.time s.host.readings = t.host.time t.host.readings := htime 0
  have hregisters : s.machine.registers.reset = t.machine.registers.reset := by
    rw [Registers.reset, Registers.reset, hsetup.shiftSecond, hsetup.drawOnBlank]
  have hreset : ∀ u : System τ, (u.after .reset).machine =
      { Machine.powerOn (u.host.time u.host.readings) with
        screen := u.machine.screen
        registers := u.machine.registers.reset } := fun _ => rfl
  refine ⟨?_, agree_later htime, hrandom⟩
  rw [hreset, hreset, hnow, hsetup.screen, hregisters]

theorem resetAndLoad_after (s : System τ) (data : Bytes) :
    s.after (.resetAndLoad data) = (s.after .reset).after (.loadRom data) := by
  obtain ⟨now, host, hreset⟩ := Action.reset_apply s
  rw [after, after, after, Action.resetAndLoad, bind_of_ok hreset, hreset]
  rfl

/-- **Starting over erases the history.**  A reset keeps the picture, its colours and the options;
and however two systems came to be as they are, if they agree in just these, then once both are
started over with the same program, at the same time, nothing tells them apart ever after: with the
same times and random bytes, the same operations report the same and lead to the same machine. -/
theorem startedOver_forgets (s : System τ) : s.machine.SameSetup (s.after .reset).machine ∧
    ∀ t : System τ, s.machine.SameSetup t.machine →
      (∀ n, s.host.time (s.host.readings + n) = t.host.time (t.host.readings + n)) →
      (∀ n, s.host.random (s.host.draws + n) = t.host.random (t.host.draws + n)) →
      ∀ (data : Bytes) (operations : List Operation),
        let u := s.after (.resetAndLoad data)
        let v := t.after (.resetAndLoad data)
        u.reports operations = v.reports operations ∧
          (u.afterAll operations).machine = (v.afterAll operations).machine := by
  refine ⟨sameSetup_reset s, fun t hsetup htime hrandom data operations => ?_⟩
  have hreset := twins_started_over hsetup htime hrandom
  obtain ⟨-, hloaded⟩ := hreset.after (.loadRom data)
  rw [← resetAndLoad_after, ← resetAndLoad_after] at hloaded
  obtain ⟨hreports, hend⟩ := hloaded.afterAll operations
  exact ⟨hreports, hend.machine⟩

end System

/-- A machine on which a key is held, with a program that waits for one. -/
def keyHeld : System Rat :=
  (System.powerOn (Host.still 0 fun _ => 0)).afterAll [.setKey 3 true, .loadRom #[0xF0, 0x0A]]

/-- A key that is held and a wait are forgotten: the machine goes on as one that was never used. -/
theorem startedOver_forgets_wait :
    let waiting := keyHeld.after .step
    let fresh := System.powerOn (Host.still (0 : Rat) fun _ => 0)
    waiting.machine.keypad.waiting = true ∧ waiting.machine.keypad.isDown 3 = true ∧
      (waiting.after (.resetAndLoad #[0xE0, 0x9E])).reports [.step, .setKey 3 true, .step] =
        (fresh.after (.resetAndLoad #[0xE0, 0x9E])).reports [.step, .setKey 3 true, .step] := by
  intro waiting fresh
  have hword : keyHeld.machine.memory.word 512 = 0xF00A := Memory.word_loadRom _ _ (k := 0) rfl
  have hdecode : Instruction.decode 0xF00A = .awaitKey 0 := by decide
  have hstep := Action.step_inside (s := keyHeld) (a := 512) rfl rfl
  rw [hword, hdecode, Action.execute_awaitKey] at hstep
  have hwaiting : waiting = Action.stateOf (Action.step keyHeld) := rfl
  rw [hstep] at hwaiting
  have hsetup : waiting.machine.SameSetup fresh.machine := by
    rw [hwaiting]
    exact ⟨rfl, rfl, rfl⟩
  have htime : ∀ n, waiting.host.time (waiting.host.readings + n) =
      fresh.host.time (fresh.host.readings + n) := by
    rw [hwaiting]
    exact fun _ => rfl
  have hrandom : ∀ n, waiting.host.random (waiting.host.draws + n) =
      fresh.host.random (fresh.host.draws + n) := by
    rw [hwaiting]
    exact fun _ => rfl
  have hforgets := (System.startedOver_forgets waiting).2 fresh hsetup htime hrandom
    #[0xE0, 0x9E] [.step, .setKey 3 true, .step]
  refine ⟨?_, ?_, hforgets.1⟩
  · rw [hwaiting]
    rfl
  · rw [hwaiting]
    rfl

end Chip8
