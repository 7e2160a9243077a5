import Chip8.Proofs.Clock.Exact
import Chip8.Proofs.Machine.Snapshot
import Chip8.Proofs.Machine.Timing

/-!
# Drawing at the pace of the pictures

With the option to wait, a drawing is carried out only in a step in which the clock ticks.  Each
step updates the clock at its start, and a drawing can update it once more; which of the two can let
the drawing go depends on whether it was waiting already.

* `System.Attempts` — a step that comes to a drawing; it either draws, fails, or stalls;
* `FreshWait` — a drawing that was not waiting is let go by the second update alone, also if the
  first one made a tick;
* `PendingWait` — a drawing that was waiting is let go by either update, and asks for the second
  only if the first made no tick;
* `drawings_le_ticks` — **no run draws more often than the clock ticks**, because every drawing has
  a tick in its own step.
-/

namespace Chip8

/-- An instruction that draws a sprite. -/
def Instruction.isDraw : Instruction → Bool
  | .draw .. => true
  | _ => false

/-- A step, or what the host does aside without letting drawings go. -/
def Operation.keepsThrottle : Operation → Bool
  | .step => true
  | .setDrawOnBlank on => on
  | o => o.isAside

namespace System

variable {τ : Type} [TimeScale τ]

/-! ## Attempts to draw -/

omit [TimeScale τ] in
/-- The next step comes to a drawing: no key is awaited, and the word at the program counter spells
a drawing. -/
def Attempts (s : System τ) (x y rows : Fin 16) : Prop :=
  s.machine.keypad.waiting = false ∧ ∃ a : Fin 4095, s.machine.registers.pc = (a.val : Int) ∧
    Instruction.decode (s.machine.memory.word a) = .draw x y rows

/-- The update at the start of the next step makes a tick. -/
def firstTick (s : System τ) : Bool :=
  (s.machine.clock.update (s.host.time s.host.readings)).vblank

/-- One more update in the next step makes a tick. -/
def secondTick (s : System τ) : Bool :=
  ((s.machine.clock.update (s.host.time s.host.readings)).update
    (s.host.time (s.host.readings + 1))).vblank

/-- The next step answers nothing. -/
def Stalls (s : System τ) : Prop := ∃ t, Action.step s = .ok none t

omit [TimeScale τ] in
/-- A later state in which a program finds everything but the general registers as it was. -/
structure StandsStill (s t : System τ) : Prop where
  pc : t.machine.registers.pc = s.machine.registers.pc
  index : t.machine.registers.index = s.machine.registers.index
  sp : t.machine.registers.sp = s.machine.registers.sp
  stack : t.machine.registers.stack = s.machine.registers.stack
  memory : t.machine.memory = s.machine.memory
  screen : t.machine.screen = s.machine.screen
  trace : t.machine.trace = s.machine.trace

/-- A drawing that was not waiting: it is let go by the second update of the step, and by that
alone. -/
structure FreshWait (s : System τ) : Prop where
  ticks : s.ticksUntil (s.after .step) = [s.firstTick, s.secondTick]
  stalls : s.Stalls ↔ s.secondTick = false

/-- A drawing that was waiting: it is let go by either update of the step, and the second one is
made only if the first made no tick. -/
structure PendingWait (s : System τ) : Prop where
  ticks : s.ticksUntil (s.after .step) =
    if s.firstTick then [true] else [false, s.secondTick]
  stalls : s.Stalls ↔ s.firstTick = false ∧ s.secondTick = false

section Fetched

variable (s : System τ) (a : Fin 4095)

theorem drawOnBlank_fetched :
    (s.prepared.fetched a).machine.registers.drawOnBlank = s.machine.registers.drawOnBlank :=
  Registers.deliver_drawOnBlank ..

theorem awaitingBlank_fetched :
    (s.prepared.fetched a).machine.registers.awaitingBlank =
      s.machine.registers.awaitingBlank := Registers.deliver_awaitingBlank ..

/-- A drawing that waits asks the clock unless it was waiting and the step began with a tick. -/
theorem asksClock_fetched (hon : s.machine.registers.drawOnBlank = true) :
    (s.prepared.fetched a).asksClock = !(s.machine.registers.awaitingBlank && s.firstTick) := by
  rw [asksClock, drawOnBlank_fetched, hon, awaitingBlank_fetched]
  rfl

theorem drawStalls_fetched (hon : s.machine.registers.drawOnBlank = true) :
    (s.prepared.fetched a).drawStalls =
      (!(s.machine.registers.awaitingBlank && s.firstTick) && !s.secondTick) := by
  rw [drawStalls, asksClock_fetched s a hon]
  rfl

/-- The clock is updated once in a step whose drawing goes on at once, and else twice. -/
theorem readings_asked (hon : s.machine.registers.drawOnBlank = true) :
    (s.prepared.fetched a).asked.host.readings =
      s.host.readings + if s.machine.registers.awaitingBlank && s.firstTick then 1 else 2 := by
  rw [asked, asksClock_fetched s a hon]
  cases s.machine.registers.awaitingBlank && s.firstTick <;> rfl

end Fetched

variable {s : System τ} {x y rows : Fin 16}

/-- A step that comes to a drawing carries it out in the state `fetched`. -/
theorem Attempts.step_eq (h : s.Attempts x y rows) :
    ∃ a : Fin 4095, s.machine.registers.pc = (a.val : Int) ∧
      Instruction.decode (s.machine.memory.word a) = .draw x y rows ∧
      Action.step s = Action.finish a.val (s.machine.memory.word a) (.draw x y rows)
        (Action.execute (.draw x y rows) (s.prepared.fetched a)) := by
  obtain ⟨hactive, a, ha, hword⟩ := h
  refine ⟨a, ha, hword, ?_⟩
  have hrun := Action.step_inside hactive ha
  rw [hword] at hrun
  exact hrun

/-- A drawing that has to wait stalls with the machine as it was, and the next step comes to it
again. -/
theorem Attempts.step_stalled (h : s.Attempts x y rows)
    (hon : s.machine.registers.drawOnBlank = true)
    (hwait : (!(s.machine.registers.awaitingBlank && s.firstTick) && !s.secondTick) = true) :
    ∃ t, Action.step s = .ok none t ∧ t.host.readings = s.host.readings + 2 ∧
      s.StandsStill t ∧ t.Attempts x y rows ∧ t.machine.registers.awaitingBlank = true := by
  obtain ⟨a, ha, hword, hrun⟩ := h.step_eq
  rw [Action.execute_draw_stalled x y rows ((drawStalls_fetched s a hon).trans hwait)] at hrun
  refine ⟨_, hrun, rfl, ?_, ⟨h.1, a, ?_, hword⟩, rfl⟩
  · -- the delivery of a key changes general registers only
    constructor <;> simp [fetched, Action.hasRead, prepared, opened, ticked]
  · exact (prepared_pc s).trans ha

/-- A drawing that need not wait draws or fails, and is not waiting any longer. -/
theorem Attempts.step_released (h : s.Attempts x y rows) (hs : s.machine.WellFormed)
    (hon : s.machine.registers.drawOnBlank = true)
    (hgo : (!(s.machine.registers.awaitingBlank && s.firstTick) && !s.secondTick) = false) :
    ¬ s.Stalls ∧
      (s.after .step).host.readings =
        s.host.readings + (if s.machine.registers.awaitingBlank && s.firstTick then 1 else 2) ∧
      (s.after .step).machine.registers.awaitingBlank = false := by
  obtain ⟨a, ha, hword, hrun⟩ := h.step_eq
  have hrange : (s.prepared.fetched a).machine.registers.InRange :=
    hs.registers.deliver s.machine.keypad.response
  obtain ⟨v, cells, accesses, display, hdraw, -, -⟩ :=
    Action.execute_draw x y rows hrange ((drawStalls_fetched s a hon).trans hgo)
  have hreadings := readings_asked s a hon
  rw [hdraw, Action.endOfSweep] at hrun
  rw [Stalls, after, hrun]
  split <;>
    refine ⟨?_, hreadings, rfl⟩ <;>
    rintro ⟨t, ht⟩ <;>
    cases ht

/-- When a drawing stalls, and how often its step updates the clock. -/
theorem Attempts.stalls_and_readings (h : s.Attempts x y rows) (hs : s.machine.WellFormed)
    (hon : s.machine.registers.drawOnBlank = true) :
    (s.Stalls ↔ (!(s.machine.registers.awaitingBlank && s.firstTick) && !s.secondTick) = true) ∧
      (s.after .step).host.readings =
        s.host.readings +
          if s.machine.registers.awaitingBlank && s.firstTick then 1 else 2 := by
  cases hwait : (!(s.machine.registers.awaitingBlank && s.firstTick) && !s.secondTick) with
  | true =>
    obtain ⟨t, hrun, hreadings, -⟩ := h.step_stalled hon hwait
    have hasked : (s.machine.registers.awaitingBlank && s.firstTick) = false := by
      rw [Bool.and_eq_true, Bool.not_eq_true'] at hwait
      exact hwait.1
    rw [after_of_ok hrun, hasked]
    exact ⟨⟨fun _ => rfl, fun _ => ⟨t, hrun⟩⟩, hreadings⟩
  | false =>
    obtain ⟨hgo, hreadings, -⟩ := h.step_released hs hon hwait
    exact ⟨⟨fun hstall => absurd hstall hgo, fun hfalse => nomatch hfalse⟩, hreadings⟩

theorem Attempts.freshWait (h : s.Attempts x y rows) (hs : s.machine.WellFormed)
    (hon : s.machine.registers.drawOnBlank = true)
    (hidle : s.machine.registers.awaitingBlank = false) : s.FreshWait := by
  obtain ⟨hstalls, hreadings⟩ := h.stalls_and_readings hs hon
  rw [hidle] at hstalls hreadings
  constructor
  · rw [ticksUntil, Host.timesUntil_two hreadings]
    rfl
  · simpa using hstalls

theorem Attempts.pendingWait (h : s.Attempts x y rows) (hs : s.machine.WellFormed)
    (hon : s.machine.registers.drawOnBlank = true)
    (hwaiting : s.machine.registers.awaitingBlank = true) : s.PendingWait := by
  obtain ⟨hstalls, hreadings⟩ := h.stalls_and_readings hs hon
  rw [hwaiting, Bool.true_and] at hstalls hreadings
  constructor
  · cases hfirst : s.firstTick with
    | true =>
      rw [hfirst] at hreadings
      rw [ticksUntil, Host.timesUntil_one hreadings]
      exact congrArg (fun tick => [tick]) hfirst
    | false =>
      rw [hfirst] at hreadings
      rw [ticksUntil, Host.timesUntil_two hreadings]
      exact congrArg (fun tick => [tick, s.secondTick]) hfirst
  · simpa using hstalls

/-! ## Drawings and ticks -/

/-- The next operation is a step that carries out a drawing. -/
def draws (s : System τ) : Operation → Bool
  | .step => s.answer.any fun snapshot => snapshot.instruction.isDraw
  | _ => false

/-- The number of drawings that a run carries out. -/
def drawings (s : System τ) : List Operation → Nat
  | [] => 0
  | o :: run => (if s.draws o then 1 else 0) + (s.after o).drawings run

/-- A snapshot of a drawing comes from a step that came to it. -/
theorem attempts_of_snapshot {t : System τ} {snapshot : Snapshot}
    (hrun : Action.step s = .ok (some snapshot) t) (hdraw : snapshot.instruction.isDraw = true) :
    ∃ x y rows, s.Attempts x y rows := by
  have hactive : s.machine.keypad.waiting = false := by
    cases hw : s.machine.keypad.waiting with
    | false => rfl
    | true =>
      rw [Action.step_waiting hw] at hrun
      cases hrun
  obtain ⟨-, a, -, ha, hword, -⟩ := Action.step_snapshot hrun
  rw [hword] at hdraw
  cases hdecode : Instruction.decode (s.machine.memory.word a) with
  | draw x y rows => exact ⟨x, y, rows, hactive, a, ha, hdecode⟩
  | _ =>
    rw [hdecode] at hdraw
    cases hdraw

/-- **A drawing has a tick in its own step**, also if it fails. -/
theorem Attempts.tick_of_released (h : s.Attempts x y rows) (hs : s.machine.WellFormed)
    (hon : s.machine.registers.drawOnBlank = true) (hgo : ¬ s.Stalls) :
    true ∈ s.ticksUntil (s.after .step) := by
  cases hwaiting : s.machine.registers.awaitingBlank with
  | false =>
    have hwait := h.freshWait hs hon hwaiting
    have hsecond : s.secondTick = true := by simpa [hwait.stalls] using hgo
    simp [hwait.ticks, hsecond]
  | true =>
    have hwait := h.pendingWait hs hon hwaiting
    rw [hwait.ticks]
    cases hfirst : s.firstTick with
    | true => simp
    | false =>
      have hsecond : s.secondTick = true := by simpa [hwait.stalls, hfirst] using hgo
      simp [hsecond]

theorem tick_of_drawing {t : System τ} {snapshot : Snapshot} (hs : s.machine.WellFormed)
    (hon : s.machine.registers.drawOnBlank = true)
    (hrun : Action.step s = .ok (some snapshot) t) (hdraw : snapshot.instruction.isDraw = true) :
    true ∈ s.ticksUntil t := by
  obtain ⟨x, y, rows, hattempt⟩ := attempts_of_snapshot hrun hdraw
  have hgo : ¬ s.Stalls := by
    rintro ⟨u, hstall⟩
    rw [hrun] at hstall
    cases hstall
  rw [← after_of_ok hrun]
  exact hattempt.tick_of_released hs hon hgo

/-! ## Runs -/

omit [TimeScale τ] in
/-- What the host does aside leaves a drawing to be attempted. -/
theorem Attempts.aside {t : System τ} (h : s.Attempts x y rows) (ht : s.Aside t) :
    t.Attempts x y rows := by
  obtain ⟨hactive, a, ha, hword⟩ := h
  refine ⟨ht.keypad hactive, a, ht.pc.trans ha, ?_⟩
  rw [ht.memory]
  exact hword

theorem Timed.after {o : Operation} (ho : o.keepsThrottle = true) (s : System τ) :
    s.Timed (s.after o) := by
  cases o with
  | step => exact Action.step_timed s
  | loadRom | reset | resetAndLoad => exact absurd ho Bool.false_ne_true
  | setKey | setShiftSecond | setDrawOnBlank | setForeground | setBackground =>
    exact (Aside.after rfl s).timed

/-- Drawings go on waiting for the clock. -/
theorem drawOnBlank_after {o : Operation} (hs : s.machine.WellFormed)
    (hon : s.machine.registers.drawOnBlank = true) (ho : o.keepsThrottle = true) :
    (s.after o).machine.registers.drawOnBlank = true := by
  cases o with
  | step => exact (Action.step_options hs.registers.pc.1).2.trans hon
  | loadRom | reset | resetAndLoad => exact absurd ho Bool.false_ne_true
  | setShiftSecond on => exact hon
  | setDrawOnBlank on => exact ho
  | setKey | setForeground | setBackground => rw [registers_after s rfl, hon]

/-- What one operation draws, it has ticks for. -/
theorem draws_le_ticks {o : Operation} (hs : s.machine.WellFormed)
    (hon : s.machine.registers.drawOnBlank = true) :
    (if s.draws o then 1 else 0) ≤ (s.ticksUntil (s.after o)).count true := by
  cases hdraws : s.draws o with
  | false => simp
  | true =>
    cases o with
    | step =>
      rw [draws, Option.any_eq_true] at hdraws
      obtain ⟨snapshot, hanswer, hdraw⟩ := hdraws
      simpa using List.count_pos_iff.2 (tick_of_drawing hs hon (ok_of_answer hanswer) hdraw)
    | _ => cases hdraws

/-- **No run draws more often than the clock ticks**, and drawings wait for the clock to its end. -/
theorem drawings_le_ticks {run : List Operation} : ∀ {s : System τ}, s.machine.WellFormed →
    s.machine.registers.drawOnBlank = true → (∀ o ∈ run, o.keepsThrottle = true) →
    s.Timed (s.afterAll run) ∧
      (s.afterAll run).machine.registers.drawOnBlank = true ∧
      s.drawings run ≤ (s.ticksUntil (s.afterAll run)).count true := by
  induction run with
  | nil => exact fun _ hon _ => ⟨.refl _, hon, Nat.zero_le _⟩
  | cons o run ih =>
    intro s hs hon hrun
    have ho := hrun o (List.mem_cons_self ..)
    have hfirst := Timed.after ho s
    obtain ⟨hrest, hlast, hdrawings⟩ := ih (hs.after o) (drawOnBlank_after hs hon ho)
      fun o' ho' => hrun o' (List.mem_cons_of_mem o ho')
    have hone := draws_le_ticks (o := o) hs hon
    refine ⟨hfirst.trans hrest, hlast, ?_⟩
    show (if s.draws o then 1 else 0) + (s.after o).drawings run ≤
      (s.ticksUntil ((s.after o).afterAll run)).count true
    rw [ticksUntil_trans hfirst hrest, List.count_append]
    omega

/-- A drawing that is waiting is not let go by what the host does aside, as long as drawings
wait. -/
theorem awaitingBlank_afterAll {asides : List Operation} : ∀ {s : System τ},
    s.machine.registers.awaitingBlank = true →
    (∀ o ∈ asides, o.isAside = true ∧ o.keepsThrottle = true) →
    (s.afterAll asides).machine.registers.awaitingBlank = true := by
  induction asides with
  | nil => exact fun hwaiting _ => hwaiting
  | cons o asides ih =>
    intro s hwaiting hasides
    obtain ⟨haside, hkeeps⟩ := hasides o (List.mem_cons_self ..)
    refine ih ?_ fun o' ho' => hasides o' (List.mem_cons_of_mem o ho')
    cases o with
    | step | loadRom | reset | resetAndLoad => exact absurd haside Bool.false_ne_true
    | setKey | setForeground | setBackground => rw [registers_after s rfl, hwaiting]
    | setShiftSecond on => exact hwaiting
    | setDrawOnBlank on =>
      show (s.machine.registers.awaitingBlank && on) = true
      rw [hwaiting, show on = true from hkeeps]
      rfl

/-- The host turns waiting off, and on again after whatever else it does aside. -/
def switchedOffAndOn (s : System τ) (asides : List Operation) : System τ :=
  ((s.after (.setDrawOnBlank false)).afterAll asides).after (.setDrawOnBlank true)

/-- A drawing that was waiting is as if it had never been attempted. -/
theorem aside_switchedOffAndOn (s : System τ) {asides : List Operation}
    (hasides : ∀ o ∈ asides, o.isAside = true) :
    s.Aside (s.switchedOffAndOn asides) ∧
      (s.switchedOffAndOn asides).machine.registers.awaitingBlank = false ∧
      (s.switchedOffAndOn asides).machine.registers.drawOnBlank = true := by
  have hoff := Aside.setDrawOnBlank s false
  have hrest := Aside.afterAll (s := s.after (.setDrawOnBlank false)) hasides
  have hon := Aside.setDrawOnBlank ((s.after (.setDrawOnBlank false)).afterAll asides) true
  have hidle : (s.after (.setDrawOnBlank false)).machine.registers.awaitingBlank = false :=
    Bool.and_false _
  exact ⟨(hoff.trans hrest).trans hon, hon.drawing (hrest.drawing hidle), rfl⟩

/-- **Drawings keep the pace of the pictures**, in every run in which they wait for the clock,
whatever the times are that the host gives.

No run draws more often than the clock ticks, because every drawing has a tick in its own step.  A
step that comes to a drawing which was not waiting looks at its second update of the clock only, and
one that comes to a drawing which was waiting looks at either.  A step that stalls changes nothing
but general registers, and the next one comes to the same drawing as one that is waiting, unless
waiting is turned off and on in between: then the drawing waits from the start. -/
theorem drawing_throttled {s : System τ} (hs : s.Reachable)
    (hon : s.machine.registers.drawOnBlank = true) (run : List Operation)
    (hrun : ∀ o ∈ run, o.keepsThrottle = true) :
    let u := s.afterAll run
    s.drawings run ≤ (s.ticksUntil u).count true ∧
    (∀ snapshot t, Action.step u = .ok (some snapshot) t → snapshot.instruction.isDraw = true →
      true ∈ u.ticksUntil t) ∧
    ∀ x y rows, u.Attempts x y rows →
      (u.machine.registers.awaitingBlank = false → u.FreshWait) ∧
      (u.machine.registers.awaitingBlank = true → u.PendingWait) ∧
      (∀ t, Action.step u = .ok none t → u.StandsStill t ∧
        ∀ asides, (∀ o ∈ asides, o.isAside = true ∧ o.keepsThrottle = true) →
          (t.afterAll asides).Attempts x y rows ∧
          (t.afterAll asides).machine.registers.awaitingBlank = true) ∧
      (¬ u.Stalls → true ∈ u.ticksUntil (u.after .step) ∧
        (u.after .step).machine.registers.awaitingBlank = false) ∧
      ∀ asides, (∀ o ∈ asides, o.isAside = true) →
        (u.switchedOffAndOn asides).Attempts x y rows ∧
        (u.switchedOffAndOn asides).FreshWait := by
  intro u
  obtain ⟨htimed, huon, hdrawings⟩ := drawings_le_ticks hs.wellFormed hon hrun
  have hu : u.machine.WellFormed := hs.wellFormed.afterAll run
  refine ⟨hdrawings, fun snapshot t => tick_of_drawing hu huon, ?_⟩
  intro x y rows hattempt
  have hstalls := (hattempt.stalls_and_readings hu huon).1
  refine ⟨hattempt.freshWait hu huon, hattempt.pendingWait hu huon, ?_, ?_, ?_⟩
  · intro t hstep
    obtain ⟨t', hstep', -, hstill, hagain, hwaiting⟩ :=
      hattempt.step_stalled huon (hstalls.1 ⟨t, hstep⟩)
    rw [hstep] at hstep'
    cases hstep'
    refine ⟨hstill, fun asides hasides => ?_⟩
    have haside : t.Aside (t.afterAll asides) := Aside.afterAll fun o ho => (hasides o ho).1
    exact ⟨hagain.aside haside, awaitingBlank_afterAll hwaiting hasides⟩
  · intro hgo
    have hwait := Bool.eq_false_iff.2 (mt hstalls.2 hgo)
    exact ⟨hattempt.tick_of_released hu huon hgo, (hattempt.step_released hu huon hwait).2.2⟩
  · intro asides hasides
    obtain ⟨haside, hidle, hagain⟩ := u.aside_switchedOffAndOn hasides
    have hwell : (u.switchedOffAndOn asides).machine.WellFormed :=
      ((hu.after _).afterAll asides).after _
    have hattempts := hattempt.aside haside
    exact ⟨hattempts, hattempts.freshWait hwell hagain hidle⟩

/-- A host that makes the clock tick at its first update and not at the three that follow. -/
def unevenHost : Host Rat :=
  { Host.still 0 fun _ => 0 with
    time := fun n => if n = 0 then 0 else if n ≤ 4 then 1 / 64 else 2 / 64 }

/-- A machine whose program starts with a drawing that has to wait. -/
def eager : System Rat :=
  ((System.powerOn unevenHost).after (.loadRom #[0xD0, 0x01])).after (.setDrawOnBlank true)

/-- The first step stalls although it begins with a tick, and the second one finds the drawing
waiting. -/
theorem drawing_eager :
    eager.Reachable ∧ eager.machine.registers.drawOnBlank = true ∧
      (∀ o ∈ [Operation.step], o.keepsThrottle = true) ∧ eager.Attempts 0 0 1 ∧
      eager.firstTick = true ∧ eager.Stalls ∧
      let next := eager.after .step
      next.Attempts 0 0 1 ∧ next.PendingWait ∧
        eager.drawings [.step] ≤ (eager.ticksUntil next).count true := by
  have hreach : eager.Reachable := ((reachable_powerOn _).after _).after _
  have hmemory : eager.machine.memory = Memory.blank.loadRom #[0xD0, 0x01] := rfl
  have hword : eager.machine.memory.word 512 = 0xD001 := by
    rw [hmemory, Memory.word, Memory.get_loadRom, Memory.get_loadRom]
    rfl
  have hattempts : eager.Attempts 0 0 1 := by
    refine ⟨rfl, 512, rfl, ?_⟩
    rw [hword]
    decide
  have hidle : eager.machine.registers.awaitingBlank = false := rfl
  have hsecond : eager.secondTick = false := by decide +kernel
  have hrun : ∀ o ∈ [Operation.step], o.keepsThrottle = true := by decide
  -- the first step, after no operation at all
  obtain ⟨-, -, hnow⟩ := drawing_throttled hreach rfl [] (List.forall_mem_nil _)
  obtain ⟨hfresh, -, hstalled, -⟩ := hnow 0 0 1 hattempts
  obtain ⟨t, hstep⟩ := (hfresh hidle).stalls.2 hsecond
  obtain ⟨hagain, hwaiting⟩ := (hstalled t hstep).2 [] (List.forall_mem_nil _)
  -- the second step, after the first one
  have hnext : eager.after .step = t := after_of_ok hstep
  have hafter : eager.afterAll [.step] = t := by
    rw [afterAll, List.foldl_cons, List.foldl_nil, hnext]
  obtain ⟨hticks, -, hthen⟩ := drawing_throttled hreach rfl [.step] hrun
  rw [hafter] at hticks hthen
  rw [hnext]
  exact ⟨hreach, rfl, hrun, hattempts, by decide +kernel, ⟨t, hstep⟩,
    hagain, (hthen 0 0 1 hagain).2.1 hwaiting, hticks⟩

end System

end Chip8
