import Chip8.Proofs.Machine.WellFormed

/-!
# Histories of a machine

A history is a list of `Operation`s given to a machine that was switched on.  An operation that
fails part-way leaves what it did until then, and the history goes on from there.

* `loadRom_eq`, `reset_apply`, `setKey_cases` — what the host's own operations do;
* `System.handled_after` — what they leave alone, as long as they do not start over;
* `Machine.WellFormed.after` — one operation keeps a machine well-formed;
* `history_wellFormed` — **so every history does**, with any times and any random numbers;
* `System.Reachable` — the states that histories lead to.
-/

namespace Chip8

variable {τ : Type}

/-- What the host can do with a machine. -/
inductive Operation where
  /-- Make a step. -/
  | step
  /-- Place a program in memory. -/
  | loadRom (data : Bytes)
  /-- Start over. -/
  | reset
  /-- Start over with a program. -/
  | resetAndLoad (data : Bytes)
  /-- A key goes down or up. -/
  | setKey (key : Int) (pressed : Bool)
  /-- Choose where shifts take their operand from. -/
  | setShiftSecond (on : Bool)
  /-- Choose whether drawing waits. -/
  | setDrawOnBlank (on : Bool)
  /-- Change the colour of lit pixels. -/
  | setForeground (components : List Int)
  /-- Change the colour of unlit pixels. -/
  | setBackground (components : List Int)
  deriving DecidableEq, Repr

/-- The operations that start over. -/
def Operation.startsOver : Operation → Bool
  | .reset | .resetAndLoad _ => true
  | _ => false

namespace System

variable [TimeScale τ]

/-- The system after an operation, whether it succeeded or failed. -/
def after (s : System τ) : Operation → System τ
  | .step => Action.stateOf (Action.step s)
  | .loadRom data => Action.stateOf (Action.loadRom data s)
  | .reset => Action.stateOf (Action.reset s)
  | .resetAndLoad data => Action.stateOf (Action.resetAndLoad data s)
  | .setKey key pressed => Action.stateOf (Action.setKey key pressed s)
  | .setShiftSecond on => Action.stateOf (Action.setShiftSecond on s)
  | .setDrawOnBlank on => Action.stateOf (Action.setDrawOnBlank on s)
  | .setForeground components => Action.stateOf (Action.setForeground components s)
  | .setBackground components => Action.stateOf (Action.setBackground components s)

/-- The system after operations, one after the other. -/
def afterAll (s : System τ) (operations : List Operation) : System τ := operations.foldl after s

/-- A state that some history leads to. -/
def Reachable (s : System τ) : Prop :=
  ∃ (host : Host τ) (operations : List Operation), s = (System.powerOn host).afterAll operations

theorem reachable_powerOn (host : Host τ) : (System.powerOn host).Reachable := ⟨host, [], rfl⟩

theorem Reachable.afterAll {s : System τ} (h : s.Reachable) (run : List Operation) :
    (s.afterAll run).Reachable := by
  obtain ⟨host, operations, rfl⟩ := h
  refine ⟨host, operations ++ run, ?_⟩
  rw [System.afterAll, System.afterAll, System.afterAll, List.foldl_append]

theorem Reachable.after {s : System τ} (h : s.Reachable) (o : Operation) :
    (s.after o).Reachable := h.afterAll [o]

/-- A machine switched on and given a program. -/
def started (host : Host τ) (data : Bytes) : System τ :=
  (System.powerOn host).after (.loadRom data)

theorem reachable_started (host : Host τ) (data : Bytes) : (started host data).Reachable :=
  (reachable_powerOn host).after _

/-- What a step answers.  A step that fails answers nothing. -/
def answer (s : System τ) : Option Snapshot :=
  match Action.step s with
  | .ok a _ => a
  | .error _ _ => none

theorem answer_of_ok {s t : System τ} {a : Option Snapshot} (h : Action.step s = .ok a t) :
    s.answer = a := by
  rw [answer, h]

theorem after_of_ok {s t : System τ} {a : Option Snapshot} (h : Action.step s = .ok a t) :
    s.after .step = t := by
  rw [after, h]
  rfl

theorem answer_of_error {s t : System τ} {f : Fault} (h : Action.step s = .error f t) :
    s.answer = none := by
  rw [answer, h]

theorem after_of_error {s t : System τ} {f : Fault} (h : Action.step s = .error f t) :
    s.after .step = t := by
  rw [after, h]
  rfl

theorem ok_of_answer {s : System τ} {snapshot : Snapshot} (h : s.answer = some snapshot) :
    Action.step s = .ok (some snapshot) (s.after .step) := by
  rw [answer] at h
  cases hrun : Action.step s with
  | ok a t =>
    rw [hrun] at h
    cases h
    rw [after_of_ok hrun]
  | error f t =>
    rw [hrun] at h
    cases h

end System

/-! ## The operations of the host -/

/-- The system with another screen. -/
def System.withScreen (s : System τ) (screen : Screen) : System τ :=
  { s with machine.screen := screen }

namespace Action

/-- The reports of a program that is placed. -/
def romReports (data : Bytes) : List Event :=
  if romSize < data.size then [.imageTruncated data.size, .imageLoaded data.size]
  else [.imageLoaded data.size]

/-- Placing a program changes memory and is reported. -/
theorem loadRom_eq (data : Bytes) (s : System τ) :
    loadRom data s = .ok ()
      { machine := { s.machine with memory := s.machine.memory.loadRom data }
        host :=
          { s.host with journal := (romReports data).foldl Journal.note s.host.journal } } := by
  rw [loadRom, romReports]
  split <;> rfl

/-- Placing a program changes memory only. -/
theorem loadRom_apply (data : Bytes) (s : System τ) :
    ∃ journal, loadRom data s =
      .ok () { machine := { s.machine with memory := s.machine.memory.loadRom data }
               host := { s.host with journal := journal } } := ⟨_, loadRom_eq data s⟩

/-- A reset keeps the screen and the two options. -/
theorem reset_apply (s : System τ) :
    ∃ now host, reset s =
      .ok () { machine := { Machine.powerOn now with
                            screen := s.machine.screen
                            registers := s.machine.registers.reset }
               host := host } := ⟨_, _, rfl⟩

theorem setKey_inside (key : Fin 16) (pressed : Bool) (s : System τ) :
    ∃ journal, setKey key.val pressed s =
      .ok () { machine := { s.machine with keypad := s.machine.keypad.press key pressed }
               host := { s.host with journal := journal } } := by
  rw [setKey, bind_of_ok (machine_apply s), Keypad.index, Digit.require_coe,
    bind_of_ok (check_ok _ s)]
  cases s.machine.keypad.resolved? key pressed <;> exact ⟨_, rfl⟩

theorem setKey_outside {key : Int} (h : ¬ (0 ≤ key ∧ key < 16)) (pressed : Bool) (s : System τ) :
    setKey key pressed s = .error (.keyOutOfRange key) s := by
  rw [setKey, bind_of_ok (machine_apply s), Keypad.index, Digit.require_outside _ h,
    bind_of_error (check_error _ s)]

/-- A key changes the keypad, and is refused only without any change. -/
theorem setKey_cases (key : Int) (pressed : Bool) (s : System τ) :
    (∃ (k : Fin 16) (journal : Journal), setKey key pressed s =
      .ok () { machine := { s.machine with keypad := s.machine.keypad.press k pressed }
               host := { s.host with journal := journal } }) ∨
    ∃ f, setKey key pressed s = .error f s := by
  by_cases h : 0 ≤ key ∧ key < 16
  · obtain ⟨k, rfl⟩ : ∃ k : Fin 16, key = k.val := ⟨⟨key.toNat, by omega⟩, by simp only; omega⟩
    obtain ⟨journal, hrun⟩ := setKey_inside k pressed s
    exact .inl ⟨k, journal, hrun⟩
  · exact .inr ⟨_, setKey_outside h pressed s⟩

/-- Change the screen, or refuse to. -/
def changeScreen (paint : Screen → Except Fault Screen) : Action τ Unit := do
  let screen ← check (paint (← machine).screen)
  update fun m => { m with screen := screen }

theorem setForeground_eq (components : List Int) :
    (setForeground components : Action τ Unit) =
      changeScreen fun screen => screen.setForeground components := rfl

theorem setBackground_eq (components : List Int) :
    (setBackground components : Action τ Unit) =
      changeScreen fun screen => screen.setBackground components := rfl

section ChangeScreen

variable {paint : Screen → Except Fault Screen} {s : System τ}

theorem changeScreen_of_ok {screen : Screen} (h : paint s.machine.screen = .ok screen) :
    changeScreen paint s = .ok () (s.withScreen screen) := by
  rw [changeScreen, bind_of_ok (machine_apply s), h, bind_of_ok (check_ok screen s)]
  rfl

/-- A change that is refused leaves everything as it was. -/
theorem changeScreen_of_error {f : Fault} (h : paint s.machine.screen = .error f) :
    changeScreen paint s = .error f s := by
  rw [changeScreen, bind_of_ok (machine_apply s), h, bind_of_error (check_error f s)]

end ChangeScreen

/-- A change of the screen leaves everything else alone, also if it is refused. -/
theorem stateOf_changeScreen (paint : Screen → Except Fault Screen) (s : System τ) :
    ∃ screen, stateOf (changeScreen paint s) = s.withScreen screen := by
  cases hscreen : paint s.machine.screen with
  | error f => exact ⟨s.machine.screen, by rw [changeScreen_of_error hscreen]; rfl⟩
  | ok screen => exact ⟨screen, by rw [changeScreen_of_ok hscreen]; rfl⟩

/-- A key changes the keypad, and may be reported. -/
theorem stateOf_setKey (key : Int) (pressed : Bool) (s : System τ) :
    ∃ keypad journal, stateOf (setKey key pressed s) =
      { machine := { s.machine with keypad := keypad }
        host := { s.host with journal := journal } } := by
  rcases setKey_cases key pressed s with ⟨k, journal, hrun⟩ | ⟨f, hrun⟩
  · exact ⟨_, journal, congrArg stateOf hrun⟩
  · exact ⟨s.machine.keypad, s.host.journal, congrArg stateOf hrun⟩

end Action

/-! ## What the host leaves alone -/

/-- What the host can do without making a step or starting over. -/
def Operation.keepsPath : Operation → Bool
  | .step | .reset | .resetAndLoad _ => false
  | _ => true

theorem Operation.keepsPath_of_ne {o : Operation} (hstep : o ≠ .step)
    (hover : o.startsOver = false) : o.keepsPath = true := by
  cases o with
  | step => exact absurd rfl hstep
  | reset | resetAndLoad => cases hover
  | _ => rfl

namespace System

/-- A later state in which at most memory, the picture, keys, options and the journal have changed. -/
structure Handled (s t : System τ) : Prop where
  registers : ∃ shiftSecond drawOnBlank awaitingBlank, t.machine.registers =
    { s.machine.registers with
      shiftSecond := shiftSecond
      drawOnBlank := drawOnBlank
      awaitingBlank := awaitingBlank }
  clock : t.machine.clock = s.machine.clock
  trace : t.machine.trace = s.machine.trace
  time : t.host.time = s.host.time
  readings : t.host.readings = s.host.readings

theorem handled_withMemory (s : System τ) (memory : Memory) (journal : Journal) :
    s.Handled { machine := { s.machine with memory := memory }
                host := { s.host with journal := journal } } :=
  ⟨⟨_, _, _, rfl⟩, rfl, rfl, rfl, rfl⟩

theorem handled_withScreen (s : System τ) (screen : Screen) : s.Handled (s.withScreen screen) :=
  ⟨⟨_, _, _, rfl⟩, rfl, rfl, rfl, rfl⟩

/-- A colour that is chosen changes the screen only, also if it is refused. -/
theorem after_setForeground [TimeScale τ] (components : List Int) (s : System τ) :
    ∃ screen, s.after (.setForeground components) = s.withScreen screen := by
  rw [after, Action.setForeground_eq]
  exact Action.stateOf_changeScreen _ s

theorem after_setBackground [TimeScale τ] (components : List Int) (s : System τ) :
    ∃ screen, s.after (.setBackground components) = s.withScreen screen := by
  rw [after, Action.setBackground_eq]
  exact Action.stateOf_changeScreen _ s

/-- Without a step, and without starting over, nothing else changes. -/
theorem handled_after [TimeScale τ] {o : Operation} (ho : o.keepsPath = true) (s : System τ) :
    s.Handled (s.after o) := by
  cases o with
  | step | reset | resetAndLoad => cases ho
  | loadRom data =>
    obtain ⟨journal, hrun⟩ := Action.loadRom_apply data s
    rw [after, hrun]
    exact handled_withMemory s _ journal
  | setKey key pressed =>
    obtain ⟨keypad, journal, hrun⟩ := Action.stateOf_setKey key pressed s
    rw [after, hrun]
    exact ⟨⟨_, _, _, rfl⟩, rfl, rfl, rfl, rfl⟩
  | setShiftSecond on => exact ⟨⟨_, _, _, rfl⟩, rfl, rfl, rfl, rfl⟩
  | setDrawOnBlank on => exact ⟨⟨_, _, _, rfl⟩, rfl, rfl, rfl, rfl⟩
  | setForeground components =>
    obtain ⟨screen, hrun⟩ := after_setForeground components s
    rw [hrun]
    exact handled_withScreen s screen
  | setBackground components =>
    obtain ⟨screen, hrun⟩ := after_setBackground components s
    rw [hrun]
    exact handled_withScreen s screen

end System

/-! ## Well-formed histories -/

/-- A key ends the wait that it answers. -/
theorem Keypad.response_press {k : Keypad} (h : k.waiting = true → k.response = none) (key : Fin 16)
    (pressed : Bool) : (k.press key pressed).waiting = true →
      (k.press key pressed).response = none := by
  rw [Keypad.press]
  split
  · exact h
  · simp only
    split
    · intro hw
      cases hw
    · exact h

namespace Machine.WellFormed

theorem loadRom {s : System τ} (hs : s.machine.WellFormed) (data : Bytes) :
    (Action.stateOf (Action.loadRom data s)).machine.WellFormed := by
  obtain ⟨host, hrun⟩ := Action.loadRom_apply data s
  rw [hrun]
  exact hs.withMemory _

theorem reset {s : System τ} (hs : s.machine.WellFormed) :
    (Action.stateOf (Action.reset s)).machine.WellFormed := by
  obtain ⟨now, host, hrun⟩ := Action.reset_apply s
  rw [hrun]
  exact { powerOn now with registers := .reset _, screen := hs.screen }

theorem resetAndLoad {s : System τ} (hs : s.machine.WellFormed) (data : Bytes) :
    (Action.stateOf (Action.resetAndLoad data s)).machine.WellFormed := by
  obtain ⟨now, host, hrun⟩ := Action.reset_apply s
  have hreset := hs.reset
  rw [hrun] at hreset
  rw [Action.resetAndLoad, bind_of_ok hrun]
  exact hreset.loadRom data

theorem setKey {s : System τ} (hs : s.machine.WellFormed) (key : Int) (pressed : Bool) :
    (Action.stateOf (Action.setKey key pressed s)).machine.WellFormed := by
  rcases Action.setKey_cases key pressed s with ⟨k, journal, hrun⟩ | ⟨f, hrun⟩
  · rw [hrun]
    exact { hs with keypad := Keypad.response_press hs.keypad _ _ }
  · rw [hrun]
    exact hs

theorem changeScreen {s : System τ} (hs : s.machine.WellFormed)
    {paint : Screen → Except Fault Screen}
    (hpaint : ∀ screen, paint s.machine.screen = .ok screen → screen.TwoColored) :
    (Action.stateOf (Action.changeScreen paint s)).machine.WellFormed := by
  cases hscreen : paint s.machine.screen with
  | error f =>
    rw [Action.changeScreen_of_error hscreen]
    exact hs
  | ok screen =>
    rw [Action.changeScreen_of_ok hscreen]
    exact { hs with screen := hpaint screen hscreen }

variable [TimeScale τ]

/-- **An operation keeps a machine well-formed**, also if it fails. -/
theorem after {s : System τ} (hs : s.machine.WellFormed) (o : Operation) :
    (s.after o).machine.WellFormed := by
  cases o with
  | step => exact Action.step_keeps hs
  | loadRom data => exact hs.loadRom data
  | reset => exact hs.reset
  | resetAndLoad data => exact hs.resetAndLoad data
  | setKey key pressed => exact hs.setKey key pressed
  | setShiftSecond on => exact { hs with registers := hs.registers.setShiftSecond on }
  | setDrawOnBlank on => exact { hs with registers := hs.registers.setDrawOnBlank on }
  | setForeground components =>
    rw [System.after, Action.setForeground_eq]
    exact hs.changeScreen fun _ => hs.screen.setForeground
  | setBackground components =>
    rw [System.after, Action.setBackground_eq]
    exact hs.changeScreen fun _ => hs.screen.setBackground

theorem afterAll (operations : List Operation) {s : System τ} (hs : s.machine.WellFormed) :
    (s.afterAll operations).machine.WellFormed := by
  induction operations generalizing s with
  | nil => exact hs
  | cons o operations ih => exact ih (hs.after o)

end Machine.WellFormed

theorem System.Reachable.wellFormed [TimeScale τ] {s : System τ} (h : s.Reachable) :
    s.machine.WellFormed := by
  obtain ⟨host, operations, rfl⟩ := h
  exact (Machine.WellFormed.powerOn _).afterAll operations

/-- **Every history leaves a well-formed machine**, whatever the times, the random numbers and the
arguments of the operations are, and wherever an operation failed.  What the types of memory,
timers, colours and key presses promise is spelled out with it. -/
theorem history_wellFormed [TimeScale τ] (host : Host τ) (operations : List Operation) :
    let m := ((System.powerOn host).afterAll operations).machine
    m.WellFormed ∧
      (∀ a, (m.memory.get a).toNat ≤ 255) ∧
      m.clock.delay.toNat ≤ 255 ∧ m.clock.sound.toNat ≤ 255 ∧
      (∀ component ∈ m.screen.foreground.bytes ++ m.screen.background.bytes,
        component.toNat ≤ 255) ∧
      ∀ p, m.keypad.response = some p → p.key.val ≤ 15 ∧ p.register.val ≤ 15 := by
  intro m
  have hbyte : ∀ b : UInt8, b.toNat ≤ 255 := fun b => Nat.le_of_lt_succ b.toNat_lt
  have hm : m.WellFormed := (Machine.WellFormed.powerOn _).afterAll operations
  exact ⟨hm, fun _ => hbyte _, hbyte _, hbyte _, fun _ _ => hbyte _, fun p _ => by omega⟩

end Chip8
