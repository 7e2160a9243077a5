import Chip8.Proofs.Clock.Updates
import Chip8.Proofs.Machine.History
import Chip8.Proofs.Machine.Moves

/-!
# The clock along a run

Between two states of a run the clock was updated once for every time that the host was asked for,
and nothing else moved it.  `System.Timed` says so, and it holds of every step (`step_timed`) and of
what the host does aside (`Aside.timed`): of keys, colours and options, which leave programs and the
clock alone.  Therefore `System.ticksUntil`, which replays the updates from the times alone, tells
which of them made a tick, and `ticksUntil_trans` counts the ticks of a run part by part.
-/

namespace Chip8

variable {τ : Type}

/-- What the host can do without making a step, placing a program or starting over. -/
def Operation.isAside : Operation → Bool
  | .setKey .. | .setShiftSecond _ | .setDrawOnBlank _ | .setForeground _ | .setBackground _ => true
  | .step | .loadRom _ | .reset | .resetAndLoad _ => false

/-- What the host does with keys and colours. -/
def Operation.sparesRegisters : Operation → Bool
  | .setKey .. | .setForeground _ | .setBackground _ => true
  | _ => false

namespace System

/-! ## What the host does aside -/

/-- A later state that differs in options, keys, the picture and the journal only, and in which
nothing waits that did not wait before. -/
structure Aside (s t : System τ) : Prop where
  memory : t.machine.memory = s.machine.memory
  clock : t.machine.clock = s.machine.clock
  pc : t.machine.registers.pc = s.machine.registers.pc
  keypad : s.machine.keypad.waiting = false → t.machine.keypad.waiting = false
  drawing : s.machine.registers.awaitingBlank = false →
    t.machine.registers.awaitingBlank = false
  time : t.host.time = s.host.time
  readings : t.host.readings = s.host.readings

namespace Aside

theorem refl (s : System τ) : s.Aside s := ⟨rfl, rfl, rfl, id, id, rfl, rfl⟩

theorem trans {s t u : System τ} (hst : s.Aside t) (htu : t.Aside u) : s.Aside u where
  memory := htu.memory.trans hst.memory
  clock := htu.clock.trans hst.clock
  pc := htu.pc.trans hst.pc
  keypad h := htu.keypad (hst.keypad h)
  drawing h := htu.drawing (hst.drawing h)
  time := htu.time.trans hst.time
  readings := htu.readings.trans hst.readings

/-- A key never starts a wait. -/
theorem setKey (s : System τ) (key : Int) (pressed : Bool) :
    s.Aside (Action.stateOf (Action.setKey key pressed s)) := by
  rcases Action.setKey_cases key pressed s with ⟨k, journal, hrun⟩ | ⟨f, hrun⟩ <;> rw [hrun]
  · refine { refl s with keypad := fun hw => ?_ }
    show (s.machine.keypad.press k pressed).waiting = false
    rw [Keypad.press]
    split
    · exact hw
    · simp [hw]
  · exact refl s

theorem withScreen (s : System τ) (screen : Screen) : s.Aside (s.withScreen screen) :=
  { refl s with }

/-- A drawing that is not waiting does not begin to wait by an option. -/
theorem setDrawOnBlank (s : System τ) (on : Bool) :
    s.Aside (Action.stateOf (Action.setDrawOnBlank on s)) := by
  refine { refl s with drawing := fun hidle => ?_ }
  show (s.machine.registers.awaitingBlank && on) = false
  rw [hidle]
  rfl

variable [TimeScale τ]

theorem after {o : Operation} (ho : o.isAside = true) (s : System τ) : s.Aside (s.after o) := by
  cases o with
  | step | loadRom | reset | resetAndLoad => exact absurd ho Bool.false_ne_true
  | setKey key pressed => exact setKey s key pressed
  | setShiftSecond on => exact { refl s with }
  | setDrawOnBlank on => exact setDrawOnBlank s on
  | setForeground components =>
    obtain ⟨screen, hrun⟩ := after_setForeground components s
    rw [hrun]
    exact withScreen s screen
  | setBackground components =>
    obtain ⟨screen, hrun⟩ := after_setBackground components s
    rw [hrun]
    exact withScreen s screen

theorem afterAll {run : List Operation} : ∀ {s : System τ},
    (∀ o ∈ run, o.isAside = true) → s.Aside (s.afterAll run) := by
  induction run with
  | nil => exact fun _ => refl _
  | cons o run ih =>
    intro s hrun
    have hfirst := after (hrun o (List.mem_cons_self ..)) s
    exact hfirst.trans (ih fun o' ho' => hrun o' (List.mem_cons_of_mem o ho'))

end Aside

variable [TimeScale τ]

theorem registers_after (s : System τ) {o : Operation} (ho : o.sparesRegisters = true) :
    (s.after o).machine.registers = s.machine.registers := by
  cases o with
  | setKey key pressed =>
    obtain ⟨keypad, host, hrun⟩ := Action.stateOf_setKey key pressed s
    rw [System.after, hrun]
  | setForeground components =>
    obtain ⟨screen, hrun⟩ := after_setForeground components s
    rw [hrun]
    rfl
  | setBackground components =>
    obtain ⟨screen, hrun⟩ := after_setBackground components s
    rw [hrun]
    rfl
  | _ => cases ho

/-! ## The clock between two states -/

/-- From one state to another, the clock was updated at the times that the host was asked for, and
at no other time. -/
structure Timed (s t : System τ) : Prop where
  time : t.host.time = s.host.time
  readings : s.host.readings ≤ t.host.readings
  beat : t.machine.clock.beat = (s.machine.clock.updateAll (s.host.timesUntil t.host)).beat

/-- Which of the updates of the clock between two states made a tick. -/
def ticksUntil (s t : System τ) : List Bool := s.machine.clock.ticksAt (s.host.timesUntil t.host)

namespace Timed

theorem refl (s : System τ) : s.Timed s := by
  refine ⟨rfl, Nat.le_refl _, ?_⟩
  rw [Host.timesUntil_of_eq rfl]
  rfl

theorem trans {s t u : System τ} (hst : s.Timed t) (htu : t.Timed u) : s.Timed u := by
  refine ⟨htu.time.trans hst.time, Nat.le_trans hst.readings htu.readings, ?_⟩
  rw [htu.beat, Clock.beat_updateAll hst.beat, ← Clock.updateAll_append,
    ← Host.timesUntil_append hst.time hst.readings htu.readings]

theorem ticked (s : System τ) : s.Timed s.ticked := by
  refine ⟨rfl, Nat.le_succ _, ?_⟩
  rw [Host.timesUntil_one rfl]
  rfl

end Timed

/-- The ticks of a run are those of its parts. -/
theorem ticksUntil_trans {s t u : System τ} (hst : s.Timed t) (htu : t.Timed u) :
    s.ticksUntil u = s.ticksUntil t ++ t.ticksUntil u := by
  rw [ticksUntil, Host.timesUntil_append hst.time hst.readings htu.readings, Clock.ticksAt_append,
    ← Clock.ticksAt_congr hst.beat]
  rfl

end System

namespace Action

variable [TimeScale τ]

/-- An instruction updates the clock only together with asking for the time. -/
theorem motion_timed : Motion (System.Timed : System τ → System τ → Prop) where
  refl := System.Timed.refl
  trans := System.Timed.trans
  registers s _ _ := { System.Timed.refl s with }
  screen s _ := { System.Timed.refl s with }
  timer s t _ := by cases t <;> exact { System.Timed.refl s with }
  ticked := System.Timed.ticked
  noted s _ := { System.Timed.refl s with }
  drawn s := { System.Timed.refl s with }
  read s _ := { System.Timed.refl s with }
  write s _ _ := { System.Timed.refl s with }

/-- **A step updates the clock only together with asking for the time**, however it goes. -/
theorem step_timed (s : System τ) : s.Timed (stateOf (step s)) :=
  motion_timed.step (fun s _ _ _ _ => { System.Timed.refl s with }) s

end Action

theorem System.Aside.timed [TimeScale τ] {s t : System τ} (h : s.Aside t) : s.Timed t := by
  refine ⟨h.time, Nat.le_of_eq h.readings.symm, ?_⟩
  rw [Host.timesUntil_of_eq h.readings, h.clock]
  rfl

end Chip8
