import Mathlib.Data.List.Induction
import Chip8.Proofs.Machine.Path
import Chip8.Proofs.Window.Deeds

/-!
# Windows that do not run

While a program runs, only the picture in its window is kept up with it.  Does the window show its
machine again as soon as the program does not run?

* `seen_after` — one deed: if the timer is not active after it, either the machine is shown, or what
  was shown and what there is to show are as before, or the deed went wrong half-way;
* `shows_at_rest` — **so a window that does not run shows its machine, unless it still shows what it
  showed before a deed that went wrong half-way**;
* `frame_untold` — a frame goes wrong whose second instruction fails: the first one is not shown.
-/

namespace Chip8

namespace Window

variable {τ : Type} [TimeScale τ] {w : Window τ}

/-- What is seen of one deed that leaves a window which does not run. -/
theorem seen_after (hw : w.Sound) (d : Deed) (hidle : (w.after d).timer.active = false) :
    (w.after d).Shows ∨ w.Unmoved (w.after d) ∨ d.Stumbles w ∧ w.SameViews (w.after d) := by
  rcases (hw.turn d).2 with ⟨-, hshown, -⟩ | ⟨-, -, -, hunmoved, -⟩ | ⟨-, -, -, hseen⟩
  · exact .inl hshown.shows
  · exact .inr (.inl hunmoved)
  · rcases hseen with hshows | hactive | hunmoved | hstumbles
    · exact .inl hshows
    · rw [hidle] at hactive
      cases hactive
    · exact .inr (.inl hunmoved)
    · exact .inr (.inr hstumbles)

/-- A due frame whose run fails is told, and no more. -/
theorem after_frame_failed {f : Fault} {s : Session τ} (hdue : w.timer.active = true)
    (hrun : Session.run w.config.instructionsPerFrame w.session = .error f s) :
    (w.after .frame).timer.active = false ∧ (w.after .frame).trace = w.trace ∧
      (w.after .frame).machine = s.system.machine := by
  have hattempt : attempt (Session.run w.config.instructionsPerFrame) w =
      .ok (.error f) { w with session := s } := by
    rw [attempt, hrun]
  have hframe : Ends frame w fun _ t => t.timer.active = false ∧ t.trace = w.trace ∧
      t.machine = s.system.machine := .look (.next hattempt ⟨(), _, rfl, rfl, rfl, rfl⟩)
  rw [after_frame_due hdue]
  exact hframe.stateOf

end Window

/-! ## A frame that fails -/

/-- A machine that was started over with the program that strays. -/
structure AtStart (s : System Rat) : Prop where
  pc : s.machine.registers.pc = 512
  sp : s.machine.registers.sp = 0
  keypad : s.machine.keypad = .initial
  memory : s.machine.memory = Session.straying.system.machine.memory
  trace : s.machine.trace = []
  stops : s.host.stops = fun _ => false

namespace AtStart

variable {s : System Rat}

/-- The first instruction sets a register, and is remembered. -/
theorem step (h : AtStart s) :
    ∃ snapshot t, Action.step s = .ok (some snapshot) t ∧ t.machine.registers.pc = 514 ∧
      t.machine.registers.sp = 0 ∧ t.machine.keypad.waiting = false ∧
      t.machine.memory = Session.straying.system.machine.memory ∧
      t.machine.trace.length = 1 ∧ t.host.stops = fun _ => false := by
  have hdecode : Instruction.decode (s.machine.memory.word 512) = .setByte 0 1 := by
    rw [h.memory, Session.straying, (Session.word_setting 0x00 0xEE).1]
    decide
  have hwaiting : s.machine.keypad.waiting = false := by
    rw [h.keypad]
    rfl
  have hregisters : s.prepared.machine.registers = s.machine.registers :=
    System.registers_prepared (by rw [h.keypad]; rfl)
  have hstep := Action.step_inside (a := 512) hwaiting h.pc
  rw [hdecode] at hstep
  refine ⟨_, _, hstep, ?_, ?_, hwaiting, h.memory, ?_, h.stops⟩
  · show s.prepared.machine.registers.pc + 2 = 514
    rw [hregisters, h.pc]
    rfl
  · show s.prepared.machine.registers.sp = 0
    rw [hregisters, h.sp]
  · show (List.take traceLength (_ :: s.machine.trace)).length = 1
    rw [h.trace]
    rfl

/-- **The second instruction fails, and the first one stays remembered.** -/
theorem run (h : AtStart s) (hwell : s.machine.WellFormed) :
    ∃ t, Session.run 10 ⟨{}, s⟩ = .error (.stackUnderflow 514) t ∧
      t.system.machine.trace.length = 1 := by
  obtain ⟨snapshot, u, hfirst, hpc, hsp, hwaiting, hmemory, htrace, hstops⟩ := h.step
  obtain ⟨v, hsecond, hstops'⟩ := Session.step_straying hpc hsp hwaiting hmemory hstops
  obtain ⟨t, hstep, hst, hmark⟩ := Session.step_stepped (s := Session.marked ⟨{}, s⟩) hfirst
  have hsystem : t.system = u := hst.system.trans (System.after_of_ok hfirst)
  have hmissed : t.debugger.hit? snapshot t.system.machine.registers = none := by
    rw [Debugger.hit?, hst.breakpoints]
    rfl
  have hrunning : t.debugger.running = true :=
    hmark.2 ⟨rfl, System.not_stopped_of_never hfirst hstops⟩
  have hu : u.machine.WellFormed := by
    rw [← System.after_of_ok hfirst]
    exact hwell.after .step
  have hstays := Action.step_idle hu (System.answer_of_error hsecond)
  rw [hsecond] at hstays
  rw [← hsystem] at hsecond
  refine ⟨⟨Session.heeded t v, v⟩, ?_, ?_⟩
  · rw [Session.run_eq, show Int.toNat 10 = 8 + 1 + 1 from rfl, Session.runSteps_succ _ rfl hstep,
      Session.goOn_missed _ hmissed]
    exact Session.runSteps_failed 8 hrunning (Session.step_of_error hsecond)
  · exact (congrArg List.length hstays.trace).trans htrace

end AtStart

namespace Window

variable {τ : Type}

/-- A new window whose program was started over is at its start. -/
theorem Restarted.atStart {w t : Window Rat} (h : w.Restarted t #[0x60, 0x01, 0x00, 0xEE])
    (hstops : w.session.system.host.stops = fun _ => false) : AtStart t.session.system := by
  obtain ⟨journal, hrun⟩ := h.system
  obtain ⟨now, host, happly, hhost⟩ := Action.resetAndLoad_apply #[0x60, 0x01, 0x00, 0xEE]
    { w.session.system with host.journal := journal }
  rw [hrun] at happly
  rw [(EStateM.Result.ok.inj happly).2]
  exact ⟨rfl, rfl, rfl, rfl, rfl, hhost.trans hstops⟩

/-- Load the program that strays, and run it for a frame. -/
def strayingFrame : List Deed :=
  [.loadRom "stray.ch8" (some #[0x60, 0x01, 0x00, 0xEE]), .run, .frame]

/-- The frame fails, and nothing is shown of the instruction that was carried out. -/
theorem strayingFrame_ends :
    ∃ w : Window Rat, create .default ⟨[], "Monospace"⟩ (Host.still 0 fun _ => 0) = .ok w ∧
      (w.afterAll strayingFrame).timer.active = false ∧
      (w.afterAll strayingFrame).trace = #[] ∧
      (w.afterAll strayingFrame).machine.trace.length = 1 := by
  obtain ⟨w, s, hw, hsound, -, hconfig, -, hsession, happly, -⟩ :=
    create_default ⟨[], "Monospace"⟩ (Host.still (0 : Rat) fun _ => 0)
  have hstops : w.session.system.host.stops = fun _ => false := by
    rw [Config.apply_of_isBytes (by decide) (by decide)] at happly
    rw [hsession, ← (EStateM.Result.ok.inj happly).2]
    rfl
  have hfile : RomFile.read "stray.ch8" (some #[0x60, 0x01, 0x00, 0xEE]) =
      .ok #[0x60, 0x01, 0x00, 0xEE] := rfl
  obtain ⟨⟨⟩, u, hload, hshown, hover⟩ := hsound.loadRom_ends hfile
  have hstart := hover.atStart hstops
  obtain ⟨t, hrun, hlength⟩ := hstart.run hshown.sound.machine
  have hsession' : u.session = ⟨{}, u.session.system⟩ := by
    show (⟨u.session.debugger, u.session.system⟩ : Session Rat) = _
    rw [hover.debugger, hsession]
    rfl
  obtain ⟨htimer, htrace, hmachine⟩ := after_frame_failed (w := u.after .run) rfl (s := t) (by
    show Session.run u.config.instructionsPerFrame u.session = _
    rw [hsession', hshown.config, hconfig]
    exact hrun)
  have hafter : w.afterAll strayingFrame = (u.after .run).after .frame := by
    show ((w.after (.loadRom "stray.ch8" (some #[0x60, 0x01, 0x00, 0xEE]))).after .run).after
      .frame = _
    rw [after, hload]
    rfl
  refine ⟨w, hw, ?_⟩
  rw [hafter]
  refine ⟨htimer, htrace.trans ?_, ?_⟩
  · have hempty : u.machine.trace = [] := hstart.trace
    show u.trace = #[]
    rw [hshown.shows.trace, hempty]
    rfl
  · rw [hmachine]
    exact hlength

/-- A table without rows does not show an instruction. -/
theorem not_shows_of_trace {w : Window τ} (hempty : w.trace = #[])
    (hone : w.machine.trace.length = 1) : ¬ w.Shows := by
  intro h
  have hsize : w.trace.size = 1 := by
    rw [h.trace, Table.ofTrace, List.size_toArray, List.length_map, hone]
  rw [hempty] at hsize
  cases hsize

/-! ## Windows at rest -/

/-- **A window that does not run shows its machine**, unless the last one of its deeds that mattered
went wrong half-way: then it still shows what it showed before that deed. -/
theorem shows_at_rest [TimeScale τ] {w : Window τ} {config : Config} {fonts : FontSet}
    {host : Host τ} (hw : create config fonts host = .ok w) (deeds : List Deed)
    (hidle : (w.afterAll deeds).timer.active = false) :
    (w.afterAll deeds).Shows ∨
      ∃ (i : Nat) (d : Deed), deeds[i]? = some d ∧ d.Stumbles (w.before deeds i) ∧
        (w.before deeds i).SameViews (w.before deeds (i + 1)) ∧
        (w.before deeds (i + 1)).Unmoved (w.afterAll deeds) := by
  obtain ⟨hsound, hshows, -, -⟩ := create_shows hw
  -- the induction takes the last deed off: if it moved nothing, all is as it was before it
  induction deeds using List.reverseRecOn with
  | nil => exact .inl hshows
  | append_singleton deeds d ih =>
    have hbefore : w.before (deeds ++ [d]) deeds.length = w.afterAll deeds :=
      before_length w deeds [d]
    have hafter : w.before (deeds ++ [d]) (deeds.length + 1) = w.afterAll (deeds ++ [d]) := by
      rw [before, List.take_of_length_le (by rw [List.length_append, List.length_singleton])]
    have hlast : w.afterAll (deeds ++ [d]) = (w.afterAll deeds).after d :=
      afterAll_append w deeds [d]
    rw [hlast] at hidle
    rcases seen_after (hsound.afterAll deeds) d hidle with hnow | hunmoved | ⟨hstumbles, hviews⟩
    · left
      rw [hlast]
      exact hnow
    · rcases ih (hunmoved.timer.symm.trans hidle) with hthen | ⟨i, e, hi, hstumbles, hviews, hrest⟩
      · left
        rw [hlast]
        exact hunmoved.shows hthen
      · have hlt : i < deeds.length := (List.getElem?_eq_some_iff.1 hi).1
        refine .inr ⟨i, e, (List.getElem?_append_left hlt).trans hi, ?_⟩
        rw [before_append w (Nat.le_of_lt hlt), before_append w hlt, hlast]
        exact ⟨hstumbles, hviews, hrest.trans hunmoved⟩
    · refine .inr ⟨deeds.length, d, List.getElem?_concat_length, ?_⟩
      rw [hbefore, hafter, hlast]
      exact ⟨hstumbles, hviews, .refl _⟩

/-- One of its deeds went wrong half-way, and nothing has been shown since. -/
theorem shows_at_rest_straying :
    ∃ w : Window Rat, create .default ⟨[], "Monospace"⟩ (Host.still 0 fun _ => 0) = .ok w ∧
      (w.afterAll strayingFrame).timer.active = false ∧
      ∃ (i : Nat) (d : Deed), strayingFrame[i]? = some d ∧
        d.Stumbles (w.before strayingFrame i) ∧
        (w.before strayingFrame i).SameViews (w.before strayingFrame (i + 1)) ∧
        (w.before strayingFrame (i + 1)).Unmoved (w.afterAll strayingFrame) := by
  obtain ⟨w, hw, hidle, htrace, hlength⟩ := strayingFrame_ends
  have hstumbled := (shows_at_rest hw strayingFrame hidle).resolve_left
    (not_shows_of_trace htrace hlength)
  exact ⟨w, hw, hidle, hstumbled⟩

/-- **A frame that fails leaves a window that does not run and does not show its machine**: an
instruction was carried out, and the trace that is shown has no rows. -/
theorem frame_untold :
    ∃ w : Window Rat, create .default ⟨[], "Monospace"⟩ (Host.still 0 fun _ => 0) = .ok w ∧
      (w.afterAll strayingFrame).timer.active = false ∧
      (w.afterAll strayingFrame).trace = #[] ∧
      (w.afterAll strayingFrame).machine.trace.length = 1 ∧
      ¬ (w.afterAll strayingFrame).Shows := by
  obtain ⟨w, hw, hidle, htrace, hlength⟩ := strayingFrame_ends
  exact ⟨w, hw, hidle, htrace, hlength, not_shows_of_trace htrace hlength⟩

end Window

end Chip8
