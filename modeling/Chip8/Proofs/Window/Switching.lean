import Chip8.Proofs.Window.Deeds

/-!
# Which commands can be given

The switches of a window, its timer and its program are set one by one, in many places, some of
which are not come to if something fails before.  Do the switches go with the timer and the program
all the same?

* `Keeps` — an action leaves some part of the window alone, also when it fails; this is put together
  from the parts of the action, and needs nothing of the window;
* `Settles` — an action leaves switches that go with the timer and the program, if it finds such
  switches, and keeps the program;
* `Switched.called` — whatever is done with a window, its switches go with them if they did before;
* `switches_follow` — **so the switches go with the run state after whatever was done**, and a file
  that cannot be loaded changes nothing.
-/

namespace Chip8

/-- A program file is refused if it is missing or has no bytes. -/
theorem RomFile.read_refused_iff (path : String) (contents : Option Bytes) :
    (∃ f, read path contents = .error f) ↔ contents = none ∨ contents = some #[] := by
  cases contents with
  | none => exact ⟨fun _ => .inl rfl, fun _ => ⟨_, rfl⟩⟩
  | some data =>
    rw [read]
    by_cases hempty : data.isEmpty = true
    · rw [if_pos hempty, Array.isEmpty_iff.1 hempty]
      exact ⟨fun _ => .inr rfl, fun _ => ⟨_, rfl⟩⟩
    · rw [if_neg hempty]
      constructor
      · rintro ⟨f, ⟨⟩⟩
      · rintro (⟨⟨⟩⟩ | ⟨⟨⟩⟩)
        exact absurd rfl hempty

namespace Window

variable {τ α β γ : Type}

/-! ## Leaving a part of the window alone -/

/-- An action leaves a view of the window alone, also when it fails. -/
def Keeps (view : Window τ → γ) (act : WindowAction τ α) : Prop :=
  ∀ w, view (stateOf (act w)) = view w

section Keeps

variable {view : Window τ → γ} {act : WindowAction τ α}

theorem Keeps.pure (a : α) : Keeps view (Pure.pure a : WindowAction τ α) := fun _ => rfl

theorem Keeps.bind {f : α → WindowAction τ β} (hact : Keeps view act)
    (hf : ∀ a, Keeps view (f a)) : Keeps view (act >>= f) := by
  intro w
  have hfirst := hact w
  cases hrun : act w with
  | ok a t =>
    rw [hrun] at hfirst
    rw [bind_of_ok hrun]
    exact (hf a t).trans hfirst
  | error f t =>
    rw [hrun] at hfirst
    rw [bind_of_error hrun]
    exact hfirst

/-- What was done first, when all was done without a failure. -/
theorem Keeps.of_bind_ok {f : α → WindowAction τ β} (hact : Keeps view act) {w t : Window τ}
    {b : β} (h : (act >>= f) w = .ok b t) : ∃ a u, view u = view w ∧ f a u = .ok b t := by
  have hfirst := hact w
  cases hrun : act w with
  | ok a u =>
    rw [hrun] at hfirst
    rw [bind_of_ok hrun] at h
    exact ⟨a, u, hfirst, h⟩
  | error f u =>
    rw [bind_of_error hrun] at h
    cases h

/-- A look at the window, and then something with what is seen. -/
theorem Keeps.look {f : Window τ → WindowAction τ β} (hf : ∀ w, Keeps view (f w)) :
    Keeps view (get >>= f) := fun w => hf w w

/-- A change, and then something else. -/
theorem Keeps.change {change : Window τ → Window τ} {f : Unit → WindowAction τ β}
    (h : ∀ w, view (change w) = view w) (hf : Keeps view (f ())) :
    Keeps view (modify change >>= f) := fun w => (hf (change w)).trans (h w)

theorem Keeps.check (r : Except Fault α) : Keeps view (check r : WindowAction τ α) := by
  intro w
  cases r <;> rfl

/-- A view that does not look at the session. -/
def Overlooks (view : Window τ → γ) : Prop := ∀ w s, view { w with session := s } = view w

theorem Overlooks.onSession (h : Overlooks view) (act : EStateM Fault (Session τ) α) :
    Keeps view (onSession act) := by
  intro w
  rw [Window.onSession]
  cases act w.session <;> exact h w _

theorem Overlooks.attempt (h : Overlooks view) (act : EStateM Fault (Session τ) α) :
    Keeps view (attempt act) := by
  intro w
  rw [Window.attempt]
  cases act w.session <;> exact h w _

end Keeps

/-- What the switches have to go with: the program, whether the timer is active, and they
themselves. -/
def controls (w : Window τ) : Option Program × Bool × Switches :=
  (w.program, w.timer.active, w.switches)

theorem overlooks_controls : Overlooks (controls (τ := τ)) := fun _ _ => rfl

theorem keeps_onMachine (act : Action τ α) : Keeps controls (onMachine act) :=
  overlooks_controls.onSession _

theorem keeps_notes (events : List Event) : Keeps (controls (τ := τ)) (events.forM note) := by
  induction events with
  | nil => exact .pure _
  | cons e events ih => exact (keeps_onMachine _).bind fun _ => ih

/-- Whatever is refreshed, and whether that succeeds, it is not the controls. -/
theorem keeps_refreshViews (full : Bool) : Keeps (controls (τ := τ)) (refreshViews full) := by
  have hscreen : Keeps (controls (τ := τ)) refreshScreen :=
    .look fun _ => (Keeps.check _).bind fun _ _ => rfl
  have hlisting : Keeps (controls (τ := τ)) refreshListing :=
    .look fun _ => (Keeps.check _).bind fun _ _ => rfl
  have hnext : Keeps (controls (τ := τ)) highlightNext :=
    .look fun _ => (Keeps.check _).bind fun _ _ => rfl
  refine hscreen.bind fun _ => .change (fun _ => rfl) ?_
  cases full with
  | true => exact hlisting.bind fun _ => .change (fun _ => rfl) hnext
  | false => exact hnext

/-- A configuration sets the interval of the timer only, and may be refused after that. -/
theorem keeps_applyConfig (config : Config) : Keeps (controls (τ := τ)) (applyConfig config) := by
  refine .change (fun _ => rfl) ((keeps_onMachine _).bind fun _ => ?_)
  exact .change (fun _ => rfl) (keeps_refreshViews false)

theorem keeps_reset : Keeps (controls (τ := τ)) reset := by
  refine .look fun w => ?_
  cases w.program with
  | none => exact .pure _
  | some program =>
    refine (keeps_onMachine _).bind fun _ => .change (fun _ => rfl) (.change (fun _ => rfl) ?_)
    exact keeps_refreshViews true

theorem keeps_key (name : String) (pressed repeated : Bool) :
    Keeps (controls (τ := τ)) (key name pressed repeated) := by
  refine .look fun w => ?_
  cases w.config.keymap.lookup (Text.upper name) with
  | none => exact .pure _
  | some code =>
    cases repeated with
    | true => exact .pure _
    | false => exact (keeps_onMachine _).bind fun _ => .pure _

/-! ## Switches that go with the run state -/

/-- The switches go with the program and the timer. -/
def Switched (w : Window τ) : Prop := w.switches = .ofState w.program.isSome w.timer.active

/-- An action keeps the program, and leaves switches that go with it and the timer if it finds such
ones. -/
def Settles (act : WindowAction τ α) : Prop :=
  ∀ w, w.Switched → (stateOf (act w)).Switched ∧ (stateOf (act w)).program = w.program

theorem Switched.of_controls {w t : Window τ} (hw : w.Switched) (h : t.controls = w.controls) :
    t.Switched ∧ t.program = w.program := by
  simp only [controls, Prod.mk.injEq] at h
  obtain ⟨hprogram, htimer, hswitches⟩ := h
  refine ⟨?_, hprogram⟩
  rw [Switched, hprogram, htimer, hswitches]
  exact hw

theorem Keeps.settles {act : WindowAction τ α} (h : Keeps controls act) : Settles act :=
  fun w hw => hw.of_controls (h w)

theorem Settles.bind {act : WindowAction τ α} {f : α → WindowAction τ β} (hact : Settles act)
    (hf : ∀ a, Settles (f a)) : Settles (act >>= f) := by
  intro w hw
  obtain ⟨hswitched, hprogram⟩ := hact w hw
  cases hrun : act w with
  | ok a t =>
    rw [hrun] at hswitched hprogram
    rw [bind_of_ok hrun]
    obtain ⟨hlast, hsame⟩ := hf a t hswitched
    exact ⟨hlast, hsame.trans hprogram⟩
  | error f t =>
    rw [hrun] at hswitched hprogram
    rw [bind_of_error hrun]
    exact ⟨hswitched, hprogram⟩

/-- The window with its timer stopped, and with the switches that go with this. -/
def halted (w : Window τ) (status : String) : Window τ :=
  { w with
    timer := { w.timer with active := false }
    switches := .ofState w.program.isSome false
    status := status }

theorem switched_halted (w : Window τ) (status : String) : (w.halted status).Switched := rfl

theorem settles_run : Settles (run (τ := τ)) := fun _ _ => ⟨rfl, rfl⟩

theorem settles_stop : Settles (stop (τ := τ)) := by
  intro w _
  exact (w.switched_halted "Stopped").of_controls (keeps_refreshViews false
    { w.halted "Stopped" with session.debugger := w.session.debugger.stop })

theorem settles_rest : Settles (rest (τ := τ)) := by
  intro w _
  exact (w.switched_halted _).of_controls (keeps_refreshViews false (w.halted _))

/-- A fault is told when the timer is stopped already. -/
theorem settles_reportFault (f : Fault) : Settles (reportFault f (τ := τ)) := by
  intro w _
  have htell : Keeps controls (get >>= fun w : Window τ =>
      note (.executionStopped w.machine.registers.pc) >>= fun _ => setStatus "Error" >>= fun _ =>
        tell "Execution Error" (f.name ++ ": " ++ f.message)) :=
    .look fun _ => (keeps_onMachine _).bind fun _ => .change (fun _ => rfl) fun _ => rfl
  exact (w.switched_halted w.status).of_controls (htell (w.halted w.status))

section Called

variable [TimeScale τ]

theorem settles_step : Settles (step (τ := τ)) := by
  refine (overlooks_controls.attempt _).settles.bind fun r => ?_
  cases r with
  | ok a => exact (keeps_refreshViews false).settles
  | error f => exact (settles_reportFault f).bind fun _ => (keeps_refreshViews false).settles

/-- A frame ends normally, at a breakpoint or with a fault. -/
theorem settles_frame : Settles (frame (τ := τ)) := by
  intro w
  refine (overlooks_controls.attempt _).settles.bind (fun r => ?_) w
  rcases r with f | hit
  · exact settles_reportFault f
  · cases hit with
    | true => exact settles_rest
    | false => exact Keeps.settles (.look fun _ => (Keeps.check _).bind fun _ _ => rfl)

/-! ## Calls -/

/-- What is done with a window: a deed, or a frame that nothing called for, which is made whether
or not the timer is active.  Closing is not among them, which stops the timer and leaves the
switches. -/
inductive Call where
  | deed (d : Deed)
  | frame

/-- A call loads a program from a file. -/
def Call.Loads (c : Call) : Prop :=
  ∃ path contents data, c = .deed (.loadRom path contents) ∧ RomFile.read path contents = .ok data

/-- The window after a call, whether it succeeded or failed. -/
def called (w : Window τ) : Call → Window τ
  | .deed d => w.after d
  | .frame => stateOf (frame w)

/-- The window after calls, one after the other. -/
def calledAll (w : Window τ) (calls : List Call) : Window τ := calls.foldl called w

variable {w : Window τ}

omit [TimeScale τ] in
/-- When a program was put to use, it is remembered, and the switches were set last of all. -/
theorem useProgram_switched {program : Program} {t : Window τ}
    (h : useProgram program w = .ok () t) : t.Switched ∧ t.program = some program := by
  obtain ⟨-, u, hu, h⟩ := (keeps_onMachine _).of_bind_ok (w := { w with program := some program }) h
  obtain ⟨-, v, hv, h⟩ := (keeps_refreshViews true).of_bind_ok
    (w := { u with
      session.debugger := u.session.debugger.clearHistory
      status := "Loaded " ++ program.name }) h
  cases h
  exact ⟨rfl, (congrArg Prod.fst hv).trans (congrArg Prod.fst hu)⟩

/-- **Loading a program** does not fail before the switches are set. -/
theorem Sound.loadRom_switched (hw : w.Sound) {path : String} {contents : Option Bytes}
    {data : Bytes} (hfile : RomFile.read path contents = .ok data) :
    (w.after (.loadRom path contents)).Switched ∧
      (w.after (.loadRom path contents)).program = some ⟨Path.baseName path, data⟩ := by
  obtain ⟨⟨⟩, t, hload, -⟩ := hw.loadRom_ends hfile
  rw [Window.after, hload]
  rw [loadRom, hfile] at hload
  obtain ⟨-, u, -, huse⟩ := (keeps_notes _).of_bind_ok hload
  exact useProgram_switched huse

/-- Every other deed settles a window, and keeps the program. -/
theorem Switched.after (h : w.Switched) {d : Deed}
    (hd : ∀ path contents, d ≠ .loadRom path contents) :
    (w.after d).Switched ∧ (w.after d).program = w.program := by
  cases d with
  | loadRom path contents => exact absurd rfl (hd path contents)
  | applyConfig config => exact (keeps_applyConfig config).settles w h
  | run => exact settles_run w h
  | stop => exact settles_stop w h
  | step => exact settles_step w h
  | reset => exact keeps_reset.settles w h
  | frame =>
    cases hactive : w.timer.active with
    | false =>
      rw [after_frame_idle hactive]
      exact ⟨h, rfl⟩
    | true =>
      rw [after_frame_due hactive]
      exact settles_frame w h
  | key name pressed repeated => exact (keeps_key name pressed repeated).settles w h
  | toggleBreakpoint address => exact ⟨h, rfl⟩
  | addBreakpoint b => exact ⟨h, rfl⟩

/-- A call that is not for loading a program settles a window. -/
theorem Switched.called_of_not_loads (h : w.Switched) {c : Call} (hc : ¬ c.Loads) :
    (w.called c).Switched ∧ (w.called c).program = w.program := by
  cases c with
  | frame => exact settles_frame w h
  | deed d =>
    by_cases hd : ∃ path contents, d = .loadRom path contents
    · obtain ⟨path, contents, rfl⟩ := hd
      cases hfile : RomFile.read path contents with
      | error f =>
        rw [called, after_loadRom_refused hfile]
        exact ⟨h, rfl⟩
      | ok data => exact absurd ⟨path, contents, data, rfl, hfile⟩ hc
    · exact h.after fun path contents hsame => hd ⟨path, contents, hsame⟩

theorem Sound.called (hw : w.Sound) (c : Call) : (w.called c).Sound := by
  cases c with
  | frame => exact hw.frame_ends.stateOf.1
  | deed d => exact hw.after d

/-- **One call** leaves the switches going with the program and the timer, and there is a program
then if there was one before or one was loaded. -/
theorem Switched.called (h : w.Switched) (hw : w.Sound) (c : Call) :
    (w.called c).Switched ∧
      ((w.called c).program.isSome = true ↔ w.program.isSome = true ∨ c.Loads) := by
  by_cases hc : c.Loads
  · obtain ⟨path, contents, data, rfl, hfile⟩ := hc
    obtain ⟨hswitched, hprogram⟩ := hw.loadRom_switched hfile
    refine ⟨hswitched, ?_⟩
    rw [Window.called, hprogram]
    exact ⟨fun _ => .inr ⟨path, contents, data, rfl, hfile⟩, fun _ => rfl⟩
  · obtain ⟨hswitched, hprogram⟩ := h.called_of_not_loads hc
    refine ⟨hswitched, ?_⟩
    rw [hprogram]
    exact (or_iff_left hc).symm

/-- **A run of calls** leaves a window sound and switched, and there is a program then if there was
one before or one was loaded. -/
theorem Switched.calledAll (calls : List Call) : ∀ {w : Window τ}, w.Switched → w.Sound →
    (w.calledAll calls).Switched ∧
      ((w.calledAll calls).program.isSome = true ↔
        w.program.isSome = true ∨ ∃ c ∈ calls, c.Loads) := by
  induction calls with
  | nil =>
    intro w h _
    refine ⟨h, ?_⟩
    simp only [List.not_mem_nil, false_and, exists_false, or_false]
    rfl
  | cons c calls ih =>
    intro w h hw
    obtain ⟨hswitched, hprogram⟩ := h.called hw c
    obtain ⟨hlast, hthen⟩ := ih hswitched (hw.called c)
    refine ⟨hlast, ?_⟩
    rw [List.exists_mem_cons_iff, ← or_assoc, ← hprogram]
    exact hthen

omit [TimeScale τ] in
/-- A new window has no program, and its switches go with this. -/
theorem create_switched {config : Config} {fonts : FontSet} {host : Host τ}
    (h : create config fonts host = .ok w) : w.Switched ∧ w.program = none := by
  obtain ⟨start, hbuilt, -, -, htimer, hprogram, hswitches, -⟩ := create_built h
  have hstart : start.Switched := by
    rw [Switched, hswitches, htimer, hprogram]
    rfl
  have hkeeps : Keeps (controls (τ := τ)) (onMachine config.apply >>= fun _ => refreshViews true) :=
    (keeps_onMachine _).bind fun _ => keeps_refreshViews true
  obtain ⟨hswitched, hsame⟩ := hkeeps.settles start hstart
  rw [hbuilt] at hswitched hsame
  exact ⟨hswitched, hsame.trans hprogram⟩

end Called

/-! ## Files that cannot be loaded -/

/-- Choosing a file that cannot be loaded is reported and told, if a file could be chosen, and
changes nothing else. -/
theorem stateOf_openRom {path : String} {contents : Option Bytes} {f : RomFault}
    (hfile : RomFile.read path contents = .error f) (w : Window τ) :
    ∃ journal messages, stateOf (openRom path contents w) =
      { w.withSystem { w.session.system with host.journal := journal } with
        messages := messages } := by
  have hrun : openRom path contents w =
      (if (!w.switches.loadRom) = true then pure none
      else if (path != "") = true then refuseRom path f.message >>= fun _ => pure (some romDialog)
      else pure (some romDialog) : WindowAction τ (Option FileDialog)) w := by
    rw [openRom]
    simp only [hfile]
    rfl
  rw [hrun]
  cases w.switches.loadRom with
  | false => exact ⟨_, _, rfl⟩
  | true =>
    cases path != "" with
    | false => exact ⟨_, _, rfl⟩
    | true => exact ⟨_, _, rfl⟩

/-! ## The run state -/

section Following

variable [TimeScale τ] {w : Window τ}

/-- **Which commands can be given goes with the run state**, whatever was done with a window and
whether or not it succeeded.  A program can be stopped while the timer is active, and files can be
loaded while it is not; a program that was loaded can be started over, and while the timer is not
active it can be run and stepped.  And a file that is missing or empty changes nothing of all this,
nor of anything that is seen, when it is loaded or chosen. -/
theorem switches_follow {config : Config} {fonts : FontSet} {host : Host τ}
    (hw : create config fonts host = .ok w) (calls : List Call) :
    let t := w.calledAll calls
    (t.switches.stop = true ↔ t.timer.active = true) ∧
      (t.switches.loadRom = true ↔ ¬ t.timer.active = true) ∧
      (t.switches.loadConfig = true ↔ ¬ t.timer.active = true) ∧
      (t.switches.run = true ↔ (∃ c ∈ calls, c.Loads) ∧ ¬ t.timer.active = true) ∧
      (t.switches.step = true ↔ (∃ c ∈ calls, c.Loads) ∧ ¬ t.timer.active = true) ∧
      (t.switches.reset = true ↔ ∃ c ∈ calls, c.Loads) ∧
      ∀ path contents, contents = none ∨ contents = some #[] →
        ∃ f, RomFile.read path contents = .error f ∧
          loadRom path contents t = .error (.rom f) t ∧
          ∃ journal messages, stateOf (openRom path contents t) =
            { t.withSystem { t.session.system with host.journal := journal } with
              messages := messages } := by
  obtain ⟨hstart, hnone⟩ := create_switched hw
  obtain ⟨hswitched, hprogram⟩ := hstart.calledAll calls (create_shows hw).1
  simp only [hnone, Option.isSome_none, Bool.false_eq_true, false_or] at hprogram
  intro t
  have hswitches : t.switches = .ofState t.program.isSome t.timer.active := hswitched
  have hloaded : t.program.isSome = true ↔ ∃ c ∈ calls, c.Loads := hprogram
  have hidle : (!t.timer.active) = true ↔ ¬ t.timer.active = true := by
    rw [Bool.not_eq_true', Bool.not_eq_true]
  have hready : (t.program.isSome && !t.timer.active) = true ↔
      (∃ c ∈ calls, c.Loads) ∧ ¬ t.timer.active = true := by
    rw [Bool.and_eq_true, hidle, hloaded]
  rw [hswitches]
  refine ⟨Iff.rfl, hidle, hidle, hready, hready, hloaded, fun path contents hcontents => ?_⟩
  obtain ⟨f, hfile⟩ := (RomFile.read_refused_iff path contents).2 hcontents
  refine ⟨f, hfile, ?_, stateOf_openRom hfile t⟩
  rw [loadRom, hfile]
  rfl

/-- Load a program, and run it. -/
def loadAndRun : List Call := [.deed (.loadRom "stray.ch8" (some #[0x00, 0xEE])), .deed .run]

/-- It can be stopped and started over then, but not run, and no file can be loaded. -/
theorem switches_follow_running :
    ∃ w : Window Rat, create .default ⟨[], "Monospace"⟩ (Host.still 0 fun _ => 0) = .ok w ∧
      (w.calledAll loadAndRun).switches.stop = true ∧
      (w.calledAll loadAndRun).switches.reset = true ∧
      (w.calledAll loadAndRun).switches.run = false ∧
      (w.calledAll loadAndRun).switches.loadRom = false ∧
      ∃ f, loadRom "none.ch8" none (w.calledAll loadAndRun) =
        .error (.rom f) (w.calledAll loadAndRun) := by
  obtain ⟨w, -, hw, -⟩ := create_default ⟨[], "Monospace"⟩ (Host.still (0 : Rat) fun _ => 0)
  obtain ⟨hstop, hloadRom, -, hrun, -, hreset, hfiles⟩ := switches_follow hw loadAndRun
  have hactive : (w.calledAll loadAndRun).timer.active = true := rfl
  have hloaded : ∃ c ∈ loadAndRun, c.Loads :=
    ⟨_, List.mem_cons_self, "stray.ch8", _, #[0x00, 0xEE], rfl, rfl⟩
  obtain ⟨f, -, hmissing, -⟩ := hfiles "none.ch8" none (.inl rfl)
  exact ⟨w, hw, hstop.2 hactive, hreset.2 hloaded,
    Bool.eq_false_iff.2 fun h => (hrun.1 h).2 hactive,
    Bool.eq_false_iff.2 fun h => hloadRom.1 h hactive, f, hmissing⟩

end Following

end Window

end Chip8
