import Chip8.Proofs.Config.Applying
import Chip8.Proofs.Debugger.Endings
import Chip8.Proofs.Debugger.Tracing
import Chip8.Proofs.Machine.Waiting
import Chip8.Proofs.Window.Views
import Chip8.Window.Control

/-!
# What is done with a window

A `Deed` is one thing that the user, the timer or a caller does with a window, and a history of a
window is a list of deeds.  A deed that fails leaves what it did until then, and the history goes on
from there.

There is one lemma for each deed.  It says of the window that is left whether it shows its machine,
and what became of the keys:

* `Sound.loadRom_ends`, `Sound.reset_ends` — starting over is shown, and puts all keys up;
* `Sound.applyConfig_cases` — a configuration is put into effect and shown, or is refused, and then
  nothing is shown;
* `Sound.stop_ends`, `Sound.step_ends` — stopping is shown, and so is a step, also if it fails;
* `Sound.frame_ends` — a frame comes to rest and is shown, goes on and shows no more than its
  picture, or fails and shows nothing;
* `Sound.key_ends`, `stateOf_key` — a key of the host moves the one key that it stands for, if any.

`create_cases` says the same of a new window.  Together they make `Sound.turn`: **a window stays
sound, whatever is done with it**, and a deed starts the machine over, moves one key or moves none.
-/

namespace Chip8

/-- What is done with a window. -/
inductive Deed where
  /-- Load the program in a file, given the contents of the file if it exists. -/
  | loadRom (path : String) (contents : Option Bytes)
  | applyConfig (config : Config)
  | run
  | stop
  | step
  | reset
  /-- The timer runs out. -/
  | frame
  /-- A key of the host goes down or up, or repeats itself. -/
  | key (name : String) (pressed repeated : Bool)
  /-- Set a breakpoint at an address, or take it away. -/
  | toggleBreakpoint (address : Int)
  /-- Set a breakpoint of any kind, past the window. -/
  | addBreakpoint (b : Breakpoint)

/-- The key of the keypad that a key of the host stands for, if it stands for one.  A code that the
keypad does not have stands for none. -/
def Window.keyFor {τ : Type} (w : Window τ) (name : String) : Option (Fin 16) :=
  (w.config.keymap.lookup (Text.upper name)).bind Digit.ofInt?

/-- Both colours of a configuration are such that the screen takes them. -/
def Config.Paints (c : Config) : Prop := c.foreground.IsBytes ∧ c.background.IsBytes

namespace Deed

variable {τ : Type}

/-- A deed starts the machine over, because there is a program to start over with. -/
def StartsOver (d : Deed) (w : Window τ) : Prop :=
  match d with
  | .loadRom path contents => ∃ data, RomFile.read path contents = .ok data
  | .reset => w.program ≠ none
  | _ => False

/-- A deed neither starts the machine over nor moves a key. -/
def LeavesKeys (d : Deed) (w : Window τ) : Prop :=
  ¬ d.StartsOver w ∧ match d with
    | .key name _ false => w.keyFor name = none
    | _ => True

/-- A deed goes wrong half-way: a frame that is due has a run that fails, or a configuration has a
colour that is refused. -/
def Stumbles [TimeScale τ] (d : Deed) (w : Window τ) : Prop :=
  match d with
  | .frame => w.timer.active = true ∧
      ∃ f s, Session.run w.config.instructionsPerFrame w.session = .error f s
  | .applyConfig config => ¬ config.Paints
  | _ => False

end Deed

/-! ## The machine of a debugger -/

namespace System

variable {τ : Type} [TimeScale τ]

/-- A later state after a number of steps, with whatever was reported. -/
def Advances (s t : System τ) : Prop :=
  ∃ k journal, t = { s.afterSteps k with host.journal := journal }

/-- Steps do not move keys. -/
theorem down_afterSteps (k : Nat) : ∀ {s : System τ}, s.machine.WellFormed →
    (s.afterSteps k).machine.keypad.down = s.machine.keypad.down := by
  induction k with
  | zero => exact fun _ => rfl
  | succ k ih =>
    intro s hs
    refine (ih (hs.after .step)).trans ?_
    show (Action.stateOf (Action.step s)).machine.keypad.down = _
    cases hw : s.machine.keypad.waiting with
    | true => rw [(Action.step_keypad_waiting hw).2]
    | false =>
      rw [Action.step_keypad_active hs hw]
      cases s.asks? <;> rfl

theorem Advances.wellFormed {s t : System τ} (h : s.Advances t) (hs : s.machine.WellFormed) :
    t.machine.WellFormed := by
  obtain ⟨k, journal, rfl⟩ := h
  exact hs.afterSteps k

theorem Advances.down {s t : System τ} (h : s.Advances t) (hs : s.machine.WellFormed) :
    t.machine.keypad.down = s.machine.keypad.down := by
  obtain ⟨k, journal, rfl⟩ := h
  exact down_afterSteps k hs

end System

namespace Session

variable {τ : Type} [TimeScale τ]

theorem advances_step (s : Session τ) :
    s.system.Advances (stateOf (Session.step s)).system := by
  refine ⟨1, (s.system.after .step).host.journal, ?_⟩
  cases hplain : Action.step s.system with
  | error f u =>
    rw [step_of_error hplain]
    exact (System.after_of_error hplain).symm
  | ok a u =>
    rw [step_of_ok hplain]
    exact (System.after_of_ok hplain).symm

/-- A run makes steps, and the last one of them may fail. -/
theorem advances_run (n : Int) (s : Session τ) :
    s.system.Advances (stateOf (Session.run n s)).system := by
  rw [run_eq]
  -- the step that fails counts as well, since it may have written a part of its cells
  obtain ⟨k, ⟨-, hit, t, hrun, ht⟩ | ⟨-, f, t, hrun, ht⟩⟩ := runSteps_ends n.toNat s.marked
  · rw [hrun]
    exact ⟨k, ht.system⟩
  · have hlast : s.system.afterSteps (k + 1) = t.system := by
      rw [System.afterSteps_succ]
      exact System.after_of_error ht.fault
    rw [hrun]
    exact ⟨k + 1, t.system.host.journal, by rw [hlast]; rfl⟩

end Session

/-! ## What changes the machine from outside -/

section Outside

variable {τ : Type} {s : System τ}

/-- Starting over with a program keeps the picture and the two options, and nothing else. -/
theorem Action.resetAndLoad_apply (data : Bytes) (s : System τ) : ∃ now host,
    Action.resetAndLoad data s =
      .ok () { machine := { Machine.powerOn now with
                            screen := s.machine.screen
                            registers := s.machine.registers.reset
                            memory := Memory.blank.loadRom data }
               host := host } ∧ host.stops = s.host.stops := by
  have hreset : Action.reset s = .ok () {
      machine := { Machine.powerOn s.host.readTime.1 with
        screen := s.machine.screen
        registers := s.machine.registers.reset }
      host := s.host.readTime.2.note .machineReset } := rfl
  rw [Action.resetAndLoad, bind_of_ok hreset]
  obtain ⟨journal, hload⟩ := Action.loadRom_apply data
    { machine := { Machine.powerOn s.host.readTime.1 with
        screen := s.machine.screen
        registers := s.machine.registers.reset }
      host := s.host.readTime.2.note .machineReset }
  exact ⟨_, _, hload, rfl⟩

/-- A configuration leaves the keys alone, and it is refused only for its colours. -/
theorem Config.apply_cases (c : Config) (hs : s.machine.WellFormed) :
    ∃ t : System τ, t.machine.WellFormed ∧ t.machine.keypad = s.machine.keypad ∧
      (c.apply s = .ok () t ∨ (¬ c.Paints ∧ ∃ f, c.apply s = .error f t)) := by
  have hoptions : (s.withOptions c).machine.WellFormed :=
    { hs with registers := (hs.registers.setShiftSecond _).setDrawOnBlank _ }
  have hpainted : ∀ screen : Screen, screen.TwoColored →
      ((s.withOptions c).withScreen screen).machine.WellFormed :=
    fun screen hscreen => { hoptions with screen := hscreen }
  -- the foreground is set first, so it is there when the background is refused
  by_cases hforeground : c.foreground.IsBytes
  · by_cases hbackground : c.background.IsBytes
    · exact ⟨_, hpainted _ (hs.screen.recolored _ _), rfl,
        .inl (apply_of_isBytes hforeground hbackground s)⟩
    · obtain ⟨n, -, -, hrun⟩ := apply_background_refused hforeground hbackground s
      exact ⟨_, hpainted _ (hs.screen.withForeground _), rfl,
        .inr ⟨fun h => hbackground h.2, _, hrun⟩⟩
  · obtain ⟨n, -, -, hrun⟩ := apply_foreground_refused hforeground s
    exact ⟨_, hoptions, rfl, .inr ⟨fun h => hforeground h.1, _, hrun⟩⟩

end Outside

namespace Window

variable {τ α : Type}

/-! ## Histories of a window -/

/-- The window which a result comes with. -/
def stateOf : EStateM.Result WindowFault (Window τ) α → Window τ
  | .ok _ w => w
  | .error _ w => w

section After

variable [TimeScale τ]

/-- The window after a deed, whether it succeeded or failed. -/
def after (w : Window τ) : Deed → Window τ
  | .loadRom path contents => stateOf (loadRom path contents w)
  | .applyConfig config => stateOf (applyConfig config w)
  | .run => stateOf (run w)
  | .stop => stateOf (stop w)
  | .step => stateOf (step w)
  | .reset => stateOf (reset w)
  | .frame => stateOf (timeout w)
  | .key name pressed repeated => stateOf (key name pressed repeated w)
  | .toggleBreakpoint address => stateOf (toggleBreakpoint address w)
  | .addBreakpoint b => stateOf (updateDebugger (fun d => d.add b) w)

/-- The window after deeds, one after the other. -/
def afterAll (w : Window τ) (deeds : List Deed) : Window τ := deeds.foldl after w

end After

/-! ## Relations between an earlier and a later window -/

/-- What is shown of the machine is the same. -/
structure SameViews (w t : Window τ) : Prop where
  registers : t.registers = w.registers
  trace : t.trace = w.trace
  picture : t.display.picture = w.display.picture

/-- Neither what is shown nor what could be shown has moved, and the timer is as it was. -/
structure Unmoved (w t : Window τ) : Prop extends SameViews w t where
  machineRegisters : t.machine.registers = w.machine.registers
  clock : t.machine.clock = w.machine.clock
  machineTrace : t.machine.trace = w.machine.trace
  screen : t.machine.screen = w.machine.screen
  timer : t.timer.active = w.timer.active

theorem Unmoved.refl (w : Window τ) : w.Unmoved w := ⟨⟨rfl, rfl, rfl⟩, rfl, rfl, rfl, rfl, rfl⟩

theorem SameViews.trans {w t u : Window τ} (hwt : w.SameViews t) (htu : t.SameViews u) :
    w.SameViews u :=
  ⟨htu.registers.trans hwt.registers, htu.trace.trans hwt.trace, htu.picture.trans hwt.picture⟩

theorem Unmoved.trans {w t u : Window τ} (hwt : w.Unmoved t) (htu : t.Unmoved u) : w.Unmoved u where
  toSameViews := hwt.toSameViews.trans htu.toSameViews
  machineRegisters := htu.machineRegisters.trans hwt.machineRegisters
  clock := htu.clock.trans hwt.clock
  machineTrace := htu.machineTrace.trans hwt.machineTrace
  screen := htu.screen.trans hwt.screen
  timer := htu.timer.trans hwt.timer

/-- What was shown rightly is shown rightly still. -/
theorem Unmoved.shows {w t : Window τ} (h : w.Unmoved t) (hw : w.Shows) : t.Shows where
  registers := by
    rw [h.registers, h.machineRegisters, h.clock]
    exact hw.registers
  trace := by
    rw [h.trace, h.machineTrace]
    exact hw.trace
  picture := by
    rw [h.picture, h.screen]
    exact hw.picture

/-- A later window whose machine was started over with a program; only the journal may have grown
before. -/
structure Restarted (w t : Window τ) (data : Bytes) : Prop where
  debugger : t.session.debugger = w.session.debugger.clearHistory
  system : ∃ journal, Action.resetAndLoad data { w.session.system with host.journal := journal } =
    .ok () t.session.system

/-- Starting over puts all keys up. -/
theorem Restarted.keypad {w t : Window τ} {data : Bytes} (h : w.Restarted t data) :
    t.machine.keypad = .initial := by
  obtain ⟨journal, hsystem⟩ := h.system
  obtain ⟨now, host, hrun, -⟩ :=
    Action.resetAndLoad_apply data { w.session.system with host.journal := journal }
  rw [hrun] at hsystem
  exact congrArg (fun s => s.machine.keypad) (EStateM.Result.ok.inj hsystem).2.symm

/-! ## Parts of deeds -/

/-- The window with another machine and host. -/
def withSystem (w : Window τ) (s : System τ) : Window τ :=
  { w with session := { w.session with system := s } }

theorem onMachine_of_ok {act : Action τ α} {w : Window τ} {a : α} {s : System τ}
    (h : act w.session.system = .ok a s) : onMachine act w = .ok a (w.withSystem s) := by
  rw [onMachine, onSession, Session.onSystem, h]
  rfl

theorem onMachine_of_error {act : Action τ α} {w : Window τ} {f : Fault} {s : System τ}
    (h : act w.session.system = .error f s) :
    onMachine act w = .error (.machine f) (w.withSystem s) := by
  rw [onMachine, onSession, Session.onSystem, h]
  rfl

theorem Sound.withSystem {w : Window τ} (hw : w.Sound) {s : System τ} (hs : s.machine.WellFormed) :
    (w.withSystem s).Sound := ⟨hs, hw.registers⟩

/-- Reports leave a window sound. -/
theorem Sound.notes_ends (events : List Event) : ∀ {w : Window τ}, w.Sound →
    Ends (events.forM note) w fun _ t =>
      t.Sound ∧ ∃ journal, t = w.withSystem { w.session.system with host.journal := journal } := by
  induction events with
  | nil => exact fun hw => .pure ⟨hw, _, rfl⟩
  | cons e events ih =>
    intro w hw
    have hnote : note e w = .ok () (w.withSystem
        { w.session.system with host := w.session.system.host.note e }) := rfl
    exact .next hnote (ih (hw.withSystem hw.machine))

/-- A window whose machine has made steps, while nothing was shown. -/
structure Worked (w t : Window τ) : Prop extends SameViews w t where
  sound : t.Sound
  down : t.machine.keypad.down = w.machine.keypad.down
  config : t.config = w.config

/-- Telling a fault changes nothing of it. -/
theorem Worked.reported {w t : Window τ} (h : w.Worked t) (f : Fault) :
    Ends (reportFault f) t fun _ u => w.Worked u :=
  ⟨(), _, rfl, ⟨h.registers, h.trace, h.picture⟩, ⟨h.sound.machine, h.sound.registers⟩, h.down,
    h.config⟩

/-! ## Deeds -/

namespace Sound

variable {w : Window τ} (hw : w.Sound)

include hw

theorem startOver_ends (data : Bytes) :
    Ends (onMachine (Action.resetAndLoad data)) w fun _ t => t.Sound ∧ ∃ s,
      Action.resetAndLoad data w.session.system = .ok () s ∧ t = w.withSystem s := by
  have hwell := hw.machine.resetAndLoad data
  obtain ⟨now, host, hrun, -⟩ := Action.resetAndLoad_apply data w.session.system
  rw [hrun] at hwell
  exact ⟨(), _, onMachine_of_ok hrun, hw.withSystem hwell, _, hrun, rfl⟩

omit hw in
/-- What was started over is shown. -/
theorem startedOver_ends {t : Window τ} {s : System τ} {data : Bytes} (ht : t.Sound)
    (hrun : Action.resetAndLoad data w.session.system = .ok () s) (hsame : t = w.withSystem s)
    (text : String) :
    Ends (refreshViews true)
      { t with session.debugger := t.session.debugger.clearHistory, status := text } fun _ u =>
        w.Shown u ∧ w.Restarted u data := by
  subst hsame
  have hready : Sound { w.withSystem s with
      session.debugger := w.session.debugger.clearHistory
      status := text } := ⟨ht.machine, ht.registers⟩
  refine (hready.refreshViews_ends true).mono fun _ u hu => ⟨?_, ?_, ?_⟩
  · exact { hu.toShown with config := hu.config }
  · rw [hu.session]
  · rw [hu.session]
    exact ⟨_, hrun⟩

/-- A program is loaded and shown. -/
theorem useProgram_ends (program : Program) :
    Ends (useProgram program) w fun _ t => w.Shown t ∧ w.Restarted t program.data := by
  have hchosen : Sound { w with program := some program } := ⟨hw.machine, hw.registers⟩
  refine .change ((hchosen.startOver_ends program.data).bind fun _ t ht => .change (.change ?_))
  obtain ⟨hsound, s, hrun, hsame⟩ := ht
  refine (startedOver_ends hsound hrun hsame _).bind fun _ u hu => ?_
  obtain ⟨hshown, hover⟩ := hu
  exact ⟨(), _, rfl, ⟨⟨hshown.sound.machine, hshown.sound.registers⟩,
    ⟨hshown.shows.registers, hshown.shows.trace, hshown.shows.picture⟩, hshown.config⟩,
    hover.debugger, hover.system⟩

/-- A file that can be used is used. -/
theorem loadRom_ends {path : String} {contents : Option Bytes} {data : Bytes}
    (hfile : RomFile.read path contents = .ok data) :
    Ends (loadRom path contents) w fun _ t => w.Shown t ∧ w.Restarted t data := by
  rw [loadRom, hfile]
  refine (hw.notes_ends _).bind fun _ t ht => ?_
  obtain ⟨hsound, journal, rfl⟩ := ht
  refine (hsound.useProgram_ends ⟨Path.baseName path, data⟩).mono fun _ u hu => ⟨?_, ?_, ?_⟩
  · exact { hu.1 with config := hu.1.config }
  · exact hu.2.debugger
  · exact hu.2.system

/-- The program is started over and shown, if there is one. -/
theorem reset_ends {program : Program} (hprogram : w.program = some program) :
    Ends Window.reset w fun _ t => w.Shown t ∧ w.Restarted t program.data := by
  refine .look ?_
  simp only [hprogram]
  refine (hw.startOver_ends program.data).bind fun _ t ht => .change (.change ?_)
  obtain ⟨hsound, s, hrun, hsame⟩ := ht
  exact startedOver_ends hsound hrun hsame _

/-- **A configuration is put into effect and shown, or is refused half-way**, and then nothing is
shown.  The keys stay. -/
theorem applyConfig_cases (config : Config) :
    (∃ s, config.apply w.session.system = .ok () s ∧
      Ends (applyConfig config) w fun _ t =>
        t.Sound ∧ t.Shows ∧ t.config = config ∧ t.machine.keypad = w.machine.keypad) ∨
    ∃ f t, applyConfig config w = .error f t ∧ ¬ config.Paints ∧ t.Sound ∧ w.SameViews t ∧
      t.machine.keypad = w.machine.keypad := by
  obtain ⟨s, hs, hkeys, happly | ⟨hpaints, f, happly⟩⟩ := config.apply_cases hw.machine
  · left
    have hmachine : onMachine config.apply { w with config := config } =
        .ok () (Window.withSystem { w with config := config } s) := onMachine_of_ok happly
    have hready : Sound { Window.withSystem { w with config := config } s with
        timer := { w.timer with interval := config.frameInterval }
        display := w.display.setScale config.scale } := ⟨hs, hw.registers⟩
    refine ⟨s, happly, .change (.next hmachine (.change ?_))⟩
    exact (hready.refreshViews_ends false).mono fun _ u hu =>
      ⟨hu.sound, hu.shows, hu.config, (congrArg Machine.keypad hu.machine).trans hkeys⟩
  · right
    refine ⟨.machine f, Window.withSystem { w with config := config } s, ?_, hpaints,
      ⟨hs, hw.registers⟩, ⟨rfl, rfl, rfl⟩, hkeys⟩
    exact bind_of_error (s := { w with config := config }) (onMachine_of_error happly)

/-- Stopping shows the machine as it is. -/
theorem stop_ends :
    Ends Window.stop w fun _ t => w.Shown t ∧ t.machine.keypad = w.machine.keypad := by
  refine .change (.change (.change (.change ?_)))
  have hready : Sound { w with
      timer := { w.timer with active := false }
      session.debugger := w.session.debugger.stop
      status := "Stopped"
      switches := .ofState w.program.isSome false } := ⟨hw.machine, hw.registers⟩
  exact (hready.refreshViews_ends false).mono fun _ t ht =>
    ⟨{ ht.toShown with config := ht.config }, congrArg Machine.keypad ht.machine⟩

variable [TimeScale τ]

/-- Whatever the debugger does by making steps, it moves no keys, and nothing is shown of it yet. -/
theorem attempt_ends {α : Type} {act : EStateM Fault (Session τ) α}
    (h : w.session.system.Advances (Session.stateOf (act w.session)).system) :
    Ends (attempt act) w fun r t =>
      (w.Worked t ∧ t.timer = w.timer) ∧
        ∀ f, r = .error f → ∃ s, act w.session = .error f s := by
  have hworked : w.Worked { w with session := Session.stateOf (act w.session) } :=
    ⟨⟨rfl, rfl, rfl⟩, ⟨h.wellFormed hw.machine, hw.registers⟩, h.down hw.machine, rfl⟩
  rw [Ends, attempt]
  cases hrun : act w.session with
  | ok a s =>
    rw [hrun] at hworked
    refine ⟨.ok a, _, rfl, ⟨hworked, rfl⟩, ?_⟩
    intro f hf
    cases hf
  | error f s =>
    rw [hrun] at hworked
    refine ⟨.error f, _, rfl, ⟨hworked, rfl⟩, ?_⟩
    rintro g ⟨⟩
    exact ⟨s, rfl⟩

/-- **A step is shown, also if it fails.** -/
theorem step_ends :
    Ends Window.step w fun _ t =>
      w.Shown t ∧ t.machine.keypad.down = w.machine.keypad.down := by
  have hshown : ∀ t : Window τ, w.Worked t → Ends (refreshViews false) t fun _ u =>
      w.Shown u ∧ u.machine.keypad.down = w.machine.keypad.down :=
    fun t ht => (ht.sound.refreshViews_ends false).mono fun _ u hu =>
      ⟨{ hu.toShown with config := hu.config.trans ht.config },
        (congrArg (fun m => m.keypad.down) hu.machine).trans ht.down⟩
  refine (hw.attempt_ends (Session.advances_step w.session)).bind fun r t ht => ?_
  cases r with
  | ok a => exact hshown t ht.1.1
  | error f => exact (ht.1.1.reported f).bind fun _ u hu => hshown u hu

/-- **How a frame ends**: it comes to rest and is shown, or it goes on, or its run fails, and then
nothing is shown of what it did. -/
theorem frame_ends :
    Ends Window.frame w fun _ t =>
      t.Sound ∧ t.config = w.config ∧ t.machine.keypad.down = w.machine.keypad.down ∧
        (t.Shows ∨ t.timer = w.timer ∨
          w.SameViews t ∧ ∃ f s,
            Session.run w.config.instructionsPerFrame w.session = .error f s) := by
  refine (hw.attempt_ends (Session.advances_run w.config.instructionsPerFrame w.session)).bind
    fun r t ht => ?_
  obtain ⟨⟨hworked, htimer⟩, hfault⟩ := ht
  cases r with
  | error f =>
    refine (hworked.reported f).mono fun _ u hu => ⟨hu.sound, hu.config, hu.down, ?_⟩
    exact .inr (.inr ⟨hu.toSameViews, f, hfault f rfl⟩)
  | ok hit =>
    cases hit with
    | true =>
      have hrest : Sound { t with
          timer := { t.timer with active := false }
          status := "Breakpoint at " ++ Text.HexForm.word.write t.machine.registers.pc
          switches := .ofState t.program.isSome false } :=
        ⟨hworked.sound.machine, hworked.sound.registers⟩
      refine .change ?_
      show Ends (setStatus _ >>= fun _ => setSwitches false >>= fun _ => refreshViews false) _ _
      refine .change (.change ?_)
      exact (hrest.refreshViews_ends false).mono fun _ u hu =>
        ⟨hu.sound, hu.config.trans hworked.config,
          (congrArg (fun m => m.keypad.down) hu.machine).trans hworked.down, .inl hu.shows⟩
    | false =>
      -- the picture alone is refreshed, and the timer goes on
      exact ⟨(), _, refreshScreen_apply t, ⟨hworked.sound.machine, hworked.sound.registers⟩,
        hworked.config, hworked.down, .inr (.inl htimer)⟩

end Sound

/-! ## Keys -/

/-- A key of the host that stands for a key moves that key and nothing else. -/
theorem Sound.key_ends {w : Window τ} (hw : w.Sound) {name : String} {k : Fin 16}
    (hk : w.keyFor name = some k) (pressed : Bool) :
    Ends (key name pressed false) w fun _ t =>
      t.Sound ∧ w.Unmoved t ∧ t.config = w.config ∧
        t.machine.keypad = w.machine.keypad.press k pressed := by
  obtain ⟨code, hcode, hdigit⟩ := Option.bind_eq_some_iff.1 hk
  have hval : code = (k.val : Int) := by
    rw [Digit.ofInt?] at hdigit
    split at hdigit
    · cases hdigit
      simp only
      omega
    · cases hdigit
  have hset : Ends (onMachine (Action.setKey code pressed)) w fun _ t =>
      t.Sound ∧ w.Unmoved t ∧ t.config = w.config ∧
        t.machine.keypad = w.machine.keypad.press k pressed := by
    have hwell := hw.machine.setKey k.val pressed
    obtain ⟨journal, hrun⟩ := Action.setKey_inside k pressed w.session.system
    rw [hrun] at hwell
    rw [hval]
    exact ⟨(), _, onMachine_of_ok hrun, hw.withSystem hwell,
      ⟨⟨rfl, rfl, rfl⟩, rfl, rfl, rfl, rfl, rfl⟩, rfl, rfl⟩
  refine .look ?_
  simp only [hcode]
  exact hset.bind fun _ t ht => .pure ht

/-- A key that stands for none, or that repeats itself, changes nothing. -/
theorem stateOf_key {w : Window τ} {name : String} {repeated : Bool}
    (h : repeated = true ∨ w.keyFor name = none) (pressed : Bool) :
    stateOf (key name pressed repeated w) = w := by
  rw [key, bind_of_ok (get_apply w)]
  cases hcode : w.config.keymap.lookup (Text.upper name) with
  | none => rfl
  | some code =>
    cases repeated with
    | true => rfl
    | false =>
      have hnone : w.keyFor name = none := h.resolve_left Bool.false_ne_true
      rw [keyFor, hcode] at hnone
      have hrefused : Action.setKey code pressed w.session.system =
          .error (.keyOutOfRange code) w.session.system := by
        refine Action.setKey_outside (fun hin => ?_) pressed _
        have hsome : Digit.ofInt? code = some _ := dif_pos hin
        rw [Option.bind_some, hsome] at hnone
        cases hnone
      show stateOf ((onMachine (Action.setKey code pressed) >>= fun _ => pure false) w) = w
      rw [bind_of_error (onMachine_of_error hrefused)]
      rfl

/-! ## Windows along a history -/

/-- A window is built from a blank one. -/
theorem create_eq (config : Config) (fonts : FontSet) (host : Host τ) : ∃ start : Window τ,
    create config fonts host =
      (match (onMachine config.apply >>= fun _ => refreshViews true) start with
      | .ok _ w => .ok w
      | .error f _ => .error f) ∧
    start.session = .powerOn host ∧ start.registers = .blank ∧ start.config = config ∧
      start.timer.active = false ∧ start.program = none ∧ start.switches = .ofState false false ∧
      start.listing = .empty := ⟨_, rfl, rfl, rfl, rfl, rfl, rfl, rfl, rfl⟩

theorem create_built {config : Config} {fonts : FontSet} {host : Host τ} {w : Window τ}
    (h : create config fonts host = .ok w) : ∃ start : Window τ,
    (onMachine config.apply >>= fun _ => refreshViews true) start = .ok () w ∧
    start.session = .powerOn host ∧ start.registers = .blank ∧ start.timer.active = false ∧
      start.program = none ∧ start.switches = .ofState false false ∧ start.listing = .empty := by
  obtain ⟨start, hcreate, hsession, hpane, -, htimer, hprogram, hswitches, hlisting⟩ :=
    create_eq config fonts host
  refine ⟨start, ?_, hsession, hpane, htimer, hprogram, hswitches, hlisting⟩
  rw [hcreate] at h
  cases hrun : (onMachine config.apply >>= fun _ => refreshViews true) start with
  | ok a t =>
    rw [hrun] at h
    cases h
    rfl
  | error f t =>
    rw [hrun] at h
    cases h

/-- **A new window is sound and shows its machine**, one that was switched on and given the
configuration, and its timer is not active.  There is a new window unless a colour is refused. -/
theorem create_cases (config : Config) (fonts : FontSet) (host : Host τ) :
    (∃ w s, create config fonts host = .ok w ∧ w.Sound ∧ w.Shows ∧ w.config = config ∧
      w.timer.active = false ∧ w.session = ⟨{}, s⟩ ∧
      config.apply (System.powerOn host) = .ok () s ∧ s.machine.keypad = .initial) ∨
    ¬ config.Paints ∧ ∃ f, create config fonts host = .error f := by
  obtain ⟨start, hcreate, hsession, hpane, hconfig, htimer, -⟩ := create_eq config fonts host
  have hpower : (System.powerOn host).machine.WellFormed := .powerOn _
  have hsystem : start.session.system = System.powerOn host := by
    rw [hsession]
    rfl
  rw [hcreate]
  obtain ⟨s, hs, hkeys, happly | ⟨hpaints, f, happly⟩⟩ := config.apply_cases hpower
  · have hsound : (start.withSystem s).Sound := ⟨hs, by
      rw [RegisterPane.LaidOut, ← hpane]
      rfl⟩
    obtain ⟨⟨⟩, w, hviews, hw⟩ := hsound.refreshViews_ends true
    rw [← hsystem] at happly
    rw [bind_of_ok (onMachine_of_ok happly), hviews]
    rw [hsystem] at happly
    refine .inl ⟨w, s, rfl, hw.sound, hw.shows, hw.config.trans hconfig, ?_, ?_, happly, hkeys⟩
    · exact (congrArg Timer.active hw.timer).trans htimer
    · rw [hw.session, Window.withSystem, hsession]
      rfl
  · rw [← hsystem] at happly
    rw [bind_of_error (onMachine_of_error happly)]
    exact .inr ⟨hpaints, _, rfl⟩

/-- So there is a new window with the default configuration. -/
theorem create_default (fonts : FontSet) (host : Host τ) :
    ∃ w s, create .default fonts host = .ok w ∧ w.Sound ∧ w.Shows ∧ w.config = .default ∧
      w.timer.active = false ∧ w.session = ⟨{}, s⟩ ∧
      Config.default.apply (System.powerOn host) = .ok () s ∧ s.machine.keypad = .initial := by
  have hpaints : Config.default.Paints := ⟨by decide, by decide⟩
  exact (create_cases .default fonts host).resolve_right fun hrefused => hrefused.1 hpaints

theorem create_shows {config : Config} {fonts : FontSet} {host : Host τ} {w : Window τ}
    (h : create config fonts host = .ok w) :
    w.Sound ∧ w.Shows ∧ w.machine.keypad = .initial ∧ w.timer.active = false := by
  rcases create_cases config fonts host with
    ⟨t, s, ht, hsound, hshows, -, htimer, hsession, -, hkeys⟩ | ⟨-, f, hf⟩
  · rw [h] at ht
    cases ht
    refine ⟨hsound, hshows, ?_, htimer⟩
    rw [Window.machine, hsession]
    exact hkeys
  · rw [h] at hf
    cases hf

theorem Ends.stateOf {act : WindowAction τ α} {w : Window τ} {Q : Window τ → Prop}
    (h : Ends act w fun _ t => Q t) : Q (stateOf (act w)) := by
  obtain ⟨a, t, hrun, ht⟩ := h
  rw [hrun]
  exact ht

section After

variable [TimeScale τ] {w : Window τ}

/-- A file that cannot be used changes nothing. -/
theorem after_loadRom_refused {path : String} {contents : Option Bytes} {f : RomFault}
    (hfile : RomFile.read path contents = .error f) : w.after (.loadRom path contents) = w := by
  rw [after, loadRom, hfile]
  rfl

/-- Without a program there is nothing to start over. -/
theorem after_reset_none (h : w.program = none) : w.after .reset = w := by
  rw [after, reset, bind_of_ok (get_apply w)]
  simp only [h]
  rfl

/-- A timer that is not active makes no frame. -/
theorem after_frame_idle (h : w.timer.active = false) : w.after .frame = w := by
  show stateOf ((if !w.timer.active then pure false else _ : WindowAction τ Bool) w) = w
  rw [h]
  rfl

theorem after_frame_due (h : w.timer.active = true) : w.after .frame = stateOf (frame w) := by
  show stateOf ((if !w.timer.active then pure false else
    frame >>= fun _ => pure true : WindowAction τ Bool) w) = _
  rw [h]
  show stateOf ((frame >>= fun _ => pure true : WindowAction τ Bool) w) = _
  cases hrun : frame w with
  | ok a t =>
    rw [bind_of_ok hrun]
    rfl
  | error f t =>
    rw [bind_of_error hrun]
    rfl

/-- What becomes of a window by a deed: it is started over, or one key moves, or all keys stay. -/
inductive Turn (w : Window τ) (d : Deed) (t : Window τ) : Prop where
  | startedOver (hd : d.StartsOver w) (hshown : w.Shown t) (hkeys : t.machine.keypad = .initial)
  | keyed {name : String} {pressed : Bool} {k : Fin 16} (hd : d = .key name pressed false)
      (hkey : w.keyFor name = some k) (hconfig : t.config = w.config) (hunmoved : w.Unmoved t)
      (hkeys : t.machine.keypad = w.machine.keypad.press k pressed)
  | quiet (hd : d.LeavesKeys w) (hdown : t.machine.keypad.down = w.machine.keypad.down)
      (hconfig : (∃ config, d = .applyConfig config) ∨ t.config = w.config)
      (hseen : t.Shows ∨ t.timer.active = true ∨ w.Unmoved t ∨ d.Stumbles w ∧ w.SameViews t)

/-- What changes neither the machine nor what is shown of it. -/
theorem Turn.unmoved {d : Deed} {t : Window τ} (hd : d.LeavesKeys w)
    (hmachine : t.machine = w.machine) (hviews : w.SameViews t) (hconfig : t.config = w.config)
    (htimer : t.timer.active = w.timer.active) : w.Turn d t := by
  have hunmoved : w.Unmoved t := by
    refine ⟨hviews, ?_, ?_, ?_, ?_, htimer⟩ <;> rw [hmachine]
  exact .quiet hd (by rw [hmachine]) (.inr hconfig) (.inr (.inr (.inl hunmoved)))

/-- **What a deed can do**, and that it leaves a window sound. -/
theorem Sound.turn (hw : w.Sound) (d : Deed) : (w.after d).Sound ∧ w.Turn d (w.after d) := by
  have hnothing : d.LeavesKeys w → w.after d = w → (w.after d).Sound ∧ w.Turn d (w.after d) := by
    intro hd hsame
    rw [hsame]
    exact ⟨hw, .unmoved hd rfl ⟨rfl, rfl, rfl⟩ rfl rfl⟩
  cases d with
  | loadRom path contents =>
    cases hfile : RomFile.read path contents with
    | error f =>
      refine hnothing ⟨?_, trivial⟩ (after_loadRom_refused hfile)
      rintro ⟨data, hdata⟩
      rw [hfile] at hdata
      cases hdata
    | ok data =>
      obtain ⟨hshown, hover⟩ := (hw.loadRom_ends hfile).stateOf
      exact ⟨hshown.sound, .startedOver ⟨data, hfile⟩ hshown hover.keypad⟩
  | applyConfig config =>
    have hleaves : (Deed.applyConfig config).LeavesKeys w := ⟨id, trivial⟩
    rcases hw.applyConfig_cases config with ⟨s, -, hends⟩ | ⟨f, t, hrun, hpaints, ht, hviews, hkeys⟩
    · obtain ⟨hsound, hshows, -, hkeys⟩ := hends.stateOf
      exact ⟨hsound, .quiet hleaves (congrArg Keypad.down hkeys) (.inl ⟨config, rfl⟩) (.inl hshows)⟩
    · rw [Window.after, hrun]
      exact ⟨ht, .quiet hleaves (congrArg Keypad.down hkeys) (.inl ⟨config, rfl⟩)
        (.inr (.inr (.inr ⟨hpaints, hviews⟩)))⟩
  | run =>
    exact ⟨⟨hw.machine, hw.registers⟩,
      .quiet ⟨id, trivial⟩ rfl (.inr rfl) (.inr (.inl rfl))⟩
  | stop =>
    obtain ⟨hshown, hkeys⟩ := hw.stop_ends.stateOf
    exact ⟨hshown.sound, .quiet ⟨id, trivial⟩ (congrArg Keypad.down hkeys)
      (.inr hshown.config) (.inl hshown.shows)⟩
  | step =>
    obtain ⟨hshown, hdown⟩ := hw.step_ends.stateOf
    exact ⟨hshown.sound, .quiet ⟨id, trivial⟩ hdown (.inr hshown.config)
      (.inl hshown.shows)⟩
  | reset =>
    cases hprogram : w.program with
    | none =>
      exact hnothing ⟨fun h => h hprogram, trivial⟩ (after_reset_none hprogram)
    | some program =>
      obtain ⟨hshown, hover⟩ := (hw.reset_ends hprogram).stateOf
      refine ⟨hshown.sound, .startedOver (fun hnone => ?_) hshown hover.keypad⟩
      rw [hprogram] at hnone
      cases hnone
  | frame =>
    have hleaves : Deed.frame.LeavesKeys w := ⟨id, trivial⟩
    cases hactive : w.timer.active with
    | false => exact hnothing hleaves (after_frame_idle hactive)
    | true =>
      rw [after_frame_due hactive]
      obtain ⟨hsound, hconfig, hdown, hend⟩ := hw.frame_ends.stateOf
      refine ⟨hsound, .quiet hleaves hdown (.inr hconfig) ?_⟩
      rcases hend with hshows | htimer | ⟨hviews, hfault⟩
      · exact .inl hshows
      · exact .inr (.inl ((congrArg Timer.active htimer).trans hactive))
      · exact .inr (.inr (.inr ⟨⟨hactive, hfault⟩, hviews⟩))
  | key name pressed repeated =>
    cases repeated with
    | true =>
      exact hnothing ⟨id, trivial⟩ (stateOf_key (.inl rfl) pressed)
    | false =>
      cases hkey : w.keyFor name with
      | none =>
        exact hnothing ⟨id, hkey⟩ (stateOf_key (.inr hkey) pressed)
      | some k =>
        obtain ⟨hsound, hunmoved, hconfig, hkeys⟩ := (hw.key_ends hkey pressed).stateOf
        exact ⟨hsound, .keyed rfl hkey hconfig hunmoved hkeys⟩
  | toggleBreakpoint address =>
    exact ⟨⟨hw.machine, hw.registers⟩,
      .unmoved ⟨id, trivial⟩ rfl ⟨rfl, rfl, rfl⟩ rfl rfl⟩
  | addBreakpoint b =>
    exact ⟨⟨hw.machine, hw.registers⟩,
      .unmoved ⟨id, trivial⟩ rfl ⟨rfl, rfl, rfl⟩ rfl rfl⟩

/-- **A window stays sound, whatever is done with it.** -/
theorem Sound.after (hw : w.Sound) (d : Deed) : (w.after d).Sound := (hw.turn d).1

theorem Sound.afterAll (deeds : List Deed) : ∀ {w : Window τ}, w.Sound →
    (w.afterAll deeds).Sound := by
  induction deeds with
  | nil => exact fun hw => hw
  | cons d deeds ih => exact fun hw => ih (hw.after d)

theorem afterAll_append (w : Window τ) (deeds more : List Deed) :
    w.afterAll (deeds ++ more) = (w.afterAll deeds).afterAll more := List.foldl_append ..

/-- The window before a deed of a history, the deeds counted from zero. -/
def before (w : Window τ) (deeds : List Deed) (i : Nat) : Window τ := w.afterAll (deeds.take i)

theorem before_append (w : Window τ) {deeds : List Deed} {i : Nat} (h : i ≤ deeds.length)
    (more : List Deed) : w.before (deeds ++ more) i = w.before deeds i := by
  rw [before, before, List.take_append_of_le_length h]

theorem before_length (w : Window τ) (deeds more : List Deed) :
    w.before (deeds ++ more) deeds.length = w.afterAll deeds := by
  rw [before, List.take_left]

omit [TimeScale τ] in
/-- A deed of a longer history is an earlier one or the last one. -/
theorem getElem?_concat_cases {deeds : List Deed} {d e : Deed} {j : Nat}
    (h : (deeds ++ [d])[j]? = some e) :
    j < deeds.length ∧ deeds[j]? = some e ∨ j = deeds.length ∧ e = d := by
  obtain ⟨hlt, -⟩ := List.getElem?_eq_some_iff.1 h
  rw [List.length_append, List.length_singleton] at hlt
  rcases Nat.lt_succ_iff_lt_or_eq.1 hlt with hold | rfl
  · rw [List.getElem?_append_left hold] at h
    exact .inl ⟨hold, h⟩
  · rw [List.getElem?_concat_length] at h
    exact .inr ⟨rfl, (Option.some.inj h).symm⟩

end After

end Window

end Chip8
