import Chip8.Proofs.Debugger.Endings
import Chip8.Proofs.Machine.Throttle

/-!
# Watching a register

A breakpoint can wait for a register to have a value.  The debugger looks at it after every step
that carries something out, and only then.

* `Breakpoint.Watches` — what such a breakpoint says;
* `System.Shows` — the next step carries something out, and leaves the register with the value;
* `runSteps_watches` — the loop stops at the first step that shows the value;
* `run_watches` — **so a run does not miss it**, whatever other breakpoints there are and however
  the step came by the value;
* `run_overlooks` — a step that carries nothing out is not looked at, although it may put the
  awaited key into the register, and neither is one that fails.
-/

namespace Chip8

/-- A breakpoint waits for a register to have a value. -/
structure Breakpoint.Watches (b : Breakpoint) (name : String) (value : Int) : Prop where
  enabled : b.enabled = true
  condition : b.condition = .registerValue
  register : b.register = some name
  value : b.value = some value

/-- The value of the register that a breakpoint names, in whatever case. -/
def Registers.watched? (r : Registers) (name : String) : Option Int := r.named? (Text.upper name)

/-- Such a breakpoint stops after an instruction that leaves the register with the value. -/
theorem Breakpoint.Watches.stopsAfter {b : Breakpoint} {name : String} {value : Int}
    (hb : b.Watches name value) (snapshot : Snapshot) {r : Registers}
    (hr : r.watched? name = some value) : b.stopsAfter snapshot r = true := by
  have hname : name ≠ "" := by
    intro hempty
    rw [Registers.watched?, hempty, named?_empty] at hr
    cases hr
  rw [Registers.watched?] at hr
  simp [Breakpoint.stopsAfter, hb.enabled, hb.condition, hb.register, hb.value, hname, hr]

/-- One breakpoint that stops is reason enough. -/
theorem Debugger.hit?_of_stopsAfter {d : Debugger} {b : Breakpoint} (hb : b ∈ d.breakpoints)
    {snapshot : Snapshot} {r : Registers} (h : b.stopsAfter snapshot r = true) :
    ∃ event, d.hit? snapshot r = some event := by
  have hany : (d.breakpoints.any fun b => b.stopsAfter snapshot r) = true :=
    List.any_eq_true.2 ⟨b, hb, h⟩
  rw [Debugger.hit?, if_pos hany]
  exact ⟨_, rfl⟩

variable {τ : Type} [TimeScale τ]

/-- The next step carries something out, and leaves a register with a value. -/
def System.Shows (s : System τ) (name : String) (value : Int) : Prop :=
  s.answer.isSome = true ∧ (s.after .step).machine.registers.watched? name = some value

/-- The next step changes a register to a value from another one. -/
def System.Turns (s : System τ) (name : String) (value : Int) : Prop :=
  (∃ other, other ≠ value ∧ s.machine.registers.watched? name = some other) ∧
    (s.after .step).machine.registers.watched? name = some value

namespace Session

/-- How a run ended that watched a register, after a number of steps. -/
structure Watched (s : Session τ) (name : String) (value : Int) (budget k : Nat) (hit : Bool) :
    Prop where
  within : k ≤ budget
  /-- A step that shows the value is the last one, and a hit. -/
  stops : ∀ j < k, (s.system.afterSteps j).Shows name value → j + 1 = k ∧ hit = true
  /-- Only a hit or a call for a stop ends a run before its budget is used up. -/
  ends : k < budget → ∃ j, k = j + 1 ∧ (hit = true ∨ (s.system.afterSteps j).Stopped)

section Loop

variable {s t : Session τ} {b : Breakpoint} {name : String} {value : Int} {a : Option Snapshot}

/-- The loop goes on only after a step that does not show the value. -/
theorem goOn_watches (hb : b ∈ s.debugger.breakpoints) (hw : b.Watches name value) (budget : Nat)
    (hanswer : s.system.answer = a) (hst : Stepped s t) :
    (¬ s.system.Shows name value ∧ goOn budget a t = runSteps budget t) ∨
      ∃ event, goOn budget a t =
        .ok true ⟨t.debugger.stop, { t.system with host := t.system.host.note event }⟩ := by
  cases a with
  | none =>
    refine .inl ⟨?_, rfl⟩
    rintro ⟨hsome, -⟩
    rw [hanswer] at hsome
    cases hsome
  | some snapshot =>
    cases hhit : t.debugger.hit? snapshot t.system.machine.registers with
    | some event => exact .inr ⟨event, goOn_hit budget hhit⟩
    | none =>
      refine .inl ⟨?_, goOn_missed budget hhit⟩
      rintro ⟨-, hvalue⟩
      rw [← hst.system] at hvalue
      have hmem : b ∈ t.debugger.breakpoints := by
        rw [hst.breakpoints]
        exact hb
      obtain ⟨event, hevent⟩ := Debugger.hit?_of_stopsAfter hmem (hw.stopsAfter snapshot hvalue)
      rw [hhit] at hevent
      cases hevent

variable {budget k : Nat} {hit : Bool}

/-- A step that the loop ends with. -/
theorem watched_one (hreason : hit = true ∨ ¬ s.system.Shows name value ∧ s.system.Stopped) :
    Watched s name value (budget + 1) 1 hit := by
  refine ⟨by omega, ?_, fun _ => ⟨0, rfl, hreason.imp_right And.right⟩⟩
  intro j hj hshows
  obtain rfl : j = 0 := by omega
  rcases hreason with hhit | ⟨hmissed, -⟩
  · exact ⟨rfl, hhit⟩
  · exact absurd hshows hmissed

/-- A step that does not show the value, and then a run. -/
theorem Stepped.watched (hst : Stepped s t) (hmissed : ¬ s.system.Shows name value)
    (h : Watched t name value budget k hit) : Watched s name value (budget + 1) (k + 1) hit := by
  have hstops := h.stops
  have hends := h.ends
  rw [hst.system] at hstops hends
  refine ⟨Nat.succ_le_succ h.within, ?_, ?_⟩
  · intro j hj hshows
    cases j with
    | zero => exact absurd hshows hmissed
    | succ j =>
      obtain ⟨hlast, hhit⟩ := hstops j (by omega) hshows
      exact ⟨by omega, hhit⟩
  · intro hlt
    obtain ⟨j, hj, hreason⟩ := hends (by omega)
    exact ⟨j + 1, by omega, hreason⟩

/-- A step that does not show the value, and then some that do not. -/
theorem Stepped.missed (hst : Stepped s t) (hmissed : ¬ s.system.Shows name value)
    (h : ∀ j < k, ¬ (t.system.afterSteps j).Shows name value) :
    ∀ j < k + 1, ¬ (s.system.afterSteps j).Shows name value := by
  intro j hj
  cases j with
  | zero => exact hmissed
  | succ j =>
    have hlater := h j (by omega)
    rw [hst.system] at hlater
    exact hlater

/-- **The loop stops at the first step that shows the value.** -/
theorem runSteps_watches (hw : b.Watches name value) (budget : Nat) : ∀ s : Session τ,
    s.debugger.running = true → b ∈ s.debugger.breakpoints → ∃ k,
      (∃ hit t, runSteps budget s = .ok hit t ∧ s.Returned k t ∧
        s.Watched name value budget k hit) ∨
      ∃ f t, runSteps budget s = .error f t ∧ s.Failed k f t ∧ k < budget ∧
        ∀ j < k, ¬ (s.system.afterSteps j).Shows name value := by
  induction budget with
  | zero =>
    intro s _ _
    refine ⟨0, .inl ⟨false, _, rfl, ⟨remembers_zero rfl, rfl, _, rfl⟩, Nat.le_refl 0, ?_, ?_⟩⟩
    · exact fun j hj => absurd hj (Nat.not_lt_zero j)
    · exact fun hlt => absurd hlt (Nat.lt_irrefl 0)
  | succ budget ih =>
    intro s hrunning hb
    cases hplain : Action.step s.system with
    | error f u =>
      have hrun := runSteps_failed budget hrunning (step_of_error hplain)
      refine ⟨0, .inr ⟨f, _, hrun, ⟨remembers_zero rfl, hplain⟩, Nat.succ_pos budget, ?_⟩⟩
      exact fun j hj => absurd hj (Nat.not_lt_zero j)
    | ok a u =>
      obtain ⟨t, hstep, hst, hmark⟩ := step_stepped hplain
      rw [runSteps_succ budget hrunning hstep]
      rcases goOn_watches hb hw budget (System.answer_of_ok hplain) hst with
        ⟨hmissed, hgo⟩ | ⟨event, hhit⟩
      · rw [hgo]
        cases hon : t.debugger.running with
        | false =>
          -- a stop was called for, and the loop finds the running mark taken back
          have hstopped : s.system.Stopped := by
            refine Classical.byContradiction fun hgoes => ?_
            rw [hmark.2 ⟨hrunning, hgoes⟩] at hon
            cases hon
          have hreturned : Returned t 0 { t with debugger := t.debugger.stop } :=
            ⟨remembers_zero rfl, rfl, _, rfl⟩
          refine ⟨1, .inl ⟨false, _, runSteps_stopped budget hon, ?_, ?_⟩⟩
          · exact hst.returned hplain hreturned
          · exact watched_one (.inr ⟨hmissed, hstopped⟩)
        | true =>
          have hb' : b ∈ t.debugger.breakpoints := by
            rw [hst.breakpoints]
            exact hb
          obtain ⟨k, ⟨hit, v, hrun, hv, hwatched⟩ | ⟨f, v, hrun, hv, hk, hnone⟩⟩ := ih t hon hb'
          · exact ⟨k + 1, .inl ⟨hit, v, hrun, hst.returned hplain hv, hst.watched hmissed hwatched⟩⟩
          · exact ⟨k + 1, .inr ⟨f, v, hrun, hst.failed hplain hv, Nat.succ_lt_succ hk,
              hst.missed hmissed hnone⟩⟩
      · refine ⟨1, .inl ⟨true, _, hhit, ?_, watched_one (.inl rfl)⟩⟩
        exact hst.returned hplain ⟨remembers_zero rfl, rfl, _, rfl⟩

end Loop

/-- **A run does not miss the value of a register**, for every machine and all that the host
supplies, whatever other breakpoints there are.

If a breakpoint watches a register, a run ends with the first of its steps that carries something
out and leaves the register with the value, be it that the instruction put it there, that the
awaited key was delivered in that step, or that the register had it already; and the answer is that
a breakpoint was hit.  Without such a step the run goes on until something else ends it. -/
theorem run_watches (s : Session τ) {b : Breakpoint} {name : String} {value : Int}
    (hb : b ∈ s.debugger.breakpoints) (hw : b.Watches name value) (n : Int) : ∃ k,
    (∃ hit t, run n s = .ok hit t ∧ s.Returned k t ∧ s.Watched name value n.toNat k hit) ∨
      ∃ f t, run n s = .error f t ∧ s.Failed k f t ∧ k < n.toNat ∧
        ∀ j < k, ¬ (s.system.afterSteps j).Shows name value := by
  obtain ⟨k, ⟨hit, t, hrun, ht, hwatched⟩ | ⟨f, t, hrun, ht, hrest⟩⟩ :=
    runSteps_watches hw n.toNat s.marked rfl hb
  · exact ⟨k, .inl ⟨hit, t, hrun, ⟨⟨ht.made, ht.history⟩, ht.running, ht.system⟩,
      hwatched.within, hwatched.stops, hwatched.ends⟩⟩
  · exact ⟨k, .inr ⟨f, t, hrun, ⟨⟨ht.made, ht.history⟩, ht.fault⟩, hrest⟩⟩

/-! ## Programs that wait for a key -/

/-- A breakpoint that waits for the first register to hold five. -/
def fiveInFirst : Breakpoint := ⟨.registerValue, some 5, none, some "V0", true⟩

theorem fiveInFirst_watches : fiveInFirst.Watches "V0" 5 := ⟨rfl, rfl, rfl, rfl⟩

/-- A machine with a program that waits for a key, and then does something else. -/
def asking (high low : UInt8) : System Rat :=
  (System.started (Host.still 0 fun _ => 0) #[0xF0, 0x0A, high, low]).after (.setDrawOnBlank true)

/-- The same machine when the key has come and a breakpoint watches the register that waits for it.
The next step delivers the key. -/
def answered (high low : UInt8) : Session Rat :=
  ⟨{ breakpoints := [fiveInFirst] },
    ((asking high low).after .step).after (.setKey 5 true)⟩

/-- What the next step finds. -/
structure Answered (s : System Rat) (word : Int) : Prop where
  pc : s.machine.registers.pc = 514
  word : s.machine.memory.word 514 = word
  sp : s.machine.registers.sp = 0
  register : s.machine.registers.get 0 = 0
  drawOnBlank : s.machine.registers.drawOnBlank = true
  awaitingBlank : s.machine.registers.awaitingBlank = false
  waiting : s.machine.keypad.waiting = false
  response : s.machine.keypad.response = some ⟨5, 0⟩
  clock : s.machine.clock = Clock.start 0
  time : s.host.time = fun _ => 0

theorem watched?_first (r : Registers) : r.watched? "V0" = some (r.get 0) := by
  have hname : Text.upper "V0" = registerName 0 := by decide +kernel
  have hnamed : ∃ rest, r.named = (registerName 0, r.get 0) :: rest := ⟨_, rfl⟩
  obtain ⟨rest, hrest⟩ := hnamed
  rw [Registers.watched?, Registers.named?, hname, hrest, List.lookup_cons_self]

theorem update_start : Clock.update (Clock.start (0 : Rat)) 0 = Clock.start 0 := by
  have h : TimeScale.atLeast (TimeScale.elapsed (0 : Rat) 0) TimeScale.period = false := by
    decide +kernel
  rw [Clock.update]
  exact if_neg (Bool.eq_false_iff.1 h)

/-- What the instruction that waits leaves, and then the key. -/
theorem answered_of_awaiting {s : System Rat} {word : Int} (hpc : s.machine.registers.pc = 512)
    (hregisters : s.machine.registers = Registers.initial.setDrawOnBlank true)
    (hkeypad : s.machine.keypad = .initial) (hclock : s.machine.clock = Clock.start 0)
    (htime : s.host.time = fun _ => 0) (hfirst : s.machine.memory.word 512 = 0xF00A)
    (hsecond : s.machine.memory.word 514 = word) :
    Answered ((s.after .step).after (.setKey 5 true)) word := by
  have hdecode : Instruction.decode (s.machine.memory.word 512) = .awaitKey 0 := by
    rw [hfirst]
    decide
  have hwaiting : s.machine.keypad.waiting = false := by
    rw [hkeypad]
    rfl
  have hstep := Action.step_inside hwaiting (a := 512) hpc
  rw [hdecode, Action.execute_awaitKey] at hstep
  rw [System.after_of_ok hstep]
  obtain ⟨⟨registers, memory, screen, clock, keypad, accesses, trace⟩, host⟩ := s
  dsimp only at hregisters hkeypad hclock
  subst hregisters hkeypad hclock
  refine ⟨rfl, hsecond, rfl, rfl, rfl, rfl, rfl, rfl, ?_, htime⟩
  show Clock.update (Clock.start 0) (host.time _) = _
  rw [show host.time = _ from htime]
  exact update_start

theorem answered_answered (high low : UInt8) :
    Answered (answered high low).system (256 * high.toNat + low.toNat) := by
  have hfirst : (asking high low).machine.memory.word 512 = 0xF00A :=
    Memory.word_loadRom _ _ (k := 0) rfl
  have hsecond : (asking high low).machine.memory.word 514 = 256 * high.toNat + low.toNat :=
    Memory.word_loadRom _ _ (k := 2) rfl
  exact answered_of_awaiting rfl rfl rfl rfl rfl hfirst hsecond

/-- The delivery of the key. -/
theorem Answered.delivered {s : System Rat} {word : Int} (h : Answered s word) :
    (s.machine.registers.deliver s.machine.keypad.response).get 0 = 5 := by
  rw [h.response, Registers.deliver, Registers.get_put, if_pos rfl]
  rfl

theorem Answered.turns {s : System Rat} {word : Int} (h : Answered s word)
    (hfive : (s.after .step).machine.registers.watched? "V0" = some 5) : s.Turns "V0" 5 := by
  refine ⟨⟨0, by decide, ?_⟩, hfive⟩
  rw [watched?_first, h.register]

/-- A drawing that has to wait for a clock that stands still. -/
structure Jammed (s : System Rat) : Prop where
  attempts : s.Attempts 0 0 0
  drawOnBlank : s.machine.registers.drawOnBlank = true
  clock : s.machine.clock = Clock.start 0
  time : s.host.time = fun _ => 0

/-- It stalls for good. -/
theorem Jammed.step {s : System Rat} (h : Jammed s) :
    ∃ t, Action.step s = .ok none t ∧ Jammed t ∧
      t.machine.registers.get 0 =
        (s.machine.registers.deliver s.machine.keypad.response).get 0 := by
  obtain ⟨a, ha, hword, hrun⟩ := h.attempts.step_eq
  have hticked : s.prepared.machine.clock = Clock.start 0 := by
    show s.machine.clock.update (s.host.time _) = _
    rw [h.clock, h.time]
    exact update_start
  have hasked : (s.prepared.fetched a).ticked.machine.clock = Clock.start 0 := by
    show s.prepared.machine.clock.update (s.host.time _) = _
    rw [hticked, h.time]
    exact update_start
  have hstalls : (s.prepared.fetched a).drawStalls = true := by
    have hblank : s.firstTick = false := congrArg Clock.vblank hticked
    have hagain : s.secondTick = false := congrArg Clock.vblank hasked
    rw [System.drawStalls_fetched s a h.drawOnBlank, hblank, hagain, Bool.and_false]
    rfl
  rw [Action.execute_draw_stalled 0 0 0 hstalls] at hrun
  have hattempts : s.Attempts 0 0 0 := h.attempts
  refine ⟨_, hrun, ⟨⟨hattempts.1, a, (System.prepared_pc s).trans ha, hword⟩, ?_, hasked, h.time⟩,
    rfl⟩
  exact (System.drawOnBlank_fetched s a).trans h.drawOnBlank

/-- A run of it makes all its steps and hits nothing. -/
theorem Jammed.runSteps_eq (budget : Nat) : ∀ {s : Session Rat}, Jammed s.system →
    ∃ t, runSteps budget s = .ok false t := by
  induction budget with
  | zero => exact fun _ => ⟨_, rfl⟩
  | succ budget ih =>
    intro s h
    cases hrunning : s.debugger.running with
    | false => exact ⟨_, runSteps_stopped (budget + 1) hrunning⟩
    | true =>
      obtain ⟨u, hplain, hu, -⟩ := h.step
      obtain ⟨t, hstep, hst, -⟩ := step_stepped hplain
      rw [runSteps_succ budget hrunning hstep]
      refine ih ?_
      rw [hst.system, System.after_of_ok hplain]
      exact hu

/-- The step that delivers the key carries something out, and the run ends with it. -/
theorem run_watches_answered :
    fiveInFirst ∈ (answered 0x61 0x07).debugger.breakpoints ∧ fiveInFirst.Watches "V0" 5 ∧
      (answered 0x61 0x07).system.Turns "V0" 5 ∧
      ∃ t, run 7 (answered 0x61 0x07) = .ok true t ∧ t.system.machine.registers.get 0 = 5 ∧
        t.system.machine.registers.get 1 = 7 := by
  obtain ⟨s, hs⟩ : ∃ s, s = answered 0x61 0x07 := ⟨_, rfl⟩
  rw [← hs]
  have hb : fiveInFirst ∈ s.debugger.breakpoints := by
    rw [hs]
    exact List.mem_singleton.2 rfl
  have hanswered : Answered s.system 0x6107 := by
    rw [hs]
    exact answered_answered 0x61 0x07
  have hdecode : Instruction.decode (s.system.machine.memory.word 514) = .setByte 1 7 := by
    rw [hanswered.word]
    decide
  have hstep := Action.step_inside hanswered.waiting (a := 514) hanswered.pc
  rw [hdecode] at hstep
  obtain ⟨snapshot, u, hplain, hzero, hone⟩ : ∃ snapshot u,
      Action.step s.system = .ok (some snapshot) u ∧ u.machine.registers.get 0 = 5 ∧
        u.machine.registers.get 1 = 7 := by
    refine ⟨_, _, hstep, ?_, ?_⟩
    · show ((s.system.machine.registers.deliver s.system.machine.keypad.response).put 1 7).get 0 = 5
      rw [Registers.get_put, if_neg (by decide), hanswered.delivered]
    · show ((s.system.machine.registers.deliver s.system.machine.keypad.response).put 1 7).get 1 = 7
      rw [Registers.get_put, if_pos rfl]
      rfl
  have hafter : s.system.after .step = u := System.after_of_ok hplain
  have hfive : (s.system.after .step).machine.registers.watched? "V0" = some 5 := by
    rw [hafter, watched?_first, hzero]
  have hshows : s.system.Shows "V0" 5 := by
    rw [System.Shows, System.answer_of_ok hplain]
    exact ⟨rfl, hfive⟩
  refine ⟨hb, fiveInFirst_watches, hanswered.turns hfive, ?_⟩
  obtain ⟨k, ⟨hit, t, hrun, ht, hwatched⟩ | ⟨f, t, -, ht, -, hnone⟩⟩ :=
    run_watches s hb fiveInFirst_watches 7
  · cases k with
    | zero =>
      obtain ⟨j, hj, -⟩ := hwatched.ends (by decide)
      cases hj
    | succ k =>
      obtain ⟨hk, rfl⟩ := hwatched.stops 0 (Nat.succ_pos k) hshows
      obtain rfl : k = 0 := by omega
      obtain ⟨journal, hsystem⟩ := ht.system
      have hmachine : t.system.machine = u.machine := by
        rw [hsystem, ← hafter]
        rfl
      rw [← hmachine] at hzero hone
      exact ⟨t, hrun, hzero, hone⟩
  · cases k with
    | zero => cases hplain.symm.trans ht.fault
    | succ k => exact absurd hshows (hnone 0 (Nat.succ_pos k))

/-- **A value is overlooked in a step that carries nothing out.**  The delivery of the key brings
the register to the value, but then the drawing stalls, and the run goes on to the end of its
budget; or the return fails, and the run fails with it. -/
theorem run_overlooks :
    fiveInFirst.Watches "V0" 5 ∧
    (fiveInFirst ∈ (answered 0xD0 0x00).debugger.breakpoints ∧
      (answered 0xD0 0x00).system.Turns "V0" 5 ∧
      ∀ n, ∃ t, run n (answered 0xD0 0x00) = .ok false t) ∧
    (fiveInFirst ∈ (answered 0x00 0xEE).debugger.breakpoints ∧
      (answered 0x00 0xEE).system.Turns "V0" 5 ∧
      ∀ n, 0 < n → ∃ f t, run n (answered 0x00 0xEE) = .error f t) := by
  refine ⟨fiveInFirst_watches, ⟨List.mem_singleton.2 rfl, ?_⟩, List.mem_singleton.2 rfl, ?_⟩
  · have hanswered := answered_answered 0xD0 0x00
    obtain ⟨s, hs⟩ : ∃ s, s = answered 0xD0 0x00 := ⟨_, rfl⟩
    rw [← hs] at hanswered ⊢
    have hjammed : Jammed s.system := by
      refine ⟨⟨hanswered.waiting, 514, hanswered.pc, ?_⟩, hanswered.drawOnBlank, hanswered.clock,
        hanswered.time⟩
      rw [hanswered.word]
      decide
    obtain ⟨t, hstep, -, hzero⟩ := hjammed.step
    refine ⟨hanswered.turns ?_, fun n => Jammed.runSteps_eq n.toNat (s := s.marked) hjammed⟩
    rw [System.after_of_ok hstep, watched?_first, hzero, hanswered.delivered]
  · have hanswered := answered_answered 0x00 0xEE
    obtain ⟨s, hs⟩ : ∃ s, s = answered 0x00 0xEE := ⟨_, rfl⟩
    rw [← hs] at hanswered ⊢
    have hdecode : Instruction.decode (s.system.machine.memory.word 514) = .ret := by
      rw [hanswered.word]
      decide
    have hempty : (s.system.prepared.fetched 514).machine.registers.sp ≤ 0 := by
      show (s.system.machine.registers.deliver s.system.machine.keypad.response).sp ≤ 0
      rw [hanswered.response]
      exact Int.le_of_eq hanswered.sp
    have hstep := Action.step_inside hanswered.waiting (a := 514) hanswered.pc
    rw [hdecode, Action.execute_ret_empty hempty] at hstep
    refine ⟨hanswered.turns ?_, fun n hn => ?_⟩
    · rw [System.after_of_error hstep, watched?_first]
      exact congrArg some hanswered.delivered
    · obtain ⟨budget, hbudget⟩ : ∃ budget, n.toNat = budget + 1 := ⟨n.toNat - 1, by omega⟩
      rw [run_eq, hbudget]
      exact ⟨_, _, runSteps_failed budget rfl (step_of_error hstep)⟩

end Session

end Chip8
