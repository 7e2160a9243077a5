import Chip8.Proofs.Debugger.Run

/-!
# How runs end

A run of the debugger ends when it returns, after a hit, a stop or the last step of its budget, or
when a fault of one of its steps leaves it.  `Session.Remembers` is what all endings have in common:
the steps before the end were made, and what they carried out is remembered.

* `runSteps_ends` — the loop has no other ending;
* `run_ends` — **what a run carried out is in the history, however the run ended**, unless newer
  instructions pushed it out, and **a run that returns is at rest**;
* `run_forgets` — without the proviso it is not so, and a run that a fault leaves keeps its mark.
-/

namespace Chip8

/-- What came last is not forgotten, if it is short enough. -/
theorem mem_newest_append {α : Type} {n : Nat} {l m : List α} {a : α} (h : m.length ≤ n)
    (ha : a ∈ m) : a ∈ newest n (l ++ m) := by
  have hle : (l ++ m).length - n ≤ l.length := by
    rw [List.length_append]
    omega
  rw [newest, List.drop_append_of_le_length hle]
  exact List.mem_append_right _ ha

/-- Without calls there is no call to heed. -/
theorem Host.stoppedSince_of_never {τ : Type} {h : Host τ} (hs : h.stops = fun _ => false)
    (earlier : Nat) : h.stoppedSince earlier = false := by
  rw [stoppedSince, hs]
  exact List.any_eq_false.2 fun _ _ => Bool.false_ne_true

variable {τ : Type} [TimeScale τ]

theorem System.snapshots_succ {s t : System τ} {snapshot : Snapshot} {k : Nat}
    (h : Action.step s = .ok (some snapshot) t) :
    s.snapshots (k + 1) = snapshot :: t.snapshots k := by
  rw [System.snapshots, System.answer_of_ok h, System.after_of_ok h]
  rfl

theorem System.not_stopped_of_never {s t : System τ} {a : Option Snapshot}
    (h : Action.step s = .ok a t) (ht : t.host.stops = fun _ => false) : ¬ s.Stopped := by
  rw [System.Stopped, System.after_of_ok h, Host.stoppedSince_of_never ht]
  exact Bool.false_ne_true

namespace Session

/-- The session with the running mark, as a run starts. -/
def marked (s : Session τ) : Session τ := { s with debugger.running := true }

/-- What a run leaves, whatever ended it, after a number of steps that did not fail. -/
structure Remembers (s : Session τ) (k : Nat) (t : Session τ) : Prop where
  made : ∀ j < k, ∃ a u, Action.step (s.system.afterSteps j) = .ok a u
  history : s.debugger.history.size ≤ historyLength →
    t.debugger.history.toList = newest historyLength
      (s.debugger.history.toList ++ s.system.snapshots k)

/-- What a run leaves that returns after a number of steps.  A hit is reported, so the journal may
be longer than that of the plain steps. -/
structure Returned (s : Session τ) (k : Nat) (t : Session τ) : Prop extends Remembers s k t where
  running : t.debugger.running = false
  system : ∃ journal, t.system = { s.system.afterSteps k with host.journal := journal }

/-- What a run leaves whose next step, after a number of them, fails. -/
structure Failed (s : Session τ) (k : Nat) (f : Fault) (t : Session τ) : Prop
    extends Remembers s k t where
  fault : Action.step (s.system.afterSteps k) = .error f t.system

/-! ## Steps -/

/-- A fault is handed on, with the machine as the step left it. -/
theorem step_of_error {s : Session τ} {f : Fault} {u : System τ}
    (h : Action.step s.system = .error f u) : Session.step s = .error f ⟨heeded s u, u⟩ := by
  rw [Session.step, h]
  exact congrArg (EStateM.Result.error f) (heeded_eq s u)

section Remembers

variable {s t u : Session τ} {a : Option Snapshot} {v : System τ} {k : Nat}

/-- Without a step nothing is added. -/
theorem remembers_zero (h : t.debugger.history = s.debugger.history) : Remembers s 0 t := by
  refine ⟨fun j hj => absurd hj (Nat.not_lt_zero j), ?_⟩
  intro hsize
  rw [h, System.snapshots, List.append_nil, newest_of_length_le]
  rw [Array.length_toList]
  exact hsize

/-- One step of the debugger, and then the rest of a run. -/
theorem Stepped.remembers (hst : Stepped s t) (hplain : Action.step s.system = .ok a v)
    (htu : Remembers t k u) : Remembers s (k + 1) u := by
  refine ⟨?_, fun hsize => hst.history_rest hsize htu.history⟩
  intro j hj
  cases j with
  | zero => exact ⟨a, v, hplain⟩
  | succ j =>
    have hmade := htu.made j (Nat.lt_of_succ_lt_succ hj)
    rw [hst.system] at hmade
    exact hmade

/-- A step of the debugger, and then a run that returns. -/
theorem Stepped.returned (hst : Stepped s t) (hplain : Action.step s.system = .ok a v)
    (htu : Returned t k u) : Returned s (k + 1) u := by
  obtain ⟨journal, hsystem⟩ := htu.system
  rw [hst.system] at hsystem
  exact ⟨hst.remembers hplain htu.toRemembers, htu.running, journal, hsystem⟩

/-- A step of the debugger, and then a run that a fault leaves. -/
theorem Stepped.failed {f : Fault} (hst : Stepped s t) (hplain : Action.step s.system = .ok a v)
    (htu : Failed t k f u) : Failed s (k + 1) f u := by
  have hfault := htu.fault
  rw [hst.system] at hfault
  exact ⟨hst.remembers hplain htu.toRemembers, hfault⟩

end Remembers

/-! ## The loop -/

/-- A fault of its step leaves the loop. -/
theorem runSteps_failed (budget : Nat) {s t : Session τ} {f : Fault}
    (hrunning : s.debugger.running = true) (hstep : Session.step s = .error f t) :
    runSteps (budget + 1) s = .error f t := by
  have hround : runSteps (budget + 1) s =
      (if !s.debugger.running then pure false else Session.step >>= goOn budget) s := rfl
  rw [hround, hrunning]
  exact bind_of_error hstep

/-- After a step, the loop goes on or returns from a hit. -/
theorem goOn_cases (budget : Nat) (a : Option Snapshot) (t : Session τ) :
    goOn budget a t = runSteps budget t ∨ ∃ event, goOn budget a t =
      .ok true ⟨t.debugger.stop, { t.system with host := t.system.host.note event }⟩ := by
  cases a with
  | none => exact .inl rfl
  | some snapshot =>
    cases hhit : t.debugger.hit? snapshot t.system.machine.registers with
    | none => exact .inl (goOn_missed budget hhit)
    | some event => exact .inr ⟨event, goOn_hit budget hhit⟩

/-- **The loop returns, at rest, or a fault leaves it**, and what it carried out until then is
remembered. -/
theorem runSteps_ends (budget : Nat) : ∀ s : Session τ, ∃ k,
    (k ≤ budget ∧ ∃ hit t, runSteps budget s = .ok hit t ∧ s.Returned k t) ∨
      (k < budget ∧ ∃ f t, runSteps budget s = .error f t ∧ s.Failed k f t) := by
  induction budget with
  | zero =>
    intro s
    exact ⟨0, .inl ⟨Nat.le_refl 0, false, _, rfl, remembers_zero rfl, rfl, _, rfl⟩⟩
  | succ budget ih =>
    intro s
    cases hrunning : s.debugger.running with
    | false =>
      have hrun := runSteps_stopped (budget + 1) hrunning
      exact ⟨0, .inl ⟨Nat.zero_le _, false, _, hrun, remembers_zero rfl, rfl, _, rfl⟩⟩
    | true =>
      cases hplain : Action.step s.system with
      | error f u =>
        have hrun := runSteps_failed budget hrunning (step_of_error hplain)
        exact ⟨0, .inr ⟨Nat.succ_pos budget, f, _, hrun, remembers_zero rfl, hplain⟩⟩
      | ok a u =>
        obtain ⟨t, hstep, hst, -⟩ := step_stepped hplain
        rw [runSteps_succ budget hrunning hstep]
        rcases goOn_cases budget a t with hgo | ⟨event, hhit⟩
        · rw [hgo]
          obtain ⟨k, ⟨hk, hit, v, hrun, hv⟩ | ⟨hk, f, v, hrun, hv⟩⟩ := ih t
          · exact ⟨k + 1, .inl ⟨Nat.succ_le_succ hk, hit, v, hrun, hst.returned hplain hv⟩⟩
          · exact ⟨k + 1, .inr ⟨Nat.succ_lt_succ hk, f, v, hrun, hst.failed hplain hv⟩⟩
        · refine ⟨1, .inl ⟨Nat.succ_le_succ (Nat.zero_le _), true, _, hhit, ?_⟩⟩
          exact hst.returned hplain ⟨remembers_zero rfl, rfl, _, rfl⟩

theorem run_eq (n : Int) (s : Session τ) : run n s = runSteps n.toNat s.marked := rfl

/-! ## Two programs -/

/-- A number of steps of which none fails, and during which nobody calls for a stop. -/
def Goes (s : System τ) (k : Nat) : Prop :=
  ∀ j < k, (∃ a u, Action.step (s.afterSteps j) = .ok a u) ∧ ¬ (s.afterSteps j).Stopped

theorem Goes.succ {s t : System τ} {a : Option Snapshot} {k : Nat}
    (hstep : Action.step s = .ok a t) (hstops : t.host.stops = fun _ => false)
    (h : Goes t k) : Goes s (k + 1) := by
  intro j hj
  cases j with
  | zero => exact ⟨⟨a, t, hstep⟩, System.not_stopped_of_never hstep hstops⟩
  | succ j =>
    rw [← System.after_of_ok hstep] at h
    exact h j (Nat.lt_of_succ_lt_succ hj)

/-- Without breakpoints, such a run is not cut short. -/
theorem Goes.cutAt {s : System τ} {k : Nat} (h : Goes s k) : s.CutAt [] k k := by
  refine ⟨Nat.le_refl k, fun j hj => ⟨?_, (h j (Nat.lt_of_succ_lt hj)).2⟩, ?_⟩
  · rintro ⟨snapshot, -, b, hb, -⟩
    cases hb
  · exact fun hlt => absurd hlt (Nat.lt_irrefl k)

/-- A machine whose program sets a register, and then does something else. -/
def setting (high low : UInt8) : Session Rat :=
  ⟨{}, .started (Host.still 0 fun _ => 0) #[0x60, 0x01, high, low]⟩

/-- A program sets a register, and then returns from no call. -/
def straying : Session Rat := setting 0x00 0xEE

/-- A program sets a register, and then goes around in a circle. -/
def circling : Session Rat := setting 0x12 0x02

theorem word_setting (high low : UInt8) :
    (setting high low).system.machine.memory.word 512 = 0x6001 ∧
      (setting high low).system.machine.memory.word 514 = 256 * high.toNat + low.toNat :=
  ⟨Memory.word_loadRom _ _ (k := 0) rfl, Memory.word_loadRom _ _ (k := 2) rfl⟩

/-- The first step sets the register. -/
theorem step_setting (high low : UInt8) :
    ∃ snapshot t, Action.step (setting high low).system = .ok (some snapshot) t ∧
      snapshot.instruction = .setByte 0 1 ∧ t.machine.registers.pc = 514 ∧
      t.machine.registers.sp = 0 ∧ t.machine.keypad.waiting = false ∧
      t.machine.memory = (setting high low).system.machine.memory ∧
      t.host.stops = fun _ => false := by
  have hdecode : Instruction.decode ((setting high low).system.machine.memory.word 512) =
      .setByte 0 1 := by
    rw [(word_setting high low).1]
    decide
  have hstep := Action.step_inside (s := (setting high low).system) (a := 512) rfl rfl
  rw [hdecode] at hstep
  exact ⟨_, _, hstep, rfl, rfl, rfl, rfl, rfl, rfl⟩

/-- The second step of the program that strays fails. -/
theorem step_straying {t : System Rat} (hpc : t.machine.registers.pc = 514)
    (hsp : t.machine.registers.sp = 0) (hw : t.machine.keypad.waiting = false)
    (hmemory : t.machine.memory = straying.system.machine.memory)
    (hstops : t.host.stops = fun _ => false) :
    ∃ u, Action.step t = .error (.stackUnderflow 514) u ∧ u.host.stops = fun _ => false := by
  have hdecode : Instruction.decode (t.machine.memory.word 514) = .ret := by
    rw [hmemory, straying, (word_setting 0x00 0xEE).2]
    decide
  have hprepared : (t.prepared.fetched 514).machine.registers.pc = 514 :=
    (System.prepared_pc t).trans hpc
  have hempty : (t.prepared.fetched 514).machine.registers.sp ≤ 0 := by
    show (t.machine.registers.deliver t.machine.keypad.response).sp ≤ 0
    cases t.machine.keypad.response <;> exact Int.le_of_eq hsp
  rw [Action.step_inside hw (a := 514) hpc, hdecode, Action.execute_ret_empty hempty, hprepared]
  exact ⟨_, rfl, hstops⟩

/-- A run of it ends with that fault, and keeps the running mark. -/
theorem run_straying :
    ∃ t, run 7 straying = .error (.stackUnderflow 514) t ∧ t.debugger.running = true := by
  obtain ⟨snapshot, u, hfirst, -, hpc, hsp, hw, hmemory, hstops⟩ := step_setting 0x00 0xEE
  obtain ⟨v, hsecond, hstops'⟩ := step_straying hpc hsp hw hmemory hstops
  obtain ⟨t, hstep, hst, hmark⟩ := step_stepped (s := straying.marked) hfirst
  have hsystem : t.system = u := hst.system.trans (System.after_of_ok hfirst)
  have hmissed : t.debugger.hit? snapshot t.system.machine.registers = none := by
    rw [Debugger.hit?, hst.breakpoints]
    rfl
  have hrunning : t.debugger.running = true :=
    hmark.2 ⟨rfl, System.not_stopped_of_never hfirst hstops⟩
  rw [← hsystem] at hsecond
  refine ⟨⟨heeded t v, v⟩, ?_, ?_⟩
  · rw [run_eq, show Int.toNat 7 = 5 + 1 + 1 from rfl, runSteps_succ _ rfl hstep,
      goOn_missed _ hmissed]
    exact runSteps_failed 5 hrunning (step_of_error hsecond)
  · rw [heeded, hrunning, Host.stoppedSince_of_never hstops']
    rfl

/-- A machine on its way around the circle. -/
structure Circles (s : System Rat) : Prop where
  pc : s.machine.registers.pc = 514
  waiting : s.machine.keypad.waiting = false
  word : s.machine.memory.word 514 = 0x1202
  stops : s.host.stops = fun _ => false

theorem Circles.step {s : System Rat} (h : Circles s) :
    ∃ snapshot t, Action.step s = .ok (some snapshot) t ∧ snapshot.instruction = .jump 514 ∧
      Circles t := by
  have hdecode : Instruction.decode (s.machine.memory.word 514) = .jump 514 := by
    rw [h.word]
    decide
  have hstep := Action.step_inside h.waiting (a := 514) h.pc
  rw [hdecode] at hstep
  exact ⟨_, _, hstep, rfl, rfl, h.waiting, h.word, h.stops⟩

/-- What the rounds carry out. -/
theorem Circles.steps (k : Nat) : ∀ {s : System Rat}, Circles s → Goes s k ∧
    (s.snapshots k).length = k ∧ ∀ snapshot ∈ s.snapshots k, snapshot.instruction = .jump 514 := by
  induction k with
  | zero =>
    refine fun _ => ⟨fun j hj => absurd hj (Nat.not_lt_zero j), rfl, ?_⟩
    intro snapshot hsnapshot
    cases hsnapshot
  | succ k ih =>
    intro s h
    obtain ⟨snapshot, t, hstep, hjump, ht⟩ := h.step
    obtain ⟨hgoes, hlength, hall⟩ := ih ht
    rw [System.snapshots_succ hstep]
    refine ⟨.succ hstep ht.stops hgoes, ?_, List.forall_mem_cons.2 ⟨hjump, hall⟩⟩
    rw [List.length_cons, hlength]

/-! ## Runs -/

/-- **Every run ends, and remembers what it carried out**, for every machine, all breakpoints, every
budget and all that the host supplies.

The run makes a number of steps within its budget, and the history is what it was and the snapshots
of these steps behind that, less what had to be forgotten; so nothing is missing of a run that
carried out no more than the history can hold.  Either the run returns, and is at rest, or the fault
of the next step leaves it. -/
theorem run_ends (s : Session τ) (hsize : s.debugger.history.size ≤ historyLength) (n : Int) :
    ∃ k ≤ n.toNat, (∀ j < k, ∃ a u, Action.step (s.system.afterSteps j) = .ok a u) ∧
      ∃ t : Session τ,
        t.debugger.history.toList =
          newest historyLength (s.debugger.history.toList ++ s.system.snapshots k) ∧
        ((s.system.snapshots k).length ≤ historyLength →
          ∀ snapshot ∈ s.system.snapshots k, snapshot ∈ t.debugger.history) ∧
        ((∃ hit, run n s = .ok hit t ∧ t.debugger.running = false ∧
            ∃ journal, t.system = { s.system.afterSteps k with host.journal := journal }) ∨
          ∃ f, run n s = .error f t ∧ k < n.toNat ∧
            Action.step (s.system.afterSteps k) = .error f t.system) := by
  have hall : ∀ {k : Nat} {t : Session τ},
      Remembers s.marked k t →
      (s.system.snapshots k).length ≤ historyLength →
      ∀ snapshot ∈ s.system.snapshots k, snapshot ∈ t.debugger.history := by
    intro k t hremembers hfew snapshot hsnapshot
    rw [← Array.mem_toList_iff, hremembers.history hsize]
    exact mem_newest_append hfew hsnapshot
  obtain ⟨k, ⟨hk, hit, t, hrun, ht⟩ | ⟨hk, f, t, hrun, ht⟩⟩ :=
    runSteps_ends n.toNat s.marked
  · refine ⟨k, hk, ht.made, t, ht.history hsize, hall ht.toRemembers, .inl ?_⟩
    exact ⟨hit, hrun, ht.running, ht.system⟩
  · refine ⟨k, Nat.le_of_lt hk, ht.made, t, ht.history hsize, hall ht.toRemembers, .inr ?_⟩
    exact ⟨f, hrun, hk, ht.fault⟩

/-- The run that the fault leaves remembers the step before it. -/
theorem run_ends_straying : straying.debugger.history.size ≤ historyLength ∧
    ∃ snapshot t, snapshot.instruction = .setByte 0 1 ∧
      run 7 straying = .error (.stackUnderflow 514) t ∧
      t.debugger.history.toList = [snapshot] := by
  have hsize : straying.debugger.history.size ≤ historyLength := Nat.zero_le _
  refine ⟨hsize, ?_⟩
  obtain ⟨snapshot, u, hfirst, hset, hpc, hsp, hw, hmemory, hstops⟩ := step_setting 0x00 0xEE
  obtain ⟨v, hsecond, -⟩ := step_straying hpc hsp hw hmemory hstops
  obtain ⟨t, hrun, -⟩ := run_straying
  replace hfirst : Action.step straying.system = .ok (some snapshot) u := hfirst
  have hafter : straying.system.after .step = u := System.after_of_ok hfirst
  obtain ⟨k, -, hmade, t', hhistory, -, ⟨hit, hok, -⟩ | ⟨f, herror, -, hfault⟩⟩ :=
    run_ends straying hsize 7
  · rw [hrun] at hok
    cases hok
  · obtain rfl : t = t' := (EStateM.Result.error.inj (hrun.symm.trans herror)).2
    refine ⟨snapshot, t, hset, hrun, ?_⟩
    obtain rfl : k = 1 := by
      rcases Nat.lt_trichotomy k 1 with hk | hk | hk
      · obtain rfl : k = 0 := Nat.lt_one_iff.1 hk
        cases hfirst.symm.trans hfault
      · exact hk
      · obtain ⟨a, w, hstep⟩ := hmade 1 hk
        rw [System.afterSteps, System.afterSteps, hafter, hsecond] at hstep
        cases hstep
    rw [hhistory, System.snapshots_succ hfirst]
    exact newest_of_length_le (Nat.succ_le_succ (Nat.zero_le 999))

/-- **A run forgets what it has no room for, and a fault leaves the running mark.**  After a thousand
rounds of the circle the first step is forgotten, and the program that strays is left marked. -/
theorem run_forgets :
    (∃ snapshot u t, Action.step circling.system = .ok (some snapshot) u ∧
      run 1001 circling = .ok false t ∧ snapshot ∉ t.debugger.history) ∧
    ∃ f t, run 7 straying = .error f t ∧ t.debugger.running = true := by
  refine ⟨?_, ?_⟩
  · obtain ⟨snapshot, u, hfirst, hset, hpc, -, hw, hmemory, hstops⟩ := step_setting 0x12 0x02
    have hcircles : Circles u := by
      refine ⟨hpc, hw, ?_, hstops⟩
      rw [hmemory]
      exact (word_setting 0x12 0x02).2
    obtain ⟨hgoes, hlength, hall⟩ := hcircles.steps 1000
    have hgoes' : Goes circling.system 1001 := .succ hfirst hstops hgoes
    have hsnapshots : circling.system.snapshots 1001 = snapshot :: u.snapshots 1000 :=
      System.snapshots_succ hfirst
    obtain ⟨hit, t, hrun, hhit, hrest⟩ := runSteps_cut 1001 (s := circling.marked)
      (List.forall_mem_nil _) rfl hgoes'.cutAt fun j hj => (hgoes' j hj).1
    obtain rfl : hit = false := by
      refine Bool.eq_false_iff.2 fun h => ?_
      obtain ⟨j, -, snapshot, -, b, hb, -⟩ := hhit.1 h
      cases hb
    have hbudget : runSteps 1001 circling.marked = run 1001 circling := by
      rw [run_eq, show Int.toNat 1001 = 1001 from rfl]
    refine ⟨snapshot, u, t, hfirst, hbudget.symm.trans hrun, ?_⟩
    have hhistory : t.debugger.history.toList = u.snapshots 1000 := by
      rw [hrest.history (Nat.zero_le _), show circling.marked.system = circling.system from rfl,
        hsnapshots]
      show newest historyLength (snapshot :: u.snapshots 1000) = _
      rw [newest, List.length_cons, hlength]
      rfl
    intro hmem
    rw [← Array.mem_toList_iff, hhistory] at hmem
    rw [hall snapshot hmem] at hset
    cases hset
  · obtain ⟨t, hrun, hmark⟩ := run_straying
    exact ⟨_, t, hrun, hmark⟩

end Session

end Chip8
