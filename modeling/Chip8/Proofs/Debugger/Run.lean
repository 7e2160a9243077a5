import Chip8.Proofs.Clock.Exact
import Chip8.Proofs.Debugger.Cut

/-!
# Runs of the debugger

A run of the debugger is plain stepping, cut short where `System.CutAt` says.  What it leaves is
the machine after those steps, at rest, and the newest of what they carried out.

* `newest` — the history is what was carried out, less what was forgotten;
* `Stepped` — what one step of the debugger does: a plain step, and its snapshot is remembered;
* `Rests` — what a run leaves after a number of steps, `Stepped.rests` one step more;
* `runSteps_cut` — the loop makes just the steps up to the cut;
* `run_cut` — **and so does a run**, for every machine, every list of breakpoints and every budget.
-/

namespace Chip8

/-! ## The newest entries -/

/-- The last entries of a list, up to a number of them. -/
def newest {α : Type} (n : Nat) (l : List α) : List α := l.drop (l.length - n)

theorem newest_of_length_le {α : Type} {n : Nat} {l : List α} (h : l.length ≤ n) :
    newest n l = l := by
  rw [newest, Nat.sub_eq_zero_of_le h, List.drop_zero]

theorem length_newest {α : Type} (n : Nat) (l : List α) : (newest n l).length ≤ n := by
  rw [newest, List.length_drop]
  omega

/-- What was forgotten once is not among the newest entries later. -/
theorem newest_append {α : Type} (n : Nat) (l m : List α) :
    newest n (newest n l ++ m) = newest n (l ++ m) := by
  have hle : l.length - n ≤ l.length := Nat.sub_le _ _
  rw [newest, newest, newest, List.length_append, List.length_drop, List.length_append,
    ← List.drop_append_of_le_length hle, List.drop_drop]
  congr 1
  omega

theorem toList_extract_newest {α : Type} (n : Nat) (a : Array α) :
    (a.extract (a.size - n) a.size).toList = newest n a.toList := by
  rw [Array.toList_extract, List.extract_eq_take_drop, newest, Array.length_toList]
  exact List.take_of_length_le (Nat.le_of_eq (by rw [List.length_drop, Array.length_toList]))

variable {τ : Type} [TimeScale τ]

/-! ## Steps of the debugger -/

namespace Session

/-- One step of the debugger: a plain step, and its snapshot is remembered. -/
structure Stepped (s t : Session τ) : Prop where
  system : t.system = s.system.after .step
  breakpoints : t.debugger.breakpoints = s.debugger.breakpoints
  history : s.debugger.history.size ≤ historyLength →
    t.debugger.history.toList = newest historyLength
      (s.debugger.history.toList ++ s.system.answer.toList)
  last : t.debugger.last = s.system.answer.or s.debugger.last

/-- What a run leaves that came to rest after a number of steps.  A breakpoint that was hit is
reported, so the journal may be longer than that of the plain steps. -/
structure Rests (s : Session τ) (k : Nat) (t : Session τ) : Prop where
  system : ∃ journal, t.system = { s.system.afterSteps k with host.journal := journal }
  running : t.debugger.running = false
  breakpoints : t.debugger.breakpoints = s.debugger.breakpoints
  history : s.debugger.history.size ≤ historyLength →
    t.debugger.history.toList = newest historyLength
      (s.debugger.history.toList ++ s.system.snapshots k)
  last : t.debugger.last = (s.system.snapshots k).getLast?.or s.debugger.last

/-- What a run remembers after one step more. -/
theorem Stepped.history_rest {s t : Session τ} {k : Nat} {history : List Snapshot}
    (hst : Stepped s t) (hsize : s.debugger.history.size ≤ historyLength)
    (h : t.debugger.history.size ≤ historyLength →
      history = newest historyLength (t.debugger.history.toList ++ t.system.snapshots k)) :
    history = newest historyLength
      (s.debugger.history.toList ++ s.system.snapshots (k + 1)) := by
  have ht := hst.history hsize
  have hsize' : t.debugger.history.size ≤ historyLength := by
    rw [← Array.length_toList, ht]
    exact length_newest _ _
  rw [h hsize', ht, newest_append, hst.system, List.append_assoc]
  rfl

/-- One step of the debugger, and then a run. -/
theorem Stepped.rests {s t u : Session τ} {k : Nat} (hst : Stepped s t) (htu : Rests t k u) :
    Rests s (k + 1) u := by
  refine ⟨?_, htu.running, htu.breakpoints.trans hst.breakpoints,
    fun hsize => hst.history_rest hsize htu.history, ?_⟩
  · obtain ⟨journal, hjournal⟩ := htu.system
    refine ⟨journal, ?_⟩
    rw [hjournal, hst.system]
    rfl
  · rw [htu.last, hst.last, hst.system, System.snapshots, List.getLast?_append, Option.or_assoc]
    cases s.system.answer <;> rfl

/-- A run of one step leaves the machine as the step does. -/
theorem Rests.machine_one {s t : Session τ} {a : Option Snapshot} {u : System τ}
    (h : Rests s 1 t) (hplain : Action.step s.system = .ok a u) :
    t.system.machine = u.machine := by
  obtain ⟨journal, hsystem⟩ := h.system
  rw [hsystem, ← System.after_of_ok hplain]
  rfl

/-- Coming to rest at once. -/
theorem rests_zero {s t : Session τ}
    (hsystem : ∃ journal, t.system = { s.system with host.journal := journal })
    (hdebugger : t.debugger = s.debugger.stop) : Rests s 0 t := by
  refine ⟨hsystem, ?_, ?_, ?_, ?_⟩
  · rw [hdebugger]
    rfl
  · rw [hdebugger]
    rfl
  · intro hsize
    rw [hdebugger, System.snapshots, List.append_nil, newest_of_length_le]
    · rfl
    · rw [Array.length_toList]
      exact hsize
  · rw [hdebugger]
    rfl

/-- Starting to run changes nothing that a run leaves. -/
theorem Rests.started {s t : Session τ} {k : Nat}
    (h : Rests { s with debugger := { s.debugger with running := true } } k t) : Rests s k t :=
  ⟨h.system, h.running, h.breakpoints, h.history, h.last⟩

/-- Remembering a snapshot puts it behind the newest entries. -/
theorem toList_remember (d : Debugger) (snapshot : Snapshot) :
    (d.remember snapshot).history.toList =
      newest historyLength (d.history.toList ++ [snapshot]) := by
  rw [← Array.toList_push]
  exact toList_extract_newest historyLength (d.history.push snapshot)

omit [TimeScale τ] in
/-- The debugger after a step: a stop that was called for takes back the running mark. -/
def heeded (s : Session τ) (u : System τ) : Debugger :=
  { s.debugger with
    running := s.debugger.running && !u.host.stoppedSince s.system.host.readings }

omit [TimeScale τ] in
/-- A step takes back the running mark exactly if a stop was called for during it. -/
theorem heeded_eq (s : Session τ) (u : System τ) :
    (if u.host.stoppedSince s.system.host.readings then ⟨s.debugger.stop, u⟩
      else ⟨s.debugger, u⟩ : Session τ) = ⟨heeded s u, u⟩ := by
  rw [heeded]
  cases u.host.stoppedSince s.system.host.readings with
  | true =>
    rw [Bool.not_true, Bool.and_false]
    rfl
  | false =>
    rw [Bool.not_false, Bool.and_true]
    rfl

/-- A step that does not fail, with what it carried out remembered. -/
theorem step_of_ok {s : Session τ} {a : Option Snapshot} {u : System τ}
    (h : Action.step s.system = .ok a u) :
    Session.step s = .ok a ⟨a.elim (heeded s u) (heeded s u).remember, u⟩ := by
  rw [Session.step, h]
  cases a with
  | none => exact congrArg (EStateM.Result.ok none) (heeded_eq s u)
  | some snapshot =>
    dsimp only
    rw [heeded_eq]
    rfl

/-- What the debugger does in a step that does not fail. -/
theorem step_stepped {s : Session τ} {a : Option Snapshot} {u : System τ}
    (h : Action.step s.system = .ok a u) :
    ∃ t, Session.step s = .ok a t ∧ Stepped s t ∧
      (t.debugger.running = true ↔ s.debugger.running = true ∧ ¬ s.system.Stopped) := by
  have hafter : u = s.system.after .step := (System.after_of_ok h).symm
  have hanswer : s.system.answer = a := System.answer_of_ok h
  have hmark : (heeded s u).running = true ↔
      s.debugger.running = true ∧ ¬ s.system.Stopped := by
    rw [heeded, Bool.and_eq_true_iff, Bool.not_eq_true', System.Stopped, ← hafter,
      Bool.not_eq_true]
  refine ⟨_, step_of_ok h, ?_⟩
  cases a with
  | none =>
    refine ⟨⟨hafter, rfl, ?_, ?_⟩, hmark⟩
    · intro hsize
      rw [hanswer, Option.toList_none, List.append_nil, newest_of_length_le]
      · rfl
      · rw [Array.length_toList]
        exact hsize
    · rw [hanswer]
      rfl
  | some snapshot =>
    refine ⟨⟨hafter, rfl, ?_, ?_⟩, hmark⟩
    · intro _
      rw [hanswer]
      exact toList_remember _ _
    · rw [hanswer]
      rfl

/-! ## The loop -/

/-- Without the running mark, the loop makes no step. -/
theorem runSteps_stopped (budget : Nat) {s : Session τ} (h : s.debugger.running = false) :
    runSteps budget s = .ok false { s with debugger := s.debugger.stop } := by
  have hstop : s = { s with debugger := s.debugger.stop } := by
    show s = { s with debugger := { s.debugger with running := false } }
    rw [← h]
  cases budget with
  | zero => rfl
  | succ budget =>
    show (if !s.debugger.running then pure false else _ : EStateM Fault (Session τ) Bool) s = _
    rw [h]
    exact congrArg _ hstop

/-- What the loop does after a step: it goes on, unless a breakpoint was hit. -/
def goOn (budget : Nat) : Option Snapshot → EStateM Fault (Session τ) Bool
  | none => runSteps budget
  | some snapshot => do
    let s ← get
    match s.debugger.hit? snapshot s.system.machine.registers with
    | none => runSteps budget
    | some event =>
      updateDebugger Debugger.stop
      onSystem (Action.note event)
      return true

/-- One round of the loop, when its step does not fail. -/
theorem runSteps_succ (budget : Nat) {s t : Session τ} {a : Option Snapshot}
    (hrunning : s.debugger.running = true) (hstep : Session.step s = .ok a t) :
    runSteps (budget + 1) s = goOn budget a t := by
  have hround : runSteps (budget + 1) s =
      (if !s.debugger.running then pure false else Session.step >>= goOn budget) s := rfl
  rw [hround, hrunning]
  exact bind_of_ok hstep

theorem goOn_missed (budget : Nat) {snapshot : Snapshot} {t : Session τ}
    (h : t.debugger.hit? snapshot t.system.machine.registers = none) :
    goOn budget (some snapshot) t = runSteps budget t := by
  show (match t.debugger.hit? snapshot t.system.machine.registers with
    | none => _
    | some event => _ : EStateM Fault (Session τ) Bool) t = _
  rw [h]

theorem goOn_hit (budget : Nat) {snapshot : Snapshot} {event : Event} {t : Session τ}
    (h : t.debugger.hit? snapshot t.system.machine.registers = some event) :
    goOn budget (some snapshot) t =
      .ok true ⟨t.debugger.stop, { t.system with host := t.system.host.note event }⟩ := by
  show (match t.debugger.hit? snapshot t.system.machine.registers with
    | none => _
    | some event => _ : EStateM Fault (Session τ) Bool) t = _
  rw [h]
  rfl

section Cut

variable {s t : Session τ} {a : Option Snapshot}

/-- After a step, the debugger finds a reason to stop exactly if the step was a hit. -/
theorem hits_iff (hproper : ∀ b ∈ s.debugger.breakpoints, b.Proper) {snapshot : Snapshot}
    (hanswer : s.system.answer = some snapshot) (hst : Stepped s t) :
    (∃ event, t.debugger.hit? snapshot t.system.machine.registers = some event) ↔
      s.system.Hits s.debugger.breakpoints := by
  have hregisters : snapshot.registers = t.system.machine.registers := by
    rw [hst.system]
    exact System.registers_of_answer hanswer
  have hproper' : ∀ b ∈ t.debugger.breakpoints, b.Proper := by
    rw [hst.breakpoints]
    exact hproper
  rw [← hregisters, Debugger.hit_iff hproper', hst.breakpoints]
  constructor
  · intro hmatch
    exact ⟨snapshot, hanswer, hmatch⟩
  · rintro ⟨other, hother, hmatch⟩
    rw [hanswer] at hother
    cases hother
    exact hmatch

/-- The loop ends after a hit. -/
theorem goOn_of_hits (budget : Nat) (hproper : ∀ b ∈ s.debugger.breakpoints, b.Proper)
    (hanswer : s.system.answer = a) (hst : Stepped s t)
    (hhits : s.system.Hits s.debugger.breakpoints) :
    ∃ event, goOn budget a t =
      .ok true ⟨t.debugger.stop, { t.system with host := t.system.host.note event }⟩ := by
  cases a with
  | none =>
    obtain ⟨snapshot, hsnapshot, -⟩ := hhits
    rw [hanswer] at hsnapshot
    cases hsnapshot
  | some snapshot =>
    obtain ⟨event, hevent⟩ := (hits_iff hproper hanswer hst).2 hhits
    exact ⟨event, goOn_hit budget hevent⟩

/-- It goes on after a step that is no hit. -/
theorem goOn_of_not_hits (budget : Nat) (hproper : ∀ b ∈ s.debugger.breakpoints, b.Proper)
    (hanswer : s.system.answer = a) (hst : Stepped s t)
    (hmissed : ¬ s.system.Hits s.debugger.breakpoints) :
    goOn budget a t = runSteps budget t := by
  cases a with
  | none => rfl
  | some snapshot =>
    refine goOn_missed budget (Option.eq_none_iff_forall_ne_some.2 ?_)
    intro event hevent
    exact hmissed ((hits_iff hproper hanswer hst).1 ⟨event, hevent⟩)

end Cut

/-- **The loop makes just the steps up to the cut**, and answers whether the last of them was a
hit. -/
theorem runSteps_cut (budget : Nat) {s : Session τ} {k : Nat}
    (hproper : ∀ b ∈ s.debugger.breakpoints, b.Proper) (hrunning : s.debugger.running = true)
    (hcut : s.system.CutAt s.debugger.breakpoints budget k)
    (hok : ∀ j < k, ∃ a u, Action.step (s.system.afterSteps j) = .ok a u) :
    ∃ hit t, runSteps budget s = .ok hit t ∧
      (hit = true ↔ s.system.EndsInHit s.debugger.breakpoints k) ∧ Rests s k t := by
  induction budget generalizing s k with
  | zero =>
    have hk : k = 0 := Nat.le_zero.1 hcut.within
    subst hk
    refine ⟨false, _, rfl, ?_, rests_zero ⟨_, rfl⟩ rfl⟩
    exact iff_of_false Bool.false_ne_true System.not_endsInHit_zero
  | succ budget ih =>
    cases k with
    | zero =>
      obtain ⟨j, hj, -⟩ := hcut.ends (Nat.succ_pos budget)
      cases hj
    | succ k =>
      obtain ⟨a, u, hplain⟩ := hok 0 (Nat.succ_pos k)
      have hanswer : s.system.answer = a := System.answer_of_ok hplain
      obtain ⟨t, hstep, hst, hmark⟩ := step_stepped hplain
      rw [runSteps_succ budget hrunning hstep]
      by_cases hhits : s.system.Hits s.debugger.breakpoints
      · -- a hit is a reason to stop, so this step is the last one
        have hk : k = 0 := hcut.eq_zero_of_stop (.inl hhits)
        subst hk
        obtain ⟨event, hrun⟩ := goOn_of_hits budget hproper hanswer hst hhits
        refine ⟨true, _, hrun, iff_of_true rfl (System.endsInHit_one.2 hhits), ?_⟩
        exact hst.rests (rests_zero ⟨_, rfl⟩ rfl)
      · rw [goOn_of_not_hits budget hproper hanswer hst hhits]
        by_cases hstopped : s.system.Stopped
        · -- so is a stop, and the loop finds the running mark taken back
          have hk : k = 0 := hcut.eq_zero_of_stop (.inr hstopped)
          subst hk
          have hrest : t.debugger.running = false :=
            Bool.eq_false_iff.2 fun h => (hmark.1 h).2 hstopped
          have hlast : ¬ s.system.EndsInHit s.debugger.breakpoints 1 :=
            fun h => hhits (System.endsInHit_one.1 h)
          refine ⟨false, _, runSteps_stopped budget hrest, ?_, ?_⟩
          · exact iff_of_false Bool.false_ne_true hlast
          · exact hst.rests (rests_zero ⟨_, rfl⟩ rfl)
        · have hgo : t.debugger.running = true := hmark.2 ⟨hrunning, hstopped⟩
          have hproper' : ∀ b ∈ t.debugger.breakpoints, b.Proper := by
            rw [hst.breakpoints]
            exact hproper
          have hcut' : t.system.CutAt t.debugger.breakpoints budget k := by
            rw [hst.system, hst.breakpoints]
            exact hcut.rest ⟨hhits, hstopped⟩
          have hok' : ∀ j < k, ∃ a u, Action.step (t.system.afterSteps j) = .ok a u := by
            intro j hj
            rw [hst.system]
            exact hok (j + 1) (Nat.succ_lt_succ hj)
          obtain ⟨hit, v, hrun, hhit, hrest⟩ := ih hproper' hgo hcut' hok'
          rw [hst.system, hst.breakpoints] at hhit
          exact ⟨hit, v, hrun, hhit.trans (System.endsInHit_succ hhits).symm, hst.rests hrest⟩

/-- **A run is plain stepping cut short**, for every machine, all breakpoints and every number of
steps, if none of the steps fails.

There is a number of steps at which the run is cut.  It makes just those steps, and leaves the
machine, the breakpoints, the history and the last snapshot as `Rests` says; the answer is whether
the last step was a hit.  When nobody calls for a stop, this is the first hit within the budget,
and without one the budget is used up.  Breakpoints look at snapshots, and a snapshot tells the
registers after its step and the accesses of the step, those of the fetch first. -/
theorem run_cut (s : Session τ) (hproper : ∀ b ∈ s.debugger.breakpoints, b.Proper) (n : Int) :
    (∃ k, s.system.CutAt s.debugger.breakpoints n.toNat k ∧
      ((∀ j < k, ∃ a u, Action.step (s.system.afterSteps j) = .ok a u) →
        ∃ hit t, run n s = .ok hit t ∧ Rests s k t ∧
          (hit = true ↔ s.system.EndsInHit s.debugger.breakpoints k) ∧
          ((∀ j < k, ¬ (s.system.afterSteps j).Stopped) →
            (hit = true ↔ ∃ j < n.toNat, (s.system.afterSteps j).Hits s.debugger.breakpoints) ∧
            (hit = false → k = n.toNat)))) ∧
    ∀ j snapshot, (s.system.afterSteps j).answer = some snapshot →
      snapshot.registers = (s.system.afterSteps (j + 1)).machine.registers ∧
      ∃ (a : Fin 4095) (more : Array Access),
        (s.system.afterSteps j).machine.registers.pc = (a.val : Int) ∧
        snapshot.accesses =
          #[.read a.castSucc ((s.system.afterSteps j).machine.memory.get a.castSucc),
            .read a.succ ((s.system.afterSteps j).machine.memory.get a.succ)] ++ more := by
  refine ⟨?_, ?_⟩
  · obtain ⟨k, hcut⟩ := s.system.exists_cutAt s.debugger.breakpoints n.toNat
    refine ⟨k, hcut, ?_⟩
    intro hok
    obtain ⟨hit, t, hrun, hhit, hrest⟩ :=
      runSteps_cut n.toNat (s := { s with debugger := { s.debugger with running := true } })
        hproper rfl hcut hok
    refine ⟨hit, t, hrun, hrest.started, hhit, ?_⟩
    intro hunstopped
    refine ⟨hhit.trans (hcut.endsInHit_iff hunstopped), ?_⟩
    intro hfalse
    refine hcut.eq_budget hunstopped fun hlast => ?_
    rw [hhit.2 hlast] at hfalse
    cases hfalse
  · intro j snapshot hanswer
    obtain ⟨hregisters, a, more, hpc, -, haccesses⟩ :=
      Action.step_snapshot (System.ok_of_answer hanswer)
    rw [System.afterSteps_succ]
    exact ⟨hregisters, a, more, hpc, haccesses⟩

/-- A machine whose program starts by writing to a register, with a breakpoint behind that. -/
def watched : Session Rat :=
  ⟨{ breakpoints := [⟨.pcMatch, some 514, none, none, true⟩] },
    (System.powerOn (Host.still 0 fun _ => 0)).after (.loadRom #[0x63, 0x2A])⟩

/-- The run stops at the breakpoint, with the register written. -/
theorem run_watched : ∃ t, run 7 watched = .ok true t ∧ t.system.machine.registers.pc = 514 ∧
    t.system.machine.registers.get 3 = 0x2A := by
  have hproper : ∀ b ∈ watched.debugger.breakpoints, b.Proper := by
    intro b hb
    cases List.mem_singleton.1 hb
    exact ⟨514, rfl⟩
  have hmemory : watched.system.machine.memory = Memory.blank.loadRom #[0x63, 0x2A] := rfl
  have hword : watched.system.machine.memory.word 512 = 0x632A := by
    rw [hmemory, Memory.word, Memory.get_loadRom, Memory.get_loadRom]
    rfl
  have hstep : ∃ snapshot t, Action.step watched.system = .ok (some snapshot) t ∧
      snapshot.registers.pc = 514 ∧ t.machine.registers.pc = 514 ∧
      t.machine.registers.get 3 = 0x2A := by
    have hpc : watched.system.prepared.machine.registers.pc = ((512 : Fin 4095).val : Int) := rfl
    rw [Action.step_active rfl, if_neg (by decide), Action.runInstruction_inside hpc]
    have hdecode : Instruction.decode (watched.system.prepared.machine.memory.word 512) =
        .setByte 3 0x2A := by
      show Instruction.decode (watched.system.machine.memory.word 512) = _
      rw [hword]
      decide
    rw [hdecode]
    exact ⟨_, _, rfl, rfl, rfl, rfl⟩
  obtain ⟨snapshot, u, hplain, hpc, hpc', hregister⟩ := hstep
  have hhits : watched.system.Hits watched.debugger.breakpoints :=
    ⟨snapshot, System.answer_of_ok hplain, _, List.mem_singleton.2 rfl, rfl, congrArg some hpc.symm⟩
  obtain ⟨⟨k, hcut, hrun⟩, -⟩ := run_cut watched hproper 7
  have hk : k = 1 := by
    cases k with
    | zero =>
      obtain ⟨j, hj, -⟩ := hcut.ends (by decide)
      cases hj
    | succ k => rw [hcut.eq_zero_of_stop (.inl hhits)]
  subst hk
  have hok : ∀ j < 1, ∃ a u, Action.step (watched.system.afterSteps j) = .ok a u := by
    intro j hj
    obtain rfl : j = 0 := by omega
    exact ⟨_, _, hplain⟩
  obtain ⟨hit, t, hrun, hrest, hhit, -⟩ := hrun hok
  obtain rfl : hit = true := hhit.2 (System.endsInHit_one.2 hhits)
  have hmachine : t.system.machine = u.machine := hrest.machine_one hplain
  rw [← hmachine] at hpc' hregister
  exact ⟨t, hrun, hpc', hregister⟩

end Session

end Chip8
