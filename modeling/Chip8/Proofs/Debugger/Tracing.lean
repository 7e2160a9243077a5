import Chip8.Proofs.Debugger.Endings
import Chip8.Proofs.Machine.Path

/-!
# Snapshots, the trace and the history

Three records are kept of what is carried out: steps answer snapshots, the machine keeps the trace,
and the debugger keeps the history.  They have different lengths and run in different directions, but
they are records of one path.

* `Session.Command` — what can be done with a machine through its debugger, which forgets its history
  when the machine starts over;
* `Session.Recalls` — the history is the newest part of the path that the trace is the end of, and
  every command keeps it so, whatever ends it;
* `trace_path` — **the trace is the path of execution**, and the end of the history.
-/

namespace Chip8

/-- The newest part of a path is enough to tell its end. -/
theorem traceOf_newest {n : Nat} (hn : traceLength ≤ n) (path : List Snapshot) :
    traceOf (newest n path) = traceOf path := by
  by_cases hlong : path.length ≤ n
  · rw [newest_of_length_le hlong]
  · have hlength : path.length - (path.length - n) = n := by omega
    rw [traceOf, traceOf, newest, List.map_drop, List.reverse_drop, List.take_take,
      List.length_map, hlength, Nat.min_eq_left hn]

variable {τ : Type} [TimeScale τ]

theorem Machine.WellFormed.afterSteps (k : Nat) : ∀ {s : System τ}, s.machine.WellFormed →
    (s.afterSteps k).machine.WellFormed := by
  induction k with
  | zero => exact fun hs => hs
  | succ k ih => exact fun hs => ih (hs.after .step)

/-- Plain steps go on along the path. -/
theorem System.Follows.afterSteps (k : Nat) : ∀ {s : System τ} {path : List Snapshot},
    s.machine.WellFormed → s.Follows path → (s.afterSteps k).Follows (path ++ s.snapshots k) := by
  induction k with
  | zero =>
    intro s path _ h
    rw [System.snapshots, List.append_nil]
    exact h
  | succ k ih =>
    intro s path hs h
    rw [System.snapshots, ← List.append_assoc]
    exact ih (hs.after .step) (h.step hs)

namespace Session

/-- What can be done with a machine through its debugger. -/
inductive Command where
  /-- A step of the debugger, or what else the host can do with the machine. -/
  | operate (o : Operation)
  /-- Run up to a number of steps. -/
  | run (maxSteps : Int)
  | stop
  | add (b : Breakpoint)
  | remove (b : Breakpoint)

/-- The session which a result comes with. -/
def stateOf {α : Type} : EStateM.Result Fault (Session τ) α → Session τ
  | .ok _ t => t
  | .error _ t => t

/-- The session after a command, whether it succeeded or failed.  Starting over clears the
history. -/
def afterCommand (s : Session τ) : Command → Session τ
  | .operate .step => stateOf (Session.step s)
  | .operate .reset => ⟨s.debugger.clearHistory, s.system.after .reset⟩
  | .operate (.resetAndLoad data) =>
    ⟨s.debugger.clearHistory, s.system.after (.resetAndLoad data)⟩
  | .operate o => { s with system := s.system.after o }
  | .run maxSteps => stateOf (Session.run maxSteps s)
  | .stop => { s with debugger := s.debugger.stop }
  | .add b => { s with debugger := s.debugger.add b }
  | .remove b => { s with debugger := s.debugger.remove b }

/-- The session after commands, one after the other. -/
def afterCommands (s : Session τ) (commands : List Command) : Session τ :=
  commands.foldl afterCommand s

/-- The machine follows a path, and the debugger remembers the newest part of it. -/
structure Recalls (s : Session τ) (path : List Snapshot) : Prop where
  wellFormed : s.system.machine.WellFormed
  follows : s.system.Follows path
  history : s.debugger.history.toList = newest historyLength path

omit [TimeScale τ] in
theorem recalls_powerOn (host : Host τ) : (Session.powerOn host).Recalls [] :=
  ⟨.powerOn _, System.follows_powerOn host, rfl⟩

section Recalls

variable {s t : Session τ} {path : List Snapshot}

omit [TimeScale τ] in
/-- The trace is the end of what the debugger remembers. -/
theorem Recalls.trace (h : s.Recalls path) :
    s.system.machine.trace = traceOf s.debugger.history.toList := by
  rw [h.history, traceOf_newest (by decide), h.follows.trace]

omit [TimeScale τ] in
theorem Recalls.size (h : s.Recalls path) : s.debugger.history.size ≤ historyLength := by
  rw [← Array.length_toList, h.history]
  exact length_newest _ _

/-- A step that fails leaves path and history as they are. -/
theorem Recalls.failed {f : Fault} {u : System τ} (h : s.Recalls path)
    (hfault : Action.step s.system = .error f u) (d : Debugger)
    (hd : d.history = s.debugger.history) : Recalls ⟨d, u⟩ path := by
  have hwellFormed := h.wellFormed.after .step
  have hfollows := h.follows.step h.wellFormed
  rw [System.after_of_error hfault] at hwellFormed hfollows
  rw [System.answer_of_error hfault, Option.toList_none, List.append_nil] at hfollows
  exact ⟨hwellFormed, hfollows, hd ▸ h.history⟩

/-- A step of the debugger goes on along the path, if it carries something out. -/
theorem Recalls.step (h : s.Recalls path) : ∃ more, (stateOf (Session.step s)).Recalls more := by
  cases hplain : Action.step s.system with
  | error f u =>
    rw [step_of_error hplain]
    exact ⟨path, h.failed hplain _ rfl⟩
  | ok a u =>
    obtain ⟨t, hstep, hst, -⟩ := step_stepped hplain
    rw [hstep]
    refine ⟨path ++ s.system.answer.toList, ?_⟩
    show t.Recalls _
    refine ⟨?_, ?_, ?_⟩
    · rw [hst.system]
      exact h.wellFormed.after .step
    · rw [hst.system]
      exact h.follows.step h.wellFormed
    · rw [hst.history h.size, h.history, newest_append]

/-- The steps of a run go on along the path. -/
theorem Recalls.remembers (h : s.Recalls path) {k : Nat} (hk : s.Remembers k t)
    {u : System τ} (hu : ∃ journal, u = { s.system.afterSteps k with host.journal := journal }) :
    Recalls ⟨t.debugger, u⟩ (path ++ s.system.snapshots k) := by
  obtain ⟨journal, rfl⟩ := hu
  refine ⟨h.wellFormed.afterSteps k, ?_, ?_⟩
  · exact (h.follows.afterSteps k h.wellFormed).stays ⟨rfl, rfl⟩
  · show t.debugger.history.toList = _
    rw [hk.history h.size, h.history, newest_append]

/-- A run goes on along the path, however it ends. -/
theorem Recalls.runSteps (h : s.Recalls path) (budget : Nat) :
    ∃ more, (stateOf (Session.runSteps budget s)).Recalls more := by
  obtain ⟨k, ⟨-, hit, t, hrun, ht⟩ | ⟨-, f, t, hrun, ht⟩⟩ := runSteps_ends budget s
  · rw [hrun]
    exact ⟨_, h.remembers ht.toRemembers ht.system⟩
  · rw [hrun]
    exact ⟨_, (h.remembers ht.toRemembers ⟨_, rfl⟩).failed ht.fault t.debugger rfl⟩

/-- **Every command keeps the three records together**, whatever ends it. -/
theorem Recalls.afterCommand (h : s.Recalls path) (c : Command) :
    ∃ more, (s.afterCommand c).Recalls more := by
  cases c with
  | run maxSteps => exact Recalls.runSteps (s := s.marked) ⟨h.wellFormed, h.follows, h.history⟩ _
  | stop => exact ⟨path, h.wellFormed, h.follows, h.history⟩
  | add b =>
    refine ⟨path, h.wellFormed, h.follows, ?_⟩
    show (s.debugger.add b).history.toList = _
    rw [Debugger.add]
    split <;> exact h.history
  | remove b => exact ⟨path, h.wellFormed, h.follows, h.history⟩
  | operate o =>
    have hwellFormed := h.wellFormed.after o
    have hfollows := h.follows.after h.wellFormed o
    cases o with
    | step => exact h.step
    | reset | resetAndLoad => exact ⟨[], hwellFormed, hfollows, rfl⟩
    | loadRom | setKey | setShiftSecond | setDrawOnBlank | setForeground | setBackground =>
      exact ⟨path, hwellFormed, hfollows, h.history⟩

end Recalls

theorem Recalls.afterCommands (commands : List Command) : ∀ {s : Session τ}
    {path : List Snapshot}, s.Recalls path → ∃ more, (s.afterCommands commands).Recalls more := by
  induction commands with
  | nil => exact fun h => ⟨_, h⟩
  | cons c commands ih =>
    intro s path h
    obtain ⟨more, hmore⟩ := h.afterCommand c
    exact ih hmore

end Session

/-- **The trace is the path of execution**, for every host and whatever was done with the machine.

After any history, the trace holds the last hundred of what was carried out since the machine was
started over last, the newest first.  The first of it stood at address 512 and each other where the
one before it led, whatever steps without effect or with a fault lie between them.  The next step
puts what it carries out in front of the trace, with the word that is in memory at its address, and
if it carries out nothing the trace stays as it is.

And when all steps go through a debugger whose history is cleared whenever the machine starts over,
the trace is the end of that history, the newest first. -/
theorem trace_path (host : Host τ) :
    (∀ operations : List Operation,
      let s := (System.powerOn host).afterAll operations
      let path := (System.powerOn host).path [] operations
      s.machine.trace = (path.map Snapshot.entry).reverse.take traceLength ∧
      Contiguous 512 path ∧
      (∀ snapshot, s.answer = some snapshot →
        (s.after .step).machine.trace = (snapshot.entry :: s.machine.trace).take traceLength ∧
        ∃ a : Fin 4095, snapshot.entry.address = a.val ∧
          snapshot.entry.word = s.machine.memory.word a) ∧
      (s.answer = none → (s.after .step).machine.trace = s.machine.trace)) ∧
    ∀ commands : List Session.Command,
      let s := (Session.powerOn host).afterCommands commands
      s.system.machine.trace =
        (s.debugger.history.toList.map Snapshot.entry).reverse.take traceLength := by
  refine ⟨fun operations => ?_, fun commands => ?_⟩
  · intro s path
    have hpowerOn : (System.powerOn host).machine.WellFormed := .powerOn _
    have hs : s.machine.WellFormed := hpowerOn.afterAll operations
    have hfollows : s.Follows path :=
      System.follows_afterAll operations hpowerOn (System.follows_powerOn host)
    refine ⟨hfollows.trace, hfollows.contiguous, ?_, ?_⟩
    · intro snapshot hanswer
      obtain ⟨htrace, -, a, -, haddress, hword⟩ :=
        Action.step_carried_trace (System.ok_of_answer hanswer)
      exact ⟨htrace, a, haddress, hword⟩
    · exact fun hanswer => (Action.step_idle hs hanswer).trace
  · obtain ⟨path, hrecalls⟩ := (Session.recalls_powerOn host).afterCommands commands
    exact hrecalls.trace

end Chip8
