import Chip8.Proofs.Machine.History
import Chip8.Proofs.Machine.Snapshot

/-!
# The path of execution

What was carried out since the machine was started over last is a path through memory: each
instruction stands where the one before it led.  The trace is the end of that path, the newest
instruction first.

* `step_carried_trace` — a step that carries something out puts it in front of the trace;
* `step_idle` — a step that carries out nothing, because it waits, stalls, halts or fails, touches
  neither the trace nor the program counter;
* `System.path` — what a history has carried out since the machine was started over last;
* `Follows` — the trace is the end of a contiguous path that leads to the program counter, and
  `follows_afterAll` says that **every history keeps it so**.
-/

namespace Chip8

/-- Where a path leads that starts at an address: on from its end, or to the start if it is empty. -/
def arrival (start : Int) (path : List Snapshot) : Int :=
  (path.getLast?.map fun snapshot => snapshot.registers.pc).getD start

/-- Each instruction stands where the one before it led, and the first one at an address. -/
def Contiguous (start : Int) : List Snapshot → Prop
  | [] => True
  | snapshot :: path => snapshot.entry.address = start ∧ Contiguous snapshot.registers.pc path

theorem arrival_append (start : Int) (path : List Snapshot) (snapshot : Snapshot) :
    arrival start (path ++ [snapshot]) = snapshot.registers.pc := by
  rw [arrival, List.getLast?_append]
  rfl

theorem arrival_cons (start : Int) (path : List Snapshot) (snapshot : Snapshot) :
    arrival start (snapshot :: path) = arrival snapshot.registers.pc path := by
  rw [arrival, arrival, List.getLast?_cons]
  cases path.getLast? <;> rfl

/-- A path goes on where it has led. -/
theorem Contiguous.append {path : List Snapshot} {snapshot : Snapshot} : ∀ {start : Int},
    Contiguous start path → snapshot.entry.address = arrival start path →
    Contiguous start (path ++ [snapshot]) := by
  induction path with
  | nil => exact fun _ hsnapshot => ⟨hsnapshot, trivial⟩
  | cons first path ih =>
    intro start h hsnapshot
    rw [arrival_cons] at hsnapshot
    exact ⟨h.1, ih h.2 hsnapshot⟩

/-- The newest entries of what was carried out, the newest first, up to the length of a trace. -/
def traceOf (path : List Snapshot) : List TraceEntry :=
  (path.map Snapshot.entry).reverse.take traceLength

theorem traceOf_append (path : List Snapshot) (snapshot : Snapshot) :
    traceOf (path ++ [snapshot]) = (snapshot.entry :: traceOf path).take traceLength := by
  rw [traceOf, List.map_append, List.reverse_append, traceOf]
  show (snapshot.entry :: (path.map Snapshot.entry).reverse).take traceLength = _
  rw [traceLength, List.take_succ_cons, List.take_succ_cons, List.take_take]
  rfl

variable {τ : Type}

namespace Action

/-! ## Steps -/

/-- A later state with the same trace and the same program counter. -/
structure Stays (s t : System τ) : Prop where
  trace : t.machine.trace = s.machine.trace
  pc : t.machine.registers.pc = s.machine.registers.pc

theorem Stays.trans {s t u : System τ} (hst : Stays s t) (htu : Stays t u) : Stays s u :=
  ⟨htu.trace.trans hst.trace, htu.pc.trans hst.pc⟩

variable [TimeScale τ]

theorem motion_stays : Motion (Stays : System τ → System τ → Prop) where
  refl _ := ⟨rfl, rfl⟩
  trans := Stays.trans
  registers _ _ h := ⟨rfl, h.pc⟩
  screen _ _ := ⟨rfl, rfl⟩
  timer _ _ _ := ⟨rfl, rfl⟩
  ticked _ := ⟨rfl, rfl⟩
  noted _ _ := ⟨rfl, rfl⟩
  drawn _ := ⟨rfl, rfl⟩
  read _ _ := ⟨rfl, rfl⟩
  write _ _ _ := ⟨rfl, rfl⟩

/-- Carrying out an instruction, before it is followed up. -/
theorem execute_stays (i : Instruction) (s : System τ) (a : Fin 4095) :
    Stays s (stateOf (execute i (s.prepared.fetched a))) := by
  have hfetched : Stays s (s.prepared.fetched a) := ⟨rfl, System.prepared_pc s⟩
  exact hfetched.trans
    (execute_moves motion_stays i (.inr fun _ _ => ⟨rfl, rfl⟩) (s.prepared.fetched a))

/-- **A step that carries something out puts it in front of the trace**: the word that was in memory
at the program counter, and the step leads to where its snapshot says. -/
theorem step_carried_trace {s t : System τ} {snapshot : Snapshot}
    (h : step s = .ok (some snapshot) t) :
    t.machine.trace = (snapshot.entry :: s.machine.trace).take traceLength ∧
      t.machine.registers.pc = snapshot.registers.pc ∧
      ∃ a : Fin 4095, s.machine.registers.pc = (a.val : Int) ∧
        snapshot.entry.address = a.val ∧ snapshot.entry.word = s.machine.memory.word a := by
  obtain ⟨a, o, u, next, ha, hrun, -, rfl, ht⟩ := step_carried h
  have hstays := execute_stays (Instruction.decode (s.machine.memory.word a)) s a
  rw [hrun] at hstays
  have htrace : u.machine.trace = s.machine.trace := hstays.trace
  rw [ht, ← htrace]
  exact ⟨rfl, rfl, a, ha, rfl, rfl⟩

/-- **A step that carries out nothing touches neither the trace nor the program counter**, also when
it fails. -/
theorem step_idle {s : System τ} (hs : s.machine.WellFormed) (h : s.answer = none) :
    Stays s (stateOf (step s)) := by
  have hidle : ∀ snapshot u, step s ≠ .ok (some snapshot) u := by
    intro snapshot u hcarried
    rw [System.answer_of_ok hcarried] at h
    cases h
  rcases step_idle_cases hs.registers.pc.1 hidle with
    hrun | hrun | hrun | ⟨i, a, u, ⟨f, hexecute, hrun⟩ | ⟨o, host, hexecute, -, hrun⟩⟩
  · rw [hrun]
    exact ⟨rfl, rfl⟩
  · rw [hrun]
    exact ⟨rfl, System.prepared_pc s⟩
  · rw [hrun]
    exact ⟨rfl, System.prepared_pc s⟩
  · have hstays := execute_stays i s a
    rw [hexecute] at hstays
    rw [hrun]
    exact hstays
  · have hstays := execute_stays i s a
    rw [hexecute] at hstays
    rw [hrun]
    exact ⟨hstays.trace, hstays.pc⟩

end Action

/-! ## Histories -/

namespace System

variable [TimeScale τ]

theorem stays_after {o : Operation} (ho : o.keepsPath = true) (s : System τ) :
    Action.Stays s (s.after o) := by
  have hhandled := handled_after ho s
  obtain ⟨_, _, _, hregisters⟩ := hhandled.registers
  exact ⟨hhandled.trace, by rw [hregisters]⟩

/-- Starting over leaves no trace, and the registers as a reset leaves them. -/
theorem started_over {o : Operation} (ho : o.startsOver = true) (s : System τ) :
    (s.after o).machine.trace = [] ∧
      (s.after o).machine.registers = s.machine.registers.reset := by
  obtain ⟨now, host, hreset⟩ := Action.reset_apply s
  cases o with
  | reset =>
    rw [after, hreset]
    exact ⟨rfl, rfl⟩
  | resetAndLoad data =>
    rw [after, Action.resetAndLoad, bind_of_ok hreset]
    obtain ⟨host', hload⟩ := Action.loadRom_apply data
      { machine := { Machine.powerOn now with
                     screen := s.machine.screen
                     registers := s.machine.registers.reset }
        host := host }
    rw [hload]
    exact ⟨rfl, rfl⟩
  | _ => cases ho

/-- What was carried out since the machine was started over last, after one operation more. -/
def pathAfter (s : System τ) (path : List Snapshot) : Operation → List Snapshot
  | .step => path ++ s.answer.toList
  | .reset | .resetAndLoad _ => []
  | _ => path

/-- What operations have carried out since the machine was started over last, oldest first, behind
what had been carried out before them. -/
def path (s : System τ) (before : List Snapshot) : List Operation → List Snapshot
  | [] => before
  | o :: operations => (s.after o).path (s.pathAfter before o) operations

/-- The trace is the end of a contiguous path, which leads to the program counter. -/
structure Follows (s : System τ) (path : List Snapshot) : Prop where
  trace : s.machine.trace = traceOf path
  contiguous : Contiguous 512 path
  pc : s.machine.registers.pc = arrival 512 path

omit [TimeScale τ] in
theorem follows_powerOn (host : Host τ) : (System.powerOn host).Follows [] := ⟨rfl, trivial, rfl⟩

omit [TimeScale τ] in
theorem Follows.stays {s t : System τ} {path : List Snapshot} (h : s.Follows path)
    (ht : Action.Stays s t) : t.Follows path :=
  ⟨ht.trace.trans h.trace, h.contiguous, ht.pc.trans h.pc⟩

/-- What a step carries out is the next place on the path. -/
theorem Follows.step {s : System τ} {path : List Snapshot} (hs : s.machine.WellFormed)
    (h : s.Follows path) : (s.after .step).Follows (path ++ s.answer.toList) := by
  cases hanswer : s.answer with
  | none =>
    rw [Option.toList_none, List.append_nil]
    exact h.stays (Action.step_idle hs hanswer)
  | some snapshot =>
    obtain ⟨htrace, hpc, a, ha, haddress, -⟩ :=
      Action.step_carried_trace (ok_of_answer hanswer)
    refine ⟨?_, ?_, ?_⟩
    · rw [htrace, h.trace]
      exact (traceOf_append path snapshot).symm
    · exact h.contiguous.append (by rw [haddress, ← ha, h.pc])
    · rw [hpc]
      exact (arrival_append 512 path snapshot).symm

theorem Follows.after {s : System τ} {path : List Snapshot} (hs : s.machine.WellFormed)
    (h : s.Follows path) (o : Operation) : (s.after o).Follows (s.pathAfter path o) := by
  cases o with
  | step => exact h.step hs
  | reset =>
    obtain ⟨htrace, hregisters⟩ := started_over (o := .reset) rfl s
    exact ⟨htrace, trivial, congrArg Registers.pc hregisters⟩
  | resetAndLoad data =>
    obtain ⟨htrace, hregisters⟩ := started_over (o := .resetAndLoad data) rfl s
    exact ⟨htrace, trivial, congrArg Registers.pc hregisters⟩
  | loadRom | setKey | setShiftSecond | setDrawOnBlank | setForeground | setBackground =>
    exact h.stays (stays_after rfl s)

/-- **Every history keeps the trace the end of a contiguous path.** -/
theorem follows_afterAll (operations : List Operation) : ∀ {s : System τ} {before : List Snapshot},
    s.machine.WellFormed → s.Follows before →
    (s.afterAll operations).Follows (s.path before operations) := by
  induction operations with
  | nil => exact fun _ h => h
  | cons o operations ih => exact fun hs h => ih (hs.after o) (h.after hs o)

end System

end Chip8
