import Chip8.Proofs.Machine.Idling
import Chip8.Proofs.Machine.Requests

/-!
# The accesses of a run

A snapshot holds the accesses of its step, and the accesses of a run are those of its snapshots, one
after the other.  Nothing else gets into them, and nothing that happens to memory is missing.

* `step_carried_logged` — what one step that carries something out adds to the log;
* `Run` — steps of which none fails, with what the host may do between them;
* `run_logged` — **the accesses of a run are an exact log of its memory**.
-/

namespace Chip8

namespace Action

variable {τ : Type} [TimeScale τ]

/-! ## Steps -/

/-- **What a step adds to the log that carries something out**: reads of the word at the program
counter, and then the accesses which its instruction requests, and they are what happened to
memory. -/
theorem step_carried_logged {s t : System τ} (hs : s.machine.WellFormed) {snapshot : Snapshot}
    (h : step s = .ok (some snapshot) t) :
    (∃ a : Fin 4095, s.machine.registers.pc = (a.val : Int) ∧
      snapshot.instruction = Instruction.decode (s.machine.memory.word a) ∧
      snapshot.accesses.toList.map Access.request =
        .read a.val :: .read (a.val + 1) ::
          snapshot.instruction.requests s.prepared.machine.registers) ∧
    s.machine.memory.Logs snapshot.accesses.toList ∧
      t.machine.memory = s.machine.memory.redo snapshot.accesses.toList := by
  obtain ⟨a, o, u, next, ha, hrun, hnext, rfl, ht⟩ := step_carried h
  have hr : (s.prepared.fetched a).machine.registers.InRange := hs.registers.deliver _
  have hfetched : Requested s.prepared [.read a.val, .read (a.val + 1)] (s.prepared.fetched a) :=
    (requested_read _ _).trans (requested_read _ _)
  have hgoesOn : o.update ≠ .stall := by
    intro hstall
    rw [hstall] at hnext
    cases hnext
  have hexecuted := execute_requests hr hrun
  rw [if_neg hgoesOn] at hexecuted
  refine ⟨⟨a, ha, rfl, hfetched.trans hexecuted⟩, ?_⟩
  obtain ⟨more, haccesses, hlogs, hmemory⟩ :=
    (logged_fetched s.prepared a).trans (logged_of_ok hrun)
  have hmore : u.machine.accesses.toList = more := haccesses
  rw [ht]
  show s.machine.memory.Logs u.machine.accesses.toList ∧ u.machine.memory = _
  rw [hmore]
  exact ⟨hlogs, hmemory⟩

end Action

/-! ## Runs -/

variable {τ : Type}

/-- What the host can do between two steps without writing to memory. -/
structure Interlude (s t : System τ) : Prop where
  memory : t.machine.memory = s.machine.memory
  wellFormed : s.machine.WellFormed → t.machine.WellFormed

/-- The host may read memory, and the access is recorded. -/
theorem interlude_read (address : Int) (s : System τ) :
    Interlude s (Action.stateOf (Action.read address s)) := by
  by_cases hin : 0 ≤ address ∧ address < 4096
  · obtain ⟨a, ha⟩ := Action.exists_cell hin
    rw [Action.read_cell ha]
    exact ⟨rfl, fun hs => { hs with }⟩
  · rw [Action.read_outside hin]
    exact ⟨rfl, id⟩

variable [TimeScale τ]

/-- A run of steps of which none fails, what they carried out, and the state that it leads to.
Between the steps the host may do what does not write to memory. -/
inductive Run (s : System τ) : List Snapshot → System τ → Prop
  | start : Run s [] s
  | step {snapshots : List Snapshot} {t u : System τ} {a : Option Snapshot}
      (before : Run s snapshots t) (h : Action.step t = .ok a u) : Run s (snapshots ++ a.toList) u
  | pause {snapshots : List Snapshot} {t u : System τ} (before : Run s snapshots t)
      (h : Interlude t u) : Run s snapshots u

/-- The accesses of snapshots, one after the other. -/
def accessLog (snapshots : List Snapshot) : List Access :=
  snapshots.flatMap fun snapshot => snapshot.accesses.toList

namespace Run

variable {s u : System τ} {snapshots : List Snapshot}

theorem wellFormed (hs : s.machine.WellFormed) (h : Run s snapshots u) :
    u.machine.WellFormed := by
  induction h with
  | start => exact hs
  | step before h ih =>
    have hkept := ih.after .step
    rw [System.after_of_ok h] at hkept
    exact hkept
  | pause before h ih => exact h.wellFormed ih

/-- What the snapshots of a run hold is what happened to memory. -/
theorem logs (hs : s.machine.WellFormed) (h : Run s snapshots u) :
    s.machine.memory.Logs (accessLog snapshots) ∧
      u.machine.memory = s.machine.memory.redo (accessLog snapshots) := by
  induction h with
  | start => exact ⟨trivial, rfl⟩
  | @step snapshots t u a before h ih =>
    have ht := before.wellFormed hs
    cases a with
    | none =>
      rw [Option.toList_none, List.append_nil, (System.idled_of_ok ht h).memory]
      exact ih
    | some snapshot =>
      obtain ⟨-, hlogs, hmemory⟩ := Action.step_carried_logged ht h
      have hlog : accessLog (snapshots ++ (some snapshot).toList) =
          accessLog snapshots ++ snapshot.accesses.toList := by
        rw [accessLog, List.flatMap_append]
        exact congrArg _ (List.append_nil _)
      rw [ih.2] at hlogs hmemory
      rw [hlog, hmemory, Memory.redo_append]
      exact ⟨ih.1.append hlogs, rfl⟩
  | pause before h ih =>
    rw [h.memory]
    exact ih

end Run

/-- **The accesses of a run are an exact log of its memory**, from every state that a history leads
to.

Each read of the log holds the value which memory had by then, making the accesses once more leads
from the memory at the start to the memory at the end, and taking them back leads from the end to the
start.  And at every point of the run, what the next step carries out holds just the reads of its
word and then the accesses of its instruction, which are known from the registers with which the
instruction started. -/
theorem run_logged {s u : System τ} {snapshots : List Snapshot} (hs : s.Reachable)
    (h : Run s snapshots u) :
    (s.machine.memory.Logs (accessLog snapshots) ∧
      s.machine.memory.redo (accessLog snapshots) = u.machine.memory ∧
      u.machine.memory.undo (accessLog snapshots) = s.machine.memory) ∧
    ∀ snapshot t, Action.step u = .ok (some snapshot) t →
      ∃ a : Fin 4095, u.machine.registers.pc = (a.val : Int) ∧
        snapshot.instruction = Instruction.decode (u.machine.memory.word a) ∧
        snapshot.accesses.toList.map Access.request =
          .read a.val :: .read (a.val + 1) ::
            snapshot.instruction.requests u.prepared.machine.registers := by
  obtain ⟨hlogs, hmemory⟩ := h.logs hs.wellFormed
  refine ⟨⟨hlogs, hmemory.symm, ?_⟩, ?_⟩
  · rw [hmemory]
    exact Memory.undo_redo hlogs
  · intro snapshot t hstep
    exact (Action.step_carried_logged (h.wellFormed hs.wellFormed) hstep).1

/-- A machine whose program stores a register over the first glyph. -/
def storing : System Rat := .started (Host.still 0 fun _ => 0) #[0xF0, 0x55]

/-- The host reads the program, and that read does not get into the log of the step after it. -/
theorem run_logged_storing : storing.Reachable ∧
    ∃ snapshot t, Run storing [snapshot] t ∧
      t.machine.memory.undo snapshot.accesses.toList = storing.machine.memory ∧
      snapshot.accesses.toList.map Access.request = [.read 512, .read 513, .write 0 0] := by
  have hreach : storing.Reachable := System.reachable_started _ _
  refine ⟨hreach, ?_⟩
  have hword : storing.machine.memory.word 512 = 0xF055 :=
    Memory.word_loadRom _ _ (k := 0) rfl
  have hdecode : Instruction.decode (storing.machine.memory.word 512) = .store 0 := by
    rw [hword]
    decide
  have hread : Action.read 512 storing = .ok _ (Action.hasRead storing 512) :=
    Action.read_cell (show (512 : Int) = ((512 : Fin 4096).val : Int) from rfl) storing
  have hpaused : Run storing [] (Action.hasRead storing 512) := by
    have hpause := Run.start.pause (interlude_read 512 storing)
    rw [hread] at hpause
    exact hpause
  have hstep : ∃ snapshot t,
      Action.step (Action.hasRead storing 512) = .ok (some snapshot) t := by
    have hinside := Action.step_inside (s := Action.hasRead storing 512) (a := 512) rfl rfl
    have hdecode' : Instruction.decode
        ((Action.hasRead storing 512).machine.memory.word 512) = .store 0 := hdecode
    have hr := (hpaused.wellFormed hreach.wellFormed).registers
    obtain ⟨memory, accesses, index, -, hstore⟩ :=
      Action.execute_store 0 (s := (Action.hasRead storing 512).prepared.fetched 512) hr
    have hok := hstore.trans (if_pos (.inr (by decide)))
    rw [hdecode', hok] at hinside
    exact ⟨_, _, hinside⟩
  obtain ⟨snapshot, t, hstep⟩ := hstep
  have hrun : Run storing [snapshot] t := hpaused.step hstep
  refine ⟨snapshot, t, hrun, ?_, ?_⟩
  · have hundo := (run_logged hreach hrun).1.2.2
    rw [accessLog, List.flatMap_singleton] at hundo
    exact hundo
  · obtain ⟨a, ha, hinstruction, haccesses⟩ := (run_logged hreach hpaused).2 snapshot t hstep
    have hplace : (512 : Int) = a.val := ha
    obtain rfl : a = 512 := Fin.ext (Int.ofNat.inj hplace.symm)
    rw [hinstruction.trans hdecode] at haccesses
    exact haccesses

end Chip8
