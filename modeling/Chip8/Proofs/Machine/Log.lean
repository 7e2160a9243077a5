import Chip8.Proofs.Machine.Moves

/-!
# Logs of memory

The record of accesses tells all that happened to memory: the accesses can be made once more, and
they can be taken back.

* `Memory.redo`, `Memory.undo` — making accesses once more, and taking them back in reverse order;
* `Memory.Logs` — accesses that hold what the memory held when they were made, and `undo_redo`;
* `execute_logged` — **an instruction records what it does to memory**, whether it succeeds or fails.
-/

namespace Chip8

/-! ## Logs -/

/-- What an access does to memory. -/
def Access.redo (m : Memory) : Access → Memory
  | .read .. => m
  | .write a data _ => m.set a data

/-- What takes an access back. -/
def Access.undo (m : Memory) : Access → Memory
  | .read .. => m
  | .write a _ previous => m.set a previous

/-- A read holds the value in memory, and a write the value which it replaces. -/
def Access.Fits (m : Memory) : Access → Prop
  | .read a data => data = m.get a
  | .write a _ previous => previous = m.get a

namespace Memory

/-- Memory after accesses are made once more, in order. -/
def redo (m : Memory) (log : List Access) : Memory := log.foldl Access.redo m

/-- Memory after accesses are taken back, the last one first. -/
def undo (m : Memory) (log : List Access) : Memory := log.foldr (fun access m => access.undo m) m

/-- Accesses that were made to memory: each holds what the memory held by then. -/
def Logs (m : Memory) : List Access → Prop
  | [] => True
  | access :: log => access.Fits m ∧ (access.redo m).Logs log

theorem redo_append (m : Memory) (log more : List Access) :
    m.redo (log ++ more) = (m.redo log).redo more := List.foldl_append

theorem Logs.append {m : Memory} {log more : List Access} (h : m.Logs log)
    (hmore : (m.redo log).Logs more) : m.Logs (log ++ more) := by
  induction log generalizing m with
  | nil => exact hmore
  | cons access log ih => exact ⟨h.1, ih h.2 hmore⟩

/-- Putting back what a write replaced. -/
theorem set_set_get (m : Memory) (a : Fin 4096) (data : UInt8) :
    (m.set a data).set a (m.get a) = m := by
  refine Memory.ext fun b => ?_
  rw [get_set, get_set]
  by_cases hab : a = b
  · rw [if_pos hab, hab]
  · rw [if_neg hab, if_neg hab]

theorem undo_redo_one {m : Memory} {access : Access} (h : access.Fits m) :
    access.undo (access.redo m) = m := by
  cases access with
  | read a data => rfl
  | write a data previous =>
    show (m.set a data).set a previous = m
    rw [show previous = m.get a from h, set_set_get]

/-- **What was made can be taken back.** -/
theorem undo_redo {m : Memory} {log : List Access} (h : m.Logs log) :
    (m.redo log).undo log = m := by
  induction log generalizing m with
  | nil => rfl
  | cons access log ih =>
    show access.undo (((access.redo m).redo log).undo log) = m
    rw [ih h.2, undo_redo_one h.1]

end Memory

namespace Action

variable {τ α : Type}

/-! ## Instructions -/

/-- The accesses that were recorded between two states are what happened to memory. -/
def Logged (s t : System τ) : Prop :=
  ∃ more : List Access, t.machine.accesses.toList = s.machine.accesses.toList ++ more ∧
    s.machine.memory.Logs more ∧ t.machine.memory = s.machine.memory.redo more

section Logged

variable {s t u : System τ}

theorem logged_nil (haccesses : t.machine.accesses = s.machine.accesses)
    (hmemory : t.machine.memory = s.machine.memory) : Logged s t := by
  refine ⟨[], ?_, trivial, hmemory⟩
  rw [haccesses, List.append_nil]

theorem Logged.trans (hst : Logged s t) (htu : Logged t u) : Logged s u := by
  obtain ⟨more, haccesses, hlogs, hmemory⟩ := hst
  obtain ⟨more', haccesses', hlogs', hmemory'⟩ := htu
  rw [hmemory] at hlogs' hmemory'
  refine ⟨more ++ more', ?_, hlogs.append hlogs', ?_⟩
  · rw [haccesses', haccesses, List.append_assoc]
  · rw [hmemory', Memory.redo_append]

theorem logged_read (s : System τ) (a : Fin 4096) : Logged s (hasRead s a) :=
  ⟨[.read a (s.machine.memory.get a)], Array.toList_push, ⟨rfl, trivial⟩, rfl⟩

theorem logged_write (s : System τ) (a : Fin 4096) (b : UInt8) : Logged s (hasWritten s a b) :=
  ⟨[.write a b (s.machine.memory.get a)], Array.toList_push, ⟨rfl, trivial⟩, rfl⟩

theorem logged_fetched (s : System τ) (a : Fin 4095) : Logged s (s.fetched a) :=
  (logged_read s _).trans (logged_read _ _)

end Logged

variable [TimeScale τ]

theorem motion_logged : Motion (Logged : System τ → System τ → Prop) where
  refl _ := logged_nil rfl rfl
  trans := Logged.trans
  registers _ _ _ := logged_nil rfl rfl
  screen _ _ := logged_nil rfl rfl
  timer _ _ _ := logged_nil rfl rfl
  ticked _ := logged_nil rfl rfl
  noted _ _ := logged_nil rfl rfl
  drawn _ := logged_nil rfl rfl
  read := logged_read
  write := logged_write

/-- **An instruction records what it does to memory**, whether it succeeds or fails. -/
theorem execute_logged (i : Instruction) (s : System τ) : Logged s (stateOf (execute i s)) :=
  execute_moves motion_logged i (.inr fun _ _ => logged_nil rfl rfl) s

theorem logged_of_ok {i : Instruction} {s t : System τ} {o : Outcome}
    (h : execute i s = .ok o t) : Logged s t := by
  have hlogged := execute_logged i s
  rw [h] at hlogged
  exact hlogged

end Action

end Chip8
