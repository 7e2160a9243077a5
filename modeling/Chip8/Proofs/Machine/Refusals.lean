import Chip8.Proofs.Clock.Exact
import Chip8.Proofs.Machine.History

/-!
# When a step fails

`System.Refuses` lists the reasons for which an instruction fails, each with the fault that it
fails with: no free or no used stack slot, a register that names no key, and a sweep past the end
of memory.  `execute_fails_iff` says that the list is complete and exact, and `step_fails_iff`
carries that over to steps, where there is one reason more: a word of which only the first byte
is in memory.

A drawing is refused by where its rows lie in memory alone.  Rows that would be clipped off the
screen are read like all others.
-/

namespace Chip8

variable {τ : Type}

namespace Action

/-- An action fails with a fault. -/
def FailsWith {α : Type} (act : Action τ α) (s : System τ) (f : Fault) : Prop :=
  ∃ t, act s = .error f t

section

variable {α : Type} {act : Action τ α} {s t : System τ} {a : α} {f e : Fault}

theorem not_failsWith_of_ok (h : act s = .ok a t) : ¬ act.FailsWith s f := by
  rintro ⟨u, hu⟩
  rw [h] at hu
  cases hu

theorem failsWith_iff_of_error (h : act s = .error e t) : act.FailsWith s f ↔ f = e := by
  constructor
  · rintro ⟨u, hu⟩
    rw [h] at hu
    cases hu
    rfl
  · rintro rfl
    exact ⟨t, h⟩

/-- A sweep fails if it has a cell past the end of memory. -/
theorem failsWith_iff_of_sweep {first : Int} {count : Nat}
    (h : act s = endOfSweep first count a t) :
    act.FailsWith s f ↔
      0 < count ∧ 4096 < first + count ∧ f = .addressOutOfBounds (max 4096 first) := by
  by_cases hin : count = 0 ∨ first + count ≤ 4096
  · rw [endOfSweep, if_pos hin] at h
    constructor
    · intro hf
      exact absurd hf (not_failsWith_of_ok h)
    · rintro ⟨hpos, hout, _⟩
      omega
  · rw [endOfSweep, if_neg hin] at h
    rw [failsWith_iff_of_error h]
    constructor
    · intro hf
      exact ⟨by omega, by omega, hf⟩
    · exact fun hf => hf.2.2

end

end Action

/-! ## Instructions -/

/-- Why an instruction fails, and how. -/
inductive System.Refuses [TimeScale τ] (s : System τ) : Instruction → Fault → Prop
  /-- A call needs a free slot. -/
  | call (target : Fin 4096) (full : s.machine.registers.sp = 16) :
    Refuses s (.call target) (.stackOverflow s.machine.registers.pc)
  /-- A return needs a slot in use. -/
  | ret (empty : s.machine.registers.sp = 0) :
    Refuses s .ret (.stackUnderflow s.machine.registers.pc)
  /-- A register names a key only up to fifteen. -/
  | skipPressed (x : Fin 16) (noKey : 15 < s.machine.registers.get x) :
    Refuses s (.skipPressed x) (.keyOutOfRange (s.machine.registers.get x))
  | skipReleased (x : Fin 16) (noKey : 15 < s.machine.registers.get x) :
    Refuses s (.skipReleased x) (.keyOutOfRange (s.machine.registers.get x))
  /-- Three digits need three cells. -/
  | decimal (x : Fin 16) (out : 4093 < s.machine.registers.index) :
    Refuses s (.decimal x) (.addressOutOfBounds (max 4096 s.machine.registers.index))
  /-- The registers up to a register need a cell each. -/
  | store (x : Fin 16) (out : 4095 < s.machine.registers.index + x.val) :
    Refuses s (.store x) (.addressOutOfBounds (max 4096 s.machine.registers.index))
  | load (x : Fin 16) (out : 4095 < s.machine.registers.index + x.val) :
    Refuses s (.load x) (.addressOutOfBounds (max 4096 s.machine.registers.index))
  /-- And so does each row of a sprite, if it is drawn now. -/
  | draw (x y rows : Fin 16) (now : s.drawStalls = false) (some : 0 < rows.val)
      (out : 4096 < s.machine.registers.index + rows.val) :
    Refuses s (.draw x y rows) (.addressOutOfBounds (max 4096 s.machine.registers.index))

/-- An instruction fails in at most one way. -/
theorem System.Refuses.unique [TimeScale τ] {s : System τ} {i : Instruction} {e f : Fault}
    (he : s.Refuses i e) (hf : s.Refuses i f) : f = e := by
  cases he <;> cases hf <;> rfl

namespace Action

variable [TimeScale τ]

section

variable {i : Instruction} {s t : System τ} {o : Outcome}

theorem exact_of_ok (h : execute i s = .ok o t) (hnot : ∀ f, ¬ s.Refuses i f) (f : Fault) :
    (execute i).FailsWith s f ↔ s.Refuses i f := by
  constructor
  · intro hf
    exact absurd hf (not_failsWith_of_ok h)
  · intro hf
    exact absurd hf (hnot f)

theorem exact_of_error {e : Fault} (h : execute i s = .error e t) (he : s.Refuses i e) (f : Fault) :
    (execute i).FailsWith s f ↔ s.Refuses i f := by
  rw [failsWith_iff_of_error h]
  constructor
  · rintro rfl
    exact he
  · exact he.unique

end

/-- **An instruction fails exactly for the reasons listed**, with the fault listed. -/
theorem execute_fails_iff (i : Instruction) {s : System τ} (hr : s.machine.registers.InRange)
    (f : Fault) : (execute i).FailsWith s f ↔ s.Refuses i f := by
  have hsp := hr.sp
  by_cases hplain : i.isPlain = true
  · obtain ⟨o, v, index, host, hrun, -, -⟩ := execute_plain hplain hr
    refine exact_of_ok hrun ?_ f
    intro f hf
    cases hf <;> cases hplain
  · cases i with
    | clear => exact exact_of_ok (execute_clear s) nofun f
    | ret =>
      by_cases h : s.machine.registers.sp ≤ 0
      · exact exact_of_error (execute_ret_empty h) (.ret (by omega)) f
      · obtain ⟨slot, hslot, hrun⟩ := execute_ret hr (by omega)
        refine exact_of_ok hrun ?_ f
        rintro f ⟨⟩
        omega
    | call target =>
      by_cases h : 16 ≤ s.machine.registers.sp
      · exact exact_of_error (execute_call_full target h) (.call target (by omega)) f
      · obtain ⟨slot, hslot, hrun⟩ := execute_call target hr (by omega)
        refine exact_of_ok hrun ?_ f
        rintro f ⟨⟩
        omega
    | skipPressed x =>
      rcases key_or_outside hr x with h | ⟨key, h⟩
      · exact exact_of_error (i := .skipPressed x) (skipOnKey_outside true h) (.skipPressed x h) f
      · refine exact_of_ok (i := .skipPressed x) (skipOnKey_inside true h) ?_ f
        rintro f ⟨⟩
        omega
    | skipReleased x =>
      rcases key_or_outside hr x with h | ⟨key, h⟩
      · exact exact_of_error (i := .skipReleased x) (skipOnKey_outside false h) (.skipReleased x h) f
      · refine exact_of_ok (i := .skipReleased x) (skipOnKey_inside false h) ?_ f
        rintro f ⟨⟩
        omega
    | awaitKey x => exact exact_of_ok (execute_awaitKey x s) nofun f
    | setDelay x => exact exact_of_ok (i := .setDelay x) (startTimer_eq .delay x hr) nofun f
    | setSound x => exact exact_of_ok (i := .setSound x) (startTimer_eq .sound x hr) nofun f
    | decimal x =>
      obtain ⟨memory, accesses, hrun⟩ := execute_decimal x hr
      rw [failsWith_iff_of_sweep hrun]
      constructor
      · rintro ⟨_, hout, rfl⟩
        exact .decimal x (by omega)
      · rintro ⟨⟩
        exact ⟨by omega, by omega, rfl⟩
    | store x =>
      obtain ⟨memory, accesses, index, -, hrun⟩ := execute_store x hr
      rw [failsWith_iff_of_sweep hrun]
      constructor
      · rintro ⟨_, hout, rfl⟩
        exact .store x (by omega)
      · rintro ⟨⟩
        exact ⟨by omega, by omega, rfl⟩
    | load x =>
      obtain ⟨v, accesses, index, -, hrun⟩ := execute_load x hr
      rw [failsWith_iff_of_sweep hrun]
      constructor
      · rintro ⟨_, hout, rfl⟩
        exact .load x (by omega)
      · rintro ⟨⟩
        exact ⟨by omega, by omega, rfl⟩
    | draw x y rows =>
      cases hstall : s.drawStalls with
      | true =>
        refine exact_of_ok (execute_draw_stalled x y rows hstall) ?_ f
        intro f hf
        cases hf with
        | draw _ _ _ hnow _ _ =>
          rw [hstall] at hnow
          cases hnow
      | false =>
        obtain ⟨v, cells, accesses, display, hrun, -, -⟩ := execute_draw x y rows hr hstall
        rw [failsWith_iff_of_sweep hrun]
        constructor
        · rintro ⟨hsome, hout, rfl⟩
          exact .draw x y rows hstall hsome hout
        · rintro ⟨⟩
          exact ⟨by omega, by omega, rfl⟩
    | _ => exact absurd rfl hplain

end Action

/-! ## Steps -/

namespace System

variable [TimeScale τ]

/-- Only the registers and the wait of a drawing decide whether an instruction fails. -/
theorem Refuses.congr {s t : System τ} {i : Instruction} {f : Fault}
    (hr : t.machine.registers = s.machine.registers) (hd : t.drawStalls = s.drawStalls)
    (h : s.Refuses i f) : t.Refuses i f := by
  cases h with
  | call target full =>
    rw [← hr] at full ⊢
    exact .call target full
  | ret empty =>
    rw [← hr] at empty ⊢
    exact .ret empty
  | skipPressed x noKey =>
    rw [← hr] at noKey ⊢
    exact .skipPressed x noKey
  | skipReleased x noKey =>
    rw [← hr] at noKey ⊢
    exact .skipReleased x noKey
  | decimal x out =>
    rw [← hr] at out ⊢
    exact .decimal x out
  | store x out =>
    rw [← hr] at out ⊢
    exact .store x out
  | load x out =>
    rw [← hr] at out ⊢
    exact .load x out
  | draw x y rows now some out =>
    rw [← hr] at out ⊢
    exact .draw x y rows (hd.trans now) some out

theorem refuses_fetched {s : System τ} (a : Fin 4095) {i : Instruction} {f : Fault} :
    (s.fetched a).Refuses i f ↔ s.Refuses i f := ⟨.congr rfl rfl, .congr rfl rfl⟩

end System

/-- Why a step that gets as far as an instruction fails, and how: memory ends in the middle of the
word, or the instruction fails on the registers which the awaited key was delivered to. -/
inductive System.StepRefuses [TimeScale τ] (s : System τ) : Fault → Prop
  | edge (last : s.machine.registers.pc = 4095) : StepRefuses s (.addressOutOfBounds 4096)
  | instruction (a : Fin 4095) (atWord : s.machine.registers.pc = (a.val : Int)) (f : Fault)
      (refused : s.prepared.Refuses (Instruction.decode (s.machine.memory.word a)) f) :
    StepRefuses s f

namespace Action

variable [TimeScale τ]

/-- Every fault of a step is a violation of bounds or a stack that is full or empty. -/
theorem name_of_stepRefuses {s : System τ} {f : Fault} (h : s.StepRefuses f) :
    f.name = "BoundsViolationError" ∨ f.name = "StackOverflowError" ∨
      f.name = "StackUnderflowError" := by
  cases h with
  | edge last => exact .inl rfl
  | instruction a atWord f refused =>
    generalize Instruction.decode (s.machine.memory.word a) = i at refused
    cases refused with
    | call => exact .inr (.inl rfl)
    | ret => exact .inr (.inr rfl)
    | skipPressed | skipReleased | decimal | store | load | draw => exact .inl rfl

theorem step_failsWith_iff {s : System τ} (hs : s.machine.WellFormed) (f : Fault) :
    step.FailsWith s f ↔
      s.machine.keypad.waiting = false ∧ s.machine.registers.pc < 4096 ∧ s.StepRefuses f := by
  rcases step_cases s hs.registers.pc.1 with
    ⟨hw, hrun⟩ | ⟨hw, hpc, hrun⟩ | ⟨hw, hpc, hrun⟩ | ⟨a, hw, hpc, hrun⟩
  · constructor
    · intro hf
      exact absurd hf (not_failsWith_of_ok hrun)
    · rintro ⟨hactive, -⟩
      rw [hw] at hactive
      cases hactive
  · constructor
    · intro hf
      exact absurd hf (not_failsWith_of_ok hrun)
    · rintro ⟨-, hlt, -⟩
      omega
  · rw [failsWith_iff_of_error hrun]
    constructor
    · rintro rfl
      exact ⟨hw, by omega, .edge hpc⟩
    · rintro ⟨-, -, hf⟩
      cases hf with
      | edge => rfl
      | instruction a atWord => omega
  · have hr : (s.prepared.fetched a).machine.registers.InRange := hs.registers.deliver _
    have hexecute := execute_fails_iff (Instruction.decode (s.machine.memory.word a)) hr f
    rw [System.refuses_fetched] at hexecute
    simp only [FailsWith, hrun, finish_eq_error] at hexecute ⊢
    rw [hexecute]
    constructor
    · intro hf
      exact ⟨hw, by omega, .instruction a hpc f hf⟩
    · rintro ⟨-, -, hf⟩
      cases hf with
      | edge last => omega
      | instruction b atWord _ refused =>
        have hab : b = a := Fin.ext (by omega)
        exact hab ▸ refused

/-- **When a step fails.**  In a state that some history leads to, a step fails with a fault
exactly if no key is awaited, the program counter is in memory, and the fault is one of those
that `System.StepRefuses` lists; all of these are violations of bounds or stack faults. -/
theorem step_fails_iff {s : System τ} (hs : s.Reachable) :
    (∀ f, (∃ t, step s = .error f t) ↔
      s.machine.keypad.waiting = false ∧ s.machine.registers.pc < 4096 ∧ s.StepRefuses f) ∧
    ∀ f t, step s = .error f t → f.name = "BoundsViolationError" ∨
      f.name = "StackOverflowError" ∨ f.name = "StackUnderflowError" := by
  have hexact := step_failsWith_iff hs.wellFormed
  refine ⟨hexact, ?_⟩
  intro f t hrun
  obtain ⟨-, -, hf⟩ := (hexact f).1 ⟨t, hrun⟩
  exact name_of_stepRefuses hf

/-- A machine whose program starts with a return. -/
def strayReturn : System Rat :=
  (System.powerOn (Host.still 0 fun _ => 0)).after (.loadRom #[0x00, 0xEE])

/-- The first step of a program that starts with a return fails. -/
theorem step_strayReturn :
    strayReturn.Reachable ∧ ∃ t, step strayReturn = .error (.stackUnderflow 512) t := by
  have hreach : strayReturn.Reachable := (System.reachable_powerOn _).after _
  have hmemory : strayReturn.machine.memory = Memory.blank.loadRom #[0x00, 0xEE] := rfl
  have hword : strayReturn.machine.memory.word 512 = 0xEE := by
    rw [hmemory, Memory.word, Memory.get_loadRom, Memory.get_loadRom]
    rfl
  have hret : Instruction.decode (strayReturn.machine.memory.word 512) = .ret := by
    rw [hword]
    decide
  refine ⟨hreach, ((step_fails_iff hreach).1 _).2 ⟨rfl, by decide, ?_⟩⟩
  refine .instruction 512 rfl _ ?_
  rw [hret]
  exact .ret rfl

end Action

end Chip8
