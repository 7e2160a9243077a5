import Chip8.Proofs.Machine.Log

/-!
# What a snapshot tells

* `step_eq_finish`, `finish_carried`, `step_carried` — the stages of a step that carries something
  out, in any state;
* `step_idle_cases` — the five ways in which a step carries nothing out;
* `step_snapshot` — what its snapshot is worth: the registers are those of the machine after the
  step, and the accesses are those of the step alone, which begin with the fetch.
-/

namespace Chip8

namespace Action

variable {τ : Type}

/-- A word is fetched from two cells, or the fetch fails. -/
theorem fetch_cases (address : Int) (s : System τ) :
    (∃ a : Fin 4095, address = (a.val : Int)) ∨ ∃ f t, fetch address s = .error f t := by
  by_cases hlow : 0 ≤ address ∧ address < 4096
  · by_cases hedge : address = 4095
    · right
      rw [hedge]
      exact ⟨_, _, fetch_edge s⟩
    · left
      exact ⟨⟨address.toNat, by omega⟩, by simp only; omega⟩
  · right
    exact ⟨_, _, by rw [fetch, bind_of_error (read_outside hlow s)]⟩

variable [TimeScale τ]

omit [TimeScale τ] in
/-- What follows an instruction that is carried out. -/
theorem finish_carried {place word : Int} {i : Instruction}
    {r : EStateM.Result Fault (System τ) Outcome} {snapshot : Snapshot} {t : System τ}
    (h : finish place word i r = .ok (some snapshot) t) :
    ∃ (o : Outcome) (u : System τ) (next : Int), r = .ok o u ∧
      followUp u.machine.registers.pc o.update = some next ∧
      snapshot = ⟨{ u.machine.registers with pc := next }, i, ⟨place, word, o.display⟩,
        u.machine.accesses⟩ ∧
      t = { machine := { u.machine.remember snapshot.entry with
              registers := snapshot.registers
              accesses := #[] }
            host := u.host.note (.executed u.machine.registers.pc word o.display) } := by
  cases r with
  | error f u => cases h
  | ok o u =>
    rw [finish] at h
    cases hnext : followUp u.machine.registers.pc o.update with
    | none =>
      rw [hnext] at h
      cases h
    | some next =>
      rw [hnext] at h
      cases h
      exact ⟨o, u, next, rfl, hnext, rfl, rfl⟩

/-- Only a word that is in memory is carried out. -/
theorem step_eq_finish {s t : System τ} {snapshot : Snapshot}
    (h : step s = .ok (some snapshot) t) :
    ∃ a : Fin 4095, s.machine.registers.pc = (a.val : Int) ∧
      finish a.val (s.machine.memory.word a) (Instruction.decode (s.machine.memory.word a))
        (execute (Instruction.decode (s.machine.memory.word a)) (s.prepared.fetched a)) =
          .ok (some snapshot) t := by
  have hactive : s.machine.keypad.waiting = false := by
    cases hw : s.machine.keypad.waiting with
    | false => rfl
    | true =>
      rw [step_waiting hw] at h
      cases h
  rw [step_active hactive] at h
  by_cases hhalt : 4096 ≤ s.machine.registers.pc
  · rw [if_pos hhalt] at h
    cases h
  · rw [if_neg hhalt] at h
    rcases fetch_cases s.prepared.machine.registers.pc s.prepared with ⟨a, ha⟩ | ⟨f, u, hfetch⟩
    · rw [runInstruction_inside ha] at h
      exact ⟨a, (System.prepared_pc s).symm.trans ha, h⟩
    · rw [runInstruction_eq, hfetch] at h
      cases h

/-- **How a step goes that carries something out**, in any state: the word at the program counter is
fetched and its instruction succeeds, and what the instruction left is followed up and
remembered. -/
theorem step_carried {s t : System τ} {snapshot : Snapshot}
    (h : step s = .ok (some snapshot) t) :
    ∃ (a : Fin 4095) (o : Outcome) (u : System τ) (next : Int),
      s.machine.registers.pc = (a.val : Int) ∧
      execute (Instruction.decode (s.machine.memory.word a)) (s.prepared.fetched a) = .ok o u ∧
      followUp u.machine.registers.pc o.update = some next ∧
      snapshot = ⟨{ u.machine.registers with pc := next },
        Instruction.decode (s.machine.memory.word a),
        ⟨a.val, s.machine.memory.word a, o.display⟩, u.machine.accesses⟩ ∧
      t.machine = { u.machine.remember snapshot.entry with
        registers := snapshot.registers
        accesses := #[] } := by
  obtain ⟨a, ha, hfinish⟩ := step_eq_finish h
  obtain ⟨o, u, next, hrun, hnext, hsnapshot, rfl⟩ := finish_carried hfinish
  exact ⟨a, o, u, next, ha, hrun, hnext, hsnapshot, rfl⟩

/-- Only a stall is not followed up. -/
theorem update_of_followUp {pc : Int} {update : PcUpdate} (h : followUp pc update = none) :
    update = .stall := by
  cases update with
  | stall => rfl
  | advance | skip | jump => cases h

/-- **How a step goes that carries nothing out**: it waits, it halts, there is no whole word to
fetch, or its instruction fails or stalls. -/
theorem step_idle_cases {s : System τ} (hpc : 0 ≤ s.machine.registers.pc)
    (h : ∀ snapshot t, step s ≠ .ok (some snapshot) t) :
    step s = .ok none s.opened ∨ step s = .ok none s.prepared ∨
    step s = .error (.addressOutOfBounds 4096) (hasRead s.prepared (Fin.last 4095)) ∨
    ∃ (i : Instruction) (a : Fin 4095) (u : System τ),
      (∃ f, execute i (s.prepared.fetched a) = .error f u ∧ step s = .error f u) ∨
      ∃ o host, execute i (s.prepared.fetched a) = .ok o u ∧ o.update = .stall ∧
        step s = .ok none { u with host := host } := by
  rcases step_cases s hpc with ⟨-, hrun⟩ | ⟨-, -, hrun⟩ | ⟨-, -, hrun⟩ | ⟨a, -, -, hrun⟩
  · exact .inl hrun
  · exact .inr (.inl hrun)
  · exact .inr (.inr (.inl hrun))
  · refine .inr (.inr (.inr ⟨Instruction.decode (s.machine.memory.word a), a, ?_⟩))
    cases hexecute : execute (Instruction.decode (s.machine.memory.word a))
        (s.prepared.fetched a) with
    | error f u =>
      rw [hexecute, finish] at hrun
      exact ⟨u, .inl ⟨f, rfl, hrun⟩⟩
    | ok o u =>
      rw [hexecute, finish] at hrun
      cases hnext : followUp u.machine.registers.pc o.update with
      | none =>
        rw [hnext] at hrun
        exact ⟨u, .inr ⟨o, _, rfl, update_of_followUp hnext, hrun⟩⟩
      | some next =>
        rw [hnext] at hrun
        exact absurd hrun (h _ _)

/-- **What a snapshot tells**, in any state. -/
theorem step_snapshot {s t : System τ} {snapshot : Snapshot}
    (h : step s = .ok (some snapshot) t) :
    snapshot.registers = t.machine.registers ∧
      ∃ (a : Fin 4095) (more : Array Access), s.machine.registers.pc = (a.val : Int) ∧
        snapshot.instruction = Instruction.decode (s.machine.memory.word a) ∧
        snapshot.accesses =
          #[.read a.castSucc (s.machine.memory.get a.castSucc),
            .read a.succ (s.machine.memory.get a.succ)] ++ more := by
  obtain ⟨a, o, u, next, ha, hrun, -, rfl, ht⟩ := step_carried h
  obtain ⟨more, hmore, -⟩ := logged_of_ok hrun
  refine ⟨?_, a, more.toArray, ha, rfl, ?_⟩
  · rw [ht]
  · refine Array.toList_inj.1 ?_
    rw [Array.toList_append]
    exact hmore

end Action

end Chip8
