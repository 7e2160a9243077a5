import Chip8.Proofs.Machine.Cycle

/-!
# Well-formed machines

`Machine.WellFormed` is what holds of a machine that only programs and the host's own operations
have worked on.  It is an invariant, and that takes three lemmas:

* `execute_keeps` — an instruction keeps it, whether it succeeds or fails half-way;
* `finish_keeps` — the follow-up keeps it, because no instruction leads further than `nnn + V0`;
* `step_keeps` — so a step keeps it, in each of the four ways in which it goes.

A wait and the key that ends it are never both there.  An instruction could bring them together,
but no instruction is carried out before the key of an earlier wait is delivered.
-/

namespace Chip8

variable {τ : Type}

/-- What holds of a machine, whatever was done with it. -/
structure Machine.WellFormed (m : Machine τ) : Prop where
  registers : m.registers.InRange
  screen : m.screen.TwoColored
  trace : m.trace.length ≤ traceLength
  /-- While a key is awaited, no key is there to be delivered. -/
  keypad : m.keypad.waiting = true → m.keypad.response = none

namespace Machine.WellFormed

theorem powerOn (now : τ) : (Machine.powerOn now).WellFormed :=
  ⟨Registers.inRange_initial, Screen.twoColored_blank _ _, Nat.zero_le _, fun _ => rfl⟩

theorem withMemory {m : Machine τ} (h : m.WellFormed) (memory : Memory) :
    { m with memory := memory }.WellFormed := { h with }

theorem remember {m : Machine τ} (h : m.WellFormed) (e : TraceEntry) :
    (m.remember e).WellFormed := by
  refine { h with trace := ?_ }
  rw [Machine.remember, List.length_take]
  exact Nat.min_le_left _ _

end Machine.WellFormed

namespace Action

/-! ## Instructions -/

/-- What an instruction leaves: a well-formed machine, and after a success also the program counter
as it was and a place to go on at, unless the instruction has to be tried again. -/
def Keeps (pc : Int) : EStateM.Result Fault (System τ) Outcome → Prop
  | .ok o t =>
    t.machine.WellFormed ∧ t.machine.registers.pc = pc ∧ (o.update = .stall ∨ o.update.Onward)
  | .error _ t => t.machine.WellFormed

theorem keeps_sweep {pc : Int} {o : Outcome} {t : System τ} (ht : t.machine.WellFormed)
    (hpc : t.machine.registers.pc = pc) (ho : o.update.Onward) (first : Int) (count : Nat) :
    Keeps pc (endOfSweep first count o t) := by
  rw [endOfSweep]
  split
  · exact ⟨ht, hpc, .inr ho⟩
  · exact ht

variable [TimeScale τ]

omit [TimeScale τ] in
/-- A register in range either names a key or is past all of them. -/
theorem key_or_outside {r : Registers} (hr : r.InRange) (x : Fin 16) :
    15 < r.get x ∨ ∃ key : Fin 16, r.get x = (key.val : Int) := by
  have hx := hr.general x
  by_cases h : 15 < r.get x
  · exact .inl h
  · exact .inr ⟨⟨(r.get x).toNat, by omega⟩, by simp only; omega⟩

/-- **An instruction leaves a well-formed machine**, also if it fails half-way. -/
theorem execute_keeps (i : Instruction) {s : System τ} (hs : s.machine.WellFormed)
    (hidle : s.machine.keypad.response = none) (hpc : s.machine.registers.pc ≤ 4094) :
    Keeps s.machine.registers.pc (execute i s) := by
  have hr := hs.registers
  by_cases hplain : i.isPlain = true
  · obtain ⟨o, v, index, host, hrun, hrange, ho⟩ := execute_plain hplain hr
    rw [hrun]
    exact ⟨{ hs with registers := hrange }, rfl, .inr ho⟩
  · cases i with
    | clear =>
      rw [execute_clear]
      exact ⟨{ hs with screen := .clear _ }, rfl, .inr trivial⟩
    | ret =>
      by_cases hsp : s.machine.registers.sp ≤ 0
      · rw [execute_ret_empty hsp]
        exact hs
      · obtain ⟨slot, hslot, hrun⟩ := execute_ret hr (by omega)
        have hstack := hr.stack slot
        rw [hrun]
        exact ⟨{ hs with registers := hr.withPopped slot }, rfl, .inr (show _ ∧ _ by omega)⟩
    | call target =>
      by_cases hsp : 16 ≤ s.machine.registers.sp
      · rw [execute_call_full target hsp]
        exact hs
      · obtain ⟨slot, hslot, hrun⟩ := execute_call target hr (by omega)
        have h0 := hr.pc.1
        rw [hrun]
        exact ⟨{ hs with registers := hr.withPushed slot (by omega) }, rfl,
          .inr (show _ ∧ _ by omega)⟩
    | skipPressed x | skipReleased x =>
      rcases key_or_outside hr x with hx | ⟨key, hx⟩
      · rw [execute, skipOnKey_outside _ hx]
        exact hs
      · rw [execute, skipOnKey_inside _ hx]
        exact ⟨hs, rfl, .inr (onward_skipIf _ _)⟩
    | awaitKey x =>
      rw [execute_awaitKey]
      exact ⟨{ hs with keypad := fun _ => hidle }, rfl, .inr trivial⟩
    | setDelay x | setSound x =>
      rw [execute, startTimer_eq _ x hr]
      exact ⟨{ hs with }, rfl, .inr trivial⟩
    | decimal x =>
      obtain ⟨memory, accesses, hrun⟩ := execute_decimal x hr
      rw [hrun]
      refine keeps_sweep ?_ rfl ?_ _ _
      · exact { hs with }
      · trivial
    | store x =>
      obtain ⟨memory, accesses, index, hindex, hrun⟩ := execute_store x hr
      rw [hrun]
      refine keeps_sweep ?_ rfl ?_ _ _
      · exact { hs with registers := hr.withIndex hindex }
      · trivial
    | load x =>
      obtain ⟨v, accesses, index, hrange, hrun⟩ := execute_load x hr
      rw [hrun]
      refine keeps_sweep ?_ rfl ?_ _ _
      · exact { hs with registers := hrange }
      · trivial
    | draw x y rows =>
      cases hstall : s.drawStalls with
      | true =>
        have hwait := System.drawOnBlank_of_stalls hstall
        rw [execute_draw_stalled x y rows hstall]
        exact ⟨{ hs with registers := hr.withAwaiting fun _ => hwait }, rfl, .inl rfl⟩
      | false =>
        obtain ⟨v, cells, accesses, display, hrun, hrange, htwo⟩ := execute_draw x y rows hr hstall
        rw [hrun]
        refine keeps_sweep ?_ rfl ?_ _ _
        · rw [System.asked]
          split <;> exact { hs with registers := hrange, screen := htwo hs.screen }
        · trivial
    | _ => exact absurd rfl hplain

/-! ## Steps -/

omit [TimeScale τ] in
/-- No instruction leads further than a jump with an offset goes. -/
theorem followUp_range {pc next : Int} {u : PcUpdate} (hpc : 0 ≤ pc ∧ pc ≤ 4094)
    (hu : u = .stall ∨ u.Onward) (h : followUp pc u = some next) :
    0 ≤ next ∧ next ≤ 0xFFF + 0xFF := by
  cases u with
  | advance =>
    have hnext : pc + 2 = next := Option.some.inj h
    omega
  | skip =>
    have hnext : pc + 4 = next := Option.some.inj h
    omega
  | jump target =>
    have hnext : target = next := Option.some.inj h
    rcases hu with hu | hu
    · cases hu
    · exact hnext ▸ hu
  | stall => cases h

omit [TimeScale τ] in
/-- The follow-up of an instruction leaves a well-formed machine. -/
theorem finish_keeps {pc : Int} (hpc : pc ≤ 4094) (place word : Int) (i : Instruction)
    {r : EStateM.Result Fault (System τ) Outcome} (h : Keeps pc r) :
    (stateOf (finish place word i r)).machine.WellFormed := by
  cases r with
  | error f t => exact h
  | ok o t =>
    obtain ⟨ht, htpc, ho⟩ := h
    rw [finish]
    cases hnext : followUp t.machine.registers.pc o.update with
    | none => exact ht
    | some next =>
      have hrange := followUp_range ⟨ht.registers.pc.1, by omega⟩ ho hnext
      exact { ht.remember _ with registers := ht.registers.withPc hrange }

/-- **A step keeps a machine well-formed**, also if it fails. -/
theorem step_keeps {s : System τ} (hs : s.machine.WellFormed) :
    (stateOf (step s)).machine.WellFormed := by
  have hopened : s.opened.machine.WellFormed := { hs with }
  have hprepared : s.prepared.machine.WellFormed :=
    { hs with registers := hs.registers.deliver _, keypad := fun _ => rfl }
  rcases step_cases s hs.registers.pc.1 with
    ⟨_, hrun⟩ | ⟨_, _, hrun⟩ | ⟨_, _, hrun⟩ | ⟨a, _, ha, hrun⟩
  · rw [hrun]
    exact hopened
  · rw [hrun]
    exact hprepared
  · rw [hrun]
    exact { hprepared with }
  · have hpc : s.prepared.machine.registers.pc ≤ 4094 := by
      rw [System.prepared_pc]
      omega
    rw [hrun]
    refine finish_keeps hpc _ _ _ (execute_keeps _ ?_ rfl hpc)
    exact { hprepared with }

end Action

end Chip8
