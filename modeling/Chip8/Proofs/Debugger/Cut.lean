import Chip8.Proofs.Debugger.Breakpoints
import Chip8.Proofs.Machine.History

/-!
# Plain steps, and where a run is cut

The steps of a machine without a debugger, what they answer, and the number of them after which a
run with breakpoints comes to rest.

* `System.afterSteps` and `System.snapshots` — the state after a number of steps, and what they
  carried out;
* `System.CutAt` — a run is cut after the first step that an enabled breakpoint matches or during
  which a stop is called for, or else when its budget is used up; `exists_cutAt` says that it
  always is, and `CutAt.endsInHit_iff` that only hits count when nobody calls for a stop.
-/

namespace Chip8

variable {τ : Type} [TimeScale τ]

namespace System

/-- A snapshot holds the registers after the step. -/
theorem registers_of_answer {s : System τ} {snapshot : Snapshot} (h : s.answer = some snapshot) :
    snapshot.registers = (s.after .step).machine.registers :=
  (Action.step_snapshot (ok_of_answer h)).1

/-- The system after a number of plain steps. -/
def afterSteps (s : System τ) : Nat → System τ
  | 0 => s
  | k + 1 => (s.after .step).afterSteps k

theorem afterSteps_succ (s : System τ) (k : Nat) :
    s.afterSteps (k + 1) = (s.afterSteps k).after .step := by
  induction k generalizing s with
  | zero => rfl
  | succ k ih => exact ih (s.after .step)

/-- The snapshots of a number of plain steps, in order. -/
def snapshots (s : System τ) : Nat → List Snapshot
  | 0 => []
  | k + 1 => s.answer.toList ++ (s.after .step).snapshots k

/-- The next step carries out something that an enabled breakpoint waits for. -/
def Hits (s : System τ) (breakpoints : List Breakpoint) : Prop :=
  ∃ snapshot, s.answer = some snapshot ∧ ∃ b ∈ breakpoints, b.Matches snapshot

/-- The last one of a number of steps is a hit. -/
def EndsInHit (s : System τ) (breakpoints : List Breakpoint) (k : Nat) : Prop :=
  ∃ j, k = j + 1 ∧ (s.afterSteps j).Hits breakpoints

/-- A stop is called for during the next step. -/
def Stopped (s : System τ) : Prop := (s.after .step).host.stoppedSince s.host.readings = true

/-- The number of steps after which a run is cut short. -/
structure CutAt (s : System τ) (breakpoints : List Breakpoint) (budget k : Nat) : Prop where
  within : k ≤ budget
  /-- Every step before the last one goes on. -/
  goesOn : ∀ j, j + 1 < k → ¬ (s.afterSteps j).Hits breakpoints ∧ ¬ (s.afterSteps j).Stopped
  /-- The last step is a reason to stop, unless the budget is used up. -/
  ends : k < budget → ∃ j, k = j + 1 ∧
    ((s.afterSteps j).Hits breakpoints ∨ (s.afterSteps j).Stopped)

section EndsInHit

variable {s : System τ} {breakpoints : List Breakpoint}

theorem not_endsInHit_zero : ¬ s.EndsInHit breakpoints 0 := by
  rintro ⟨j, hj, -⟩
  cases hj

theorem endsInHit_one : s.EndsInHit breakpoints 1 ↔ s.Hits breakpoints := by
  constructor
  · rintro ⟨j, hj, hhit⟩
    cases hj
    exact hhit
  · exact fun hhit => ⟨0, rfl, hhit⟩

/-- After a step that is no hit, the rest ends in a hit if the whole does. -/
theorem endsInHit_succ {k : Nat} (hmissed : ¬ s.Hits breakpoints) :
    s.EndsInHit breakpoints (k + 1) ↔ (s.after .step).EndsInHit breakpoints k := by
  constructor
  · rintro ⟨j, hj, hhit⟩
    cases j with
    | zero => exact absurd hhit hmissed
    | succ j => exact ⟨j, Nat.succ.inj hj, hhit⟩
  · rintro ⟨j, rfl, hhit⟩
    exact ⟨j + 1, rfl, hhit⟩

end EndsInHit

/-- Every run is cut somewhere. -/
theorem exists_cutAt (s : System τ) (breakpoints : List Breakpoint) (budget : Nat) :
    ∃ k, s.CutAt breakpoints budget k := by
  induction budget with
  | zero => exact ⟨0, Nat.le_refl 0, fun j hj => absurd hj (by omega), fun h => absurd h (by omega)⟩
  | succ budget ih =>
    obtain ⟨k, hwithin, hgoesOn, hends⟩ := ih
    by_cases hk : ∃ j, k = j + 1 ∧
        ((s.afterSteps j).Hits breakpoints ∨ (s.afterSteps j).Stopped)
    · exact ⟨k, by omega, hgoesOn, fun _ => hk⟩
    · have hall : k = budget := by
        by_cases hlt : k < budget
        · exact absurd (hends hlt) hk
        · omega
      refine ⟨budget + 1, Nat.le_refl _, ?_, fun h => absurd h (by omega)⟩
      intro j hj
      by_cases hlast : j + 1 < k
      · exact hgoesOn j hlast
      · have hj : k = j + 1 := by omega
        exact ⟨fun h => hk ⟨j, hj, .inl h⟩, fun h => hk ⟨j, hj, .inr h⟩⟩

section Unstopped

variable {s : System τ} {breakpoints : List Breakpoint} {budget k : Nat}
  (h : s.CutAt breakpoints budget k) (hunstopped : ∀ j < k, ¬ (s.afterSteps j).Stopped)

include h hunstopped

/-- When nobody calls for a stop, only a hit cuts a run short. -/
theorem CutAt.eq_budget (hmissed : ¬ s.EndsInHit breakpoints k) : k = budget := by
  by_cases hlt : k < budget
  · obtain ⟨j, hj, hhit | hstop⟩ := h.ends hlt
    · exact absurd ⟨j, hj, hhit⟩ hmissed
    · exact absurd hstop (hunstopped j (by omega))
  · have := h.within
    omega

/-- Then the last step is a hit exactly if some step within the budget is one. -/
theorem CutAt.endsInHit_iff :
    s.EndsInHit breakpoints k ↔ ∃ j < budget, (s.afterSteps j).Hits breakpoints := by
  constructor
  · rintro ⟨j, hj, hhit⟩
    have := h.within
    exact ⟨j, by omega, hhit⟩
  · rintro ⟨j, hj, hhit⟩
    refine Classical.byContradiction fun hmissed => ?_
    have hk : k = budget := h.eq_budget hunstopped hmissed
    by_cases hlast : j + 1 < k
    · exact (h.goesOn j hlast).1 hhit
    · exact hmissed ⟨j, by omega, hhit⟩

end Unstopped

/-- A step with a reason to stop is the last one. -/
theorem CutAt.eq_zero_of_stop {s : System τ} {breakpoints : List Breakpoint} {budget k : Nat}
    (h : s.CutAt breakpoints budget (k + 1)) (hstop : s.Hits breakpoints ∨ s.Stopped) :
    k = 0 := by
  by_cases hk : 0 + 1 < k + 1
  · exact absurd hstop (not_or.2 (h.goesOn 0 hk))
  · omega

/-- After a step that goes on, the rest of a run is cut as far as the run was. -/
theorem CutAt.rest {s : System τ} {breakpoints : List Breakpoint} {budget k : Nat}
    (h : s.CutAt breakpoints (budget + 1) (k + 1))
    (hgo : ¬ s.Hits breakpoints ∧ ¬ s.Stopped) :
    (s.after .step).CutAt breakpoints budget k := by
  refine ⟨by have := h.within; omega, fun j hj => h.goesOn (j + 1) (by omega), ?_⟩
  intro hlt
  obtain ⟨j, hj, hstop⟩ := h.ends (by omega)
  cases j with
  | zero => exact absurd hstop (not_or.2 hgo)
  | succ j => exact ⟨j, by omega, hstop⟩

end System

end Chip8
