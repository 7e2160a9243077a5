import Chip8.Proofs.Clock.Accounting
import Chip8.Proofs.Machine.Timing

/-!
# What happens to the clock of a machine

The clock of a machine is a clock like any other: from one state of a run to another, it was updated
at each of the times that the host was asked for, and at no other time, and its timers were set in
between.  `System.Accounted` says so, and `accounted_afterAll` that **it holds of every run in which
the machine is not started over**, whether the clock is updated by the steps or by drawings that
wait. Therefore what is known of clocks, which `Clock.Accounts` lists, is known of machines
(`clock_accounts`).
-/

namespace Chip8

variable {τ : Type} [TimeScale τ]

namespace System

/-- All that happened to the clock from one state to another: updates at the times that the host was
asked for, and settings of timers. -/
structure Accounted (s t : System τ) : Prop where
  time : t.host.time = s.host.time
  readings : s.host.readings ≤ t.host.readings
  events : ∃ events, ClockEvent.readings events = s.host.timesUntil t.host ∧
    t.machine.clock = s.machine.clock.afterEvents events

namespace Accounted

/-- Nothing happened to the clock. -/
theorem still {s t : System τ} (htime : t.host.time = s.host.time)
    (hreadings : t.host.readings = s.host.readings) (hclock : t.machine.clock = s.machine.clock) :
    s.Accounted t := by
  refine ⟨htime, Nat.le_of_eq hreadings.symm, [], ?_, hclock⟩
  rw [Host.timesUntil_of_eq hreadings]
  rfl

theorem refl (s : System τ) : s.Accounted s := still rfl rfl rfl

theorem trans {s t u : System τ} (hst : s.Accounted t) (htu : t.Accounted u) : s.Accounted u := by
  obtain ⟨earlier, htimes, hclock⟩ := hst.events
  obtain ⟨later, htimes', hclock'⟩ := htu.events
  refine ⟨htu.time.trans hst.time, Nat.le_trans hst.readings htu.readings, earlier ++ later, ?_, ?_⟩
  · rw [Host.timesUntil_append hst.time hst.readings htu.readings, ← htimes, ← htimes']
    exact List.filterMap_append
  · rw [hclock', hclock, Clock.afterEvents_append]

theorem ticked (s : System τ) : s.Accounted s.ticked := by
  refine ⟨rfl, Nat.le_succ _, [.update (s.host.time s.host.readings)], ?_, rfl⟩
  rw [Host.timesUntil_one rfl]
  rfl

/-- A timer was set to a byte. -/
theorem timer (s : System τ) (t : Clock.Timer) (value : UInt8) :
    s.Accounted { s with machine.clock := s.machine.clock.withTimer t value } := by
  have hfits : 0 ≤ (value.toNat : Int) ∧ (value.toNat : Int) ≤ 255 := by
    have hlt := value.toNat_lt
    omega
  have hclock := Clock.afterEvent_accepted s.machine.clock t hfits
  rw [Int.toNat_natCast, UInt8.ofNat_toNat] at hclock
  refine ⟨rfl, Nat.le_refl _, [.assign t value.toNat], ?_, hclock.symm⟩
  rw [Host.timesUntil_of_eq rfl]
  rfl

end Accounted

end System

namespace Action

/-- Whatever an instruction does to the clock is accounted for. -/
theorem motion_accounted : Motion (System.Accounted : System τ → System τ → Prop) where
  refl := System.Accounted.refl
  trans := System.Accounted.trans
  registers _ _ _ := .still rfl rfl rfl
  screen _ _ := .still rfl rfl rfl
  timer := System.Accounted.timer
  ticked := System.Accounted.ticked
  noted _ _ := .still rfl rfl rfl
  drawn _ := .still rfl rfl rfl
  read _ _ := .still rfl rfl rfl
  write _ _ _ := .still rfl rfl rfl

end Action

namespace System

/-- **An operation that does not start over accounts for the clock**, also if it fails. -/
theorem accounted_after {o : Operation} (ho : o.startsOver = false) (s : System τ) :
    s.Accounted (s.after o) := by
  by_cases hstep : o = .step
  · subst hstep
    exact Action.motion_accounted.step (fun _ _ _ _ _ => .still rfl rfl rfl) s
  · have hhandled := handled_after (Operation.keepsPath_of_ne hstep ho) s
    exact .still hhandled.time hhandled.readings hhandled.clock

/-- **So does every run.** -/
theorem accounted_afterAll (run : List Operation) : ∀ {s : System τ},
    (∀ o ∈ run, o.startsOver = false) → s.Accounted (s.afterAll run) := by
  induction run with
  | nil => exact fun _ => .refl _
  | cons o run ih =>
    intro s hrun
    have hfirst := accounted_after (hrun o (List.mem_cons_self ..)) s
    exact hfirst.trans (ih fun o' ho' => hrun o' (List.mem_cons_of_mem o ho'))

end System

/-- **The clock keeps account of the time.**  For every clock that was started at some time, and all
updates and settings of timers since, at any times and with any values, the books balance.  And the
clock of a machine is such a clock: from its start on, as long as the machine is not started over,
it is updated at each of the times that the host is asked for. -/
theorem clock_accounts :
    (∀ (start : Rat) (events : List (ClockEvent Rat)),
      Clock.Accounts start events ((Clock.start start).afterEvents events)) ∧
    ∀ (s : System Rat) (start : Rat), s.machine.clock = .start start →
      ∀ run : List Operation, (∀ o ∈ run, o.startsOver = false) →
        ∃ events, ClockEvent.readings events = s.host.timesUntil (s.afterAll run).host ∧
          (s.afterAll run).machine.clock = (Clock.start start).afterEvents events := by
  refine ⟨Clock.accounts, fun s start hstart run hrun => ?_⟩
  obtain ⟨events, htimes, hclock⟩ := (System.accounted_afterAll run (s := s) hrun).events
  rw [hstart] at hclock
  exact ⟨events, htimes, hclock⟩

/-- A timer that was set, an update with a tick and one without; and a machine that makes a step. -/
theorem clock_accounts_short :
    let events : List (ClockEvent Rat) := [.assign .delay 5, .update (1 / 64), .update (3 / 128)]
    let c := (Clock.start 0).afterEvents events
    let s := System.powerOn (Host.still (0 : Rat) fun _ => 0)
    (c.timer .delay).toNat = 4 ∧
      ((Clock.start 0).ticks events : Int) = ⌊64 * (3 / 128 - (0 : Rat))⌋ ∧
      ∃ events, ClockEvent.readings events = s.host.timesUntil (s.afterAll [.step]).host ∧
        (s.afterAll [.step]).machine.clock = (Clock.start 0).afterEvents events := by
  intro events c s
  obtain ⟨hclocks, hmachines⟩ := clock_accounts
  have hbooks := hclocks 0 events
  have hcounted := hbooks.set .delay 5 [] [.update (1 / 64), .update (3 / 128)] rfl (by decide)
    (by simp [ClockEvent.Sets])
  have hticks : ((Clock.start (0 : Rat)).afterEvents ([] ++ [.assign .delay 5])).ticks
      [.update (1 / 64), .update (3 / 128)] = 1 := by decide +kernel
  rw [hticks] at hcounted
  have hforward : ((0 : Rat) :: ClockEvent.readings events).Pairwise (· ≤ ·) := by decide +kernel
  have hquiet : c.vblank = false := by decide +kernel
  have hfloor := hbooks.onTime [.assign .delay 5, .update (1 / 64)] (3 / 128) rfl hforward hquiet
  refine ⟨?_, hfloor, hmachines s 0 rfl [.step] (by decide)⟩
  have hfour : ((c.timer .delay).toNat : Int) = max 0 (5 - (1 : Nat)) := hcounted
  omega

end Chip8
