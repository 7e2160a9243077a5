import Mathlib.Data.Rat.Floor
import Mathlib.Tactic.Linarith
import Chip8.Proofs.Clock.Exact

/-!
# Accounting for ticks

A clock is updated at certain times, which may run backwards, and between the updates its timers are
set.  However irregular that is, the books balance:

* `lastTick_afterEvents` — the last tick is as many periods after the start as there were ticks, so
  nothing drifts, and `lastTick_le` — no tick comes before its time;
* `timer_afterEvents` — a timer has counted the ticks since it was set;
* `ticks_eq_floor` — **while times do not run backwards, an update without a tick finds that all the
  periods which have passed were ticked**.

`Clock.Accounts` puts this together for a clock and what happened to it, and `Clock.accounts` says
that it holds of all clocks and all events.
-/

namespace Chip8

/-- What can happen to a clock. -/
inductive ClockEvent (τ : Type) where
  /-- It is updated at a time. -/
  | update (now : τ)
  /-- A timer is set to a value, which it may refuse. -/
  | assign (timer : Clock.Timer) (value : Int)

variable {τ : Type}

namespace ClockEvent

/-- The time at which the clock is updated, if it is. -/
def reading? : ClockEvent τ → Option τ
  | .update now => some now
  | .assign .. => none

/-- The times at which the clock is updated. -/
def readings (events : List (ClockEvent τ)) : List τ := events.filterMap reading?

/-- A timer is set, to a value that it can hold. -/
def Sets (timer : Clock.Timer) : ClockEvent τ → Prop
  | .update _ => False
  | .assign t value => t = timer ∧ 0 ≤ value ∧ value ≤ 255

end ClockEvent

namespace Clock

theorem lastTick_withTimer (c : Clock τ) (t : Timer) (value : UInt8) :
    (c.withTimer t value).lastTick = c.lastTick := by
  cases t <;> rfl

variable [TimeScale τ]

/-- The clock after something happened to it.  A value that a timer refuses changes nothing. -/
def afterEvent (c : Clock τ) : ClockEvent τ → Clock τ
  | .update now => c.update now
  | .assign t value =>
    match c.assign t value with
    | .ok d => d
    | .error _ => c

/-- The clock after a number of events. -/
def afterEvents (c : Clock τ) (events : List (ClockEvent τ)) : Clock τ := events.foldl afterEvent c

/-- Whether an event makes a tick. -/
def ticksAfter (c : Clock τ) : ClockEvent τ → Bool
  | .update now => (c.update now).vblank
  | .assign .. => false

/-- How many events make a tick. -/
def ticks (c : Clock τ) : List (ClockEvent τ) → Nat
  | [] => 0
  | e :: events => (if c.ticksAfter e then 1 else 0) + (c.afterEvent e).ticks events

theorem afterEvents_append (c : Clock τ) (earlier later : List (ClockEvent τ)) :
    c.afterEvents (earlier ++ later) = (c.afterEvents earlier).afterEvents later :=
  List.foldl_append

theorem ticks_append (c : Clock τ) (earlier later : List (ClockEvent τ)) :
    c.ticks (earlier ++ later) = c.ticks earlier + (c.afterEvents earlier).ticks later := by
  induction earlier generalizing c with
  | nil => exact (Nat.zero_add _).symm
  | cons e earlier ih =>
    rw [List.cons_append, ticks, ticks, ih, Nat.add_assoc]
    rfl

/-! ## One event -/

theorem afterEvent_refused (c : Clock τ) (t : Timer) {value : Int}
    (h : ¬ (0 ≤ value ∧ value ≤ 255)) : c.afterEvent (.assign t value) = c := by
  rw [afterEvent, assign_refused c t h]

theorem afterEvent_accepted (c : Clock τ) (t : Timer) {value : Int}
    (h : 0 ≤ value ∧ value ≤ 255) :
    c.afterEvent (.assign t value) = c.withTimer t (UInt8.ofNat value.toNat) := by
  rw [afterEvent, assign_accepted c t h]

/-- A timer holds the value that it has taken. -/
theorem timer_accepted (c : Clock τ) (t : Timer) {value : Int} (h : 0 ≤ value ∧ value ≤ 255) :
    (((c.afterEvent (.assign t value)).timer t).toNat : Int) = value := by
  have hlt : value.toNat < 256 := by omega
  rw [afterEvent_accepted c t h, timer_withTimer, if_pos rfl, UInt8.toNat_ofNat_of_lt' hlt]
  omega

/-- Setting a timer does not move the last tick. -/
theorem lastTick_assign (c : Clock τ) (t : Timer) (value : Int) :
    (c.afterEvent (.assign t value)).lastTick = c.lastTick := by
  by_cases h : 0 ≤ value ∧ value ≤ 255
  · rw [afterEvent_accepted c t h, lastTick_withTimer]
  · rw [afterEvent_refused c t h]

/-- An update is a tick for both timers, or it is none. -/
theorem timer_update (c : Clock τ) (now : τ) (t : Timer) :
    ((c.update now).timer t).toNat =
      (c.timer t).toNat - if (c.update now).vblank then 1 else 0 := by
  rw [update]
  split
  · cases t <;> exact countDown_toNat _
  · cases t <;> rfl

/-- A timer that is not set counts the ticks. -/
theorem timer_afterEvent (c : Clock τ) {e : ClockEvent τ} {t : Timer} (h : ¬ e.Sets t) :
    ((c.afterEvent e).timer t).toNat = (c.timer t).toNat - if c.ticksAfter e then 1 else 0 := by
  cases e with
  | update now => exact timer_update c now t
  | assign s value =>
    by_cases hvalue : 0 ≤ value ∧ value ≤ 255
    · have hother : t ≠ s := fun heq => h ⟨heq.symm, hvalue⟩
      rw [afterEvent_accepted c s hvalue, timer_withTimer, if_neg hother]
      rfl
    · rw [afterEvent_refused c s hvalue]
      rfl

/-- **A timer counts the ticks since it was set**, down to zero. -/
theorem timer_afterEvents {t : Timer} (events : List (ClockEvent τ)) : ∀ c : Clock τ,
    (∀ e ∈ events, ¬ e.Sets t) →
    ((c.afterEvents events).timer t).toNat = (c.timer t).toNat - c.ticks events := by
  induction events with
  | nil => exact fun c _ => (Nat.sub_zero _).symm
  | cons e events ih =>
    intro c h
    have hrest := ih (c.afterEvent e) fun e' he' => h e' (List.mem_cons_of_mem e he')
    rw [timer_afterEvent c (h e (List.mem_cons_self ..)), Nat.sub_sub] at hrest
    exact hrest

/-! ## Exact times -/

section Exact

/-- An update makes a tick exactly if a period has passed since the last one. -/
theorem vblank_update_iff (c : Clock Rat) (now : Rat) :
    (c.update now).vblank = true ↔ 1 / 64 ≤ now - c.lastTick := by
  have hdue : TimeScale.atLeast (TimeScale.elapsed now c.lastTick) (TimeScale.period : Rat) =
      decide (1 / 64 ≤ now - c.lastTick) := rfl
  rw [update, hdue]
  by_cases h : 1 / 64 ≤ now - c.lastTick
  · rw [decide_eq_true h, if_pos rfl]
    exact iff_of_true rfl h
  · rw [decide_eq_false h, if_neg Bool.false_ne_true]
    exact iff_of_false Bool.false_ne_true h

theorem lastTick_update (c : Clock Rat) (now : Rat) :
    (c.update now).lastTick = c.lastTick + (if (c.update now).vblank then 1 else 0 : Nat) / 64 := by
  rw [update]
  split
  · show c.lastTick + 1 / 64 = c.lastTick + ((1 : Nat) : Rat) / 64
    norm_num
  · show c.lastTick = c.lastTick + ((0 : Nat) : Rat) / 64
    norm_num

theorem lastTick_afterEvent (c : Clock Rat) (e : ClockEvent Rat) :
    (c.afterEvent e).lastTick = c.lastTick + (if c.ticksAfter e then 1 else 0 : Nat) / 64 := by
  cases e with
  | update now => exact lastTick_update c now
  | assign t value =>
    rw [lastTick_assign]
    show c.lastTick = c.lastTick + ((0 : Nat) : Rat) / 64
    norm_num

/-- **Nothing drifts**: the last tick is as many periods later as there were ticks. -/
theorem lastTick_afterEvents (events : List (ClockEvent Rat)) : ∀ c : Clock Rat,
    (c.afterEvents events).lastTick = c.lastTick + c.ticks events / 64 := by
  induction events with
  | nil =>
    intro c
    show c.lastTick = c.lastTick + ((0 : Nat) : Rat) / 64
    norm_num
  | cons e events ih =>
    intro c
    show ((c.afterEvent e).afterEvents events).lastTick = _
    rw [ih, lastTick_afterEvent, ticks, Nat.cast_add, add_div, add_assoc]

/-- An update makes no tick that is not due. -/
theorem lastTick_update_le (c : Clock Rat) (now : Rat) :
    (c.update now).lastTick = c.lastTick ∨ (c.update now).lastTick ≤ now := by
  rw [lastTick_update]
  cases htick : (c.update now).vblank with
  | false =>
    left
    norm_num
  | true =>
    have hdue := (vblank_update_iff c now).1 htick
    right
    norm_num
    linarith

/-- **No tick comes before its time**: the last one is at the start, or no later than some update.
-/
theorem lastTick_le (events : List (ClockEvent Rat)) : ∀ c : Clock Rat,
    ∃ t ∈ c.lastTick :: ClockEvent.readings events, (c.afterEvents events).lastTick ≤ t := by
  induction events with
  | nil => exact fun c => ⟨c.lastTick, List.mem_cons_self .., le_refl _⟩
  | cons e events ih =>
    intro c
    obtain ⟨t, ht, hle⟩ := ih (c.afterEvent e)
    cases e with
    | assign s value =>
      rw [lastTick_assign] at ht
      exact ⟨t, ht, hle⟩
    | update now =>
      rcases List.mem_cons.1 ht with rfl | hlater
      · rcases lastTick_update_le c now with hsame | hdue
        · exact ⟨c.lastTick, List.mem_cons_self .., hle.trans (le_of_eq hsame)⟩
        · exact ⟨now, List.mem_cons_of_mem _ (List.mem_cons_self ..), hle.trans hdue⟩
      · exact ⟨t, List.mem_cons_of_mem _ (List.mem_cons_of_mem now hlater), hle⟩

/-- **While times do not run backwards, an update without a tick finds that all the periods which
have passed were ticked.** -/
theorem ticks_eq_floor (c : Clock Rat) (events : List (ClockEvent Rat)) (now : Rat)
    (hforward : (c.lastTick :: ClockEvent.readings (events ++ [.update now])).Pairwise (· ≤ ·))
    (hquiet : ((c.afterEvents events).update now).vblank = false) :
    (c.ticks (events ++ [.update now]) : Int) = ⌊64 * (now - c.lastTick)⌋ := by
  have hticks : c.ticks (events ++ [.update now]) = c.ticks events := by
    rw [ticks_append, ticks, ticksAfter, hquiet]
    rfl
  have hreadings : ClockEvent.readings (events ++ [.update now]) =
      ClockEvent.readings events ++ [now] := List.filterMap_append
  have hlast := lastTick_afterEvents events c
  have hearly : now - (c.afterEvents events).lastTick < 1 / 64 := by
    rw [← not_le, ← vblank_update_iff, hquiet]
    exact Bool.false_ne_true
  obtain ⟨t, ht, hle⟩ := lastTick_le events c
  rw [hreadings, ← List.cons_append] at hforward
  have hnow : t ≤ now :=
    (List.pairwise_append.1 hforward).2.2 t ht now (List.mem_singleton_self now)
  rw [hticks, eq_comm, Int.floor_eq_iff, Int.cast_natCast]
  constructor
  · linarith
  · linarith

end Exact

/-! ## The whole account -/

/-- What is known of a clock that was started at a time, from what happened to it since. -/
structure Accounts (start : Rat) (events : List (ClockEvent Rat)) (c : Clock Rat) : Prop where
  /-- The next update makes a tick exactly if a period has passed since the last one. -/
  due : ∀ now : Rat, (c.update now).vblank = true ↔ 1 / 64 ≤ now - c.lastTick
  /-- The last tick is as many periods after the start as there were ticks. -/
  lastTick : c.lastTick = start + (Clock.start start).ticks events / 64
  /-- No tick comes before its time. -/
  inTime : ∃ t ∈ start :: ClockEvent.readings events, c.lastTick ≤ t
  /-- A timer that was never set is at zero. -/
  unset : ∀ t : Timer, (∀ e ∈ events, ¬ e.Sets t) → (c.timer t).toNat = 0
  /-- A timer has counted the ticks since it was set last. -/
  set : ∀ (t : Timer) (value : Int) (earlier later : List (ClockEvent Rat)),
    events = earlier ++ [.assign t value] ++ later → 0 ≤ value ∧ value ≤ 255 →
    (∀ e ∈ later, ¬ e.Sets t) →
    ((c.timer t).toNat : Int) =
      max 0 (value - ((Clock.start start).afterEvents (earlier ++ [.assign t value])).ticks later)
  /-- A value that does not fit is refused, and nothing changes. -/
  refused : ∀ (t : Timer) (value : Int), ¬ (0 ≤ value ∧ value ≤ 255) →
    c.assign t value = .error (.timerNotByte value) ∧ c.afterEvent (.assign t value) = c
  /-- While times do not run backwards, all the periods have been ticked that have passed when an
  update makes no tick. -/
  onTime : ∀ (earlier : List (ClockEvent Rat)) (now : Rat), events = earlier ++ [.update now] →
    (start :: ClockEvent.readings events).Pairwise (· ≤ ·) → c.vblank = false →
    ((Clock.start start).ticks events : Int) = ⌊64 * (now - start)⌋

/-- **The books balance.** -/
theorem accounts (start : Rat) (events : List (ClockEvent Rat)) :
    Accounts start events ((Clock.start start).afterEvents events) where
  due now := vblank_update_iff _ now
  lastTick := lastTick_afterEvents events (Clock.start start)
  inTime := lastTick_le events (Clock.start start)
  unset t h := by
    have hzero : ((Clock.start start).timer t).toNat = 0 := by cases t <;> rfl
    rw [timer_afterEvents events _ h, hzero, Nat.zero_sub]
  set t value earlier later hevents hvalue h := by
    have hset := timer_accepted ((Clock.start start).afterEvents earlier) t hvalue
    have hcounted := timer_afterEvents later
      ((Clock.start start).afterEvents (earlier ++ [.assign t value])) h
    rw [hevents, afterEvents_append, hcounted, afterEvents_append, afterEvents, List.foldl_cons,
      List.foldl_nil]
    omega
  refused t value h := ⟨assign_refused _ t h, afterEvent_refused _ t h⟩
  onTime earlier now hevents hforward hquiet := by
    subst hevents
    rw [afterEvents_append] at hquiet
    exact ticks_eq_floor (Clock.start start) earlier now hforward hquiet

end Clock

end Chip8
