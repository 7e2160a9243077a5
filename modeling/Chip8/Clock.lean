import Chip8.Fault

/-!
# The clock

Two timers count down sixty-four times a second, and the same tick marks the start of a new
picture.  The clock does not run by itself: `Clock.update` is given the time, and makes at most
one tick, after which the last tick counts as having happened exactly one period later than the
one before.  So a late update is made up for by the updates that follow.

Times come from `TimeScale`, a type with just the arithmetic that the clock needs: running
programs count seconds in floating point, and statements about ticks are made over exact numbers.
-/

namespace Chip8

/-- A type of times, with the length of a tick. -/
class TimeScale (τ : Type) where
  /-- The time between two ticks. -/
  period : τ
  /-- The time from the second argument to the first. -/
  elapsed : τ → τ → τ
  /-- The time a span after another. -/
  later : τ → τ → τ
  /-- Whether a span has come to at least a given length. -/
  atLeast : τ → τ → Bool

/-- Seconds in floating point. -/
instance : TimeScale Float where
  period := 0.015625
  elapsed now last := now - last
  later t span := t + span
  atLeast span length := length ≤ span

/-- The time in seconds that a number of microseconds stands for. -/
def secondsOfMicroseconds (us : Int) : Float :=
  let n := Float.ofScientific us.natAbs false 0
  (if us < 0 then -n else n) / 1000000.0

/-- The two timers and the state of the tick. -/
structure Clock (τ : Type) where
  delay : UInt8
  sound : UInt8
  /-- Whether the last update made a tick. -/
  vblank : Bool
  /-- When the last tick counts as having happened. -/
  lastTick : τ

namespace Clock

variable {τ : Type}

/-- A clock whose timers have run out. -/
def start (now : τ) : Clock τ := ⟨0, 0, false, now⟩

/-- One step of a timer towards zero. -/
def countDown (t : UInt8) : UInt8 := if t = 0 then 0 else t - 1

/-- Make the tick that is due at a time, if one is. -/
def update [TimeScale τ] (c : Clock τ) (now : τ) : Clock τ :=
  if TimeScale.atLeast (TimeScale.elapsed now c.lastTick) TimeScale.period then
    { delay := countDown c.delay
      sound := countDown c.sound
      vblank := true
      lastTick := TimeScale.later c.lastTick TimeScale.period }
  else
    { c with vblank := false }

/-- A value that a timer can hold. -/
def timerValue (value : Int) : Except Fault UInt8 :=
  if 0 ≤ value ∧ value ≤ 255 then .ok (UInt8.ofNat value.toNat)
  else .error (.timerNotByte value)

/-- One of the two timers. -/
inductive Timer where
  | delay
  | sound
  deriving DecidableEq, Repr

/-- What a timer is called. -/
def Timer.name : Timer → String
  | delay => "delay"
  | sound => "sound"

/-- The value of a timer. -/
def timer (c : Clock τ) : Timer → UInt8
  | .delay => c.delay
  | .sound => c.sound

/-- The clock with a value in a timer. -/
def withTimer (c : Clock τ) : Timer → UInt8 → Clock τ
  | .delay, value => { c with delay := value }
  | .sound, value => { c with sound := value }

/-- Set a timer. -/
def assign (c : Clock τ) (t : Timer) (value : Int) : Except Fault (Clock τ) :=
  (timerValue value).map (c.withTimer t)

theorem timer_withTimer (c : Clock τ) (t s : Timer) (value : UInt8) :
    (c.withTimer t value).timer s = if s = t then value else c.timer s := by
  cases s <;> cases t <;> rfl

/-- A value that does not fit is refused. -/
theorem assign_refused (c : Clock τ) (t : Timer) {value : Int} (h : ¬ (0 ≤ value ∧ value ≤ 255)) :
    c.assign t value = .error (.timerNotByte value) := by
  rw [assign, timerValue, if_neg h]
  rfl

/-- A value that fits is taken. -/
theorem assign_accepted (c : Clock τ) (t : Timer) {value : Int} (h : 0 ≤ value ∧ value ≤ 255) :
    c.assign t value = .ok (c.withTimer t (UInt8.ofNat value.toNat)) := by
  rw [assign, timerValue, if_pos h]
  rfl

theorem countDown_toNat (t : UInt8) : (countDown t).toNat = t.toNat - 1 := by
  unfold countDown
  split
  · rename_i h; subst h; rfl
  · rename_i h
    have hpos : t.toNat ≠ 0 := fun h0 => h (UInt8.toNat.inj (by simpa using h0))
    rw [UInt8.toNat_sub_of_le]
    · rfl
    · exact UInt8.le_iff_toNat_le.2 (by show 1 ≤ t.toNat; omega)

end Clock

end Chip8
