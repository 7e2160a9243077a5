import Chip8.Host

/-!
# Updates of the clock

The clock is updated from two places, once at the start of every step and sometimes once more by a
drawing, and each update asks the host for the time.  So the updates that lie between two states
can be told from outside: they are as many as the questions for the time, at the times which the
host gave for an answer.

* `Clock.updateAll` is the clock after updates at given times, and `Clock.ticksAt` tells which of
  them make a tick;
* `Host.timesUntil` are the times that the host was asked for between two states;
* `ticksAt_append` — ticks are counted part by part, and `ticksAt_congr` — the timers have no say
  in when the clock ticks.
-/

namespace Chip8

namespace Clock

variable {τ : Type}

/-- What decides when the clock ticks next, and whether it just did. -/
def beat (c : Clock τ) : τ × Bool := (c.lastTick, c.vblank)

variable [TimeScale τ]

/-- The clock after updates, one at each of the times. -/
def updateAll (c : Clock τ) (times : List τ) : Clock τ := times.foldl update c

/-- Which of the updates at the given times make a tick. -/
def ticksAt (c : Clock τ) : List τ → List Bool
  | [] => []
  | now :: times => (c.update now).vblank :: (c.update now).ticksAt times

/-- Whether the clock ticks depends on the last tick alone. -/
theorem beat_update {c d : Clock τ} (h : c.lastTick = d.lastTick) (now : τ) :
    (c.update now).beat = (d.update now).beat := by
  unfold update
  rw [h]
  split <;> rfl

theorem beat_updateAll {c d : Clock τ} (h : c.beat = d.beat) (times : List τ) :
    (c.updateAll times).beat = (d.updateAll times).beat := by
  induction times generalizing c d with
  | nil => exact h
  | cons now times ih => exact ih (beat_update (congrArg Prod.fst h) now)

theorem ticksAt_congr {c d : Clock τ} (h : c.beat = d.beat) (times : List τ) :
    c.ticksAt times = d.ticksAt times := by
  induction times generalizing c d with
  | nil => rfl
  | cons now times ih =>
    have hnow := beat_update (congrArg Prod.fst h) now
    have htick : (c.update now).vblank = (d.update now).vblank := congrArg Prod.snd hnow
    rw [ticksAt, ticksAt, htick, ih hnow]

theorem updateAll_append (c : Clock τ) (earlier later : List τ) :
    c.updateAll (earlier ++ later) = (c.updateAll earlier).updateAll later :=
  List.foldl_append

theorem ticksAt_append (c : Clock τ) (earlier later : List τ) :
    c.ticksAt (earlier ++ later) =
      c.ticksAt earlier ++ (c.updateAll earlier).ticksAt later := by
  induction earlier generalizing c with
  | nil => rfl
  | cons now earlier ih =>
    rw [List.cons_append, ticksAt, ticksAt, ih]
    rfl

end Clock

namespace Host

variable {τ : Type}

/-- The times that a host was asked for until a later state of it, in order. -/
def timesUntil (h later : Host τ) : List τ :=
  (List.range' h.readings (later.readings - h.readings)).map h.time

/-- Between a state and itself no time is asked for. -/
theorem timesUntil_of_eq {h later : Host τ} (heq : later.readings = h.readings) :
    h.timesUntil later = [] := by
  simp [timesUntil, heq]

theorem timesUntil_one {h later : Host τ} (heq : later.readings = h.readings + 1) :
    h.timesUntil later = [h.time h.readings] := by
  simp [timesUntil, heq]

theorem timesUntil_two {h later : Host τ} (heq : later.readings = h.readings + 2) :
    h.timesUntil later = [h.time h.readings, h.time (h.readings + 1)] := by
  simp [timesUntil, heq, List.range'_succ]

theorem timesUntil_append {first second third : Host τ} (htime : second.time = first.time)
    (h12 : first.readings ≤ second.readings) (h23 : second.readings ≤ third.readings) :
    first.timesUntil third = first.timesUntil second ++ second.timesUntil third := by
  have hlength : third.readings - first.readings =
      (second.readings - first.readings) + (third.readings - second.readings) := by omega
  have hstart : first.readings + (second.readings - first.readings) = second.readings := by omega
  rw [timesUntil, timesUntil, timesUntil, htime, ← List.map_append, hlength,
    ← List.range'_append_1, hstart]

end Host

end Chip8
