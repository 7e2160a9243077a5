import Chip8.Clock

/-!
# Exact times

Seconds as rational numbers.  Nothing is rounded, so a clock over them ticks exactly when a
sixty-fourth of a second has passed.
-/

namespace Chip8

/-- Seconds without rounding. -/
instance : TimeScale Rat where
  period := 1 / 64
  elapsed now last := now - last
  later t span := t + span
  atLeast span length := decide (length ≤ span)

end Chip8
