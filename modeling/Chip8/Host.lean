import Chip8.Journal
import Chip8.Clock

/-!
# The host

All that a machine gets from outside while it runs, and all that it tells.  The clock asks for
the time, the random instruction asks for a byte, and while the time is asked for somebody may
call for a stop.  The answers are given in advance, as functions of the number of the question, so
that a run is a function of its start; `Host` counts the questions.
-/

namespace Chip8

/-- The supplies of a run, how much of them has been used, and the journal. -/
structure Host (τ : Type) where
  /-- The answer to each question for the time. -/
  time : Nat → τ
  /-- Whether a stop is called for while a question for the time is answered. -/
  stops : Nat → Bool
  /-- The answer to each question for a random byte. -/
  random : Nat → Int
  /-- How many times the time has been asked for. -/
  readings : Nat
  /-- How many random bytes have been asked for. -/
  draws : Nat
  journal : Journal

namespace Host

variable {τ : Type}

/-- A host whose clock stands still. -/
def still (now : τ) (random : Nat → Int) : Host τ :=
  ⟨fun _ => now, fun _ => false, random, 0, 0, .initial⟩

/-- Ask for the time. -/
def readTime (h : Host τ) : τ × Host τ :=
  (h.time h.readings, { h with readings := h.readings + 1 })

/-- Ask for a random byte. -/
def drawRandom (h : Host τ) : Int × Host τ :=
  (h.random h.draws, { h with draws := h.draws + 1 })

/-- Write a report. -/
def note (h : Host τ) (e : Event) : Host τ := { h with journal := h.journal.note e }

/-- From now on every question for the time has the same answer. -/
def standAt (h : Host τ) (now : τ) : Host τ :=
  { h with time := fun _ => now, stops := fun _ => false }

/-- From now on the answers are the members of a sequence, and a stop is called for at the given
members of it. -/
def follow (h : Host τ) (time : Nat → τ) (stops : Nat → Bool) : Host τ :=
  { h with
    time := fun n => time (n - h.readings)
    stops := fun n => stops (n - h.readings) }

/-- Whether a stop was called for since an earlier count of questions for the time. -/
def stoppedSince (h : Host τ) (earlier : Nat) : Bool :=
  (List.range (h.readings - earlier)).any fun k => h.stops (earlier + k)

end Host

end Chip8
