import Mathlib.Data.List.Forall2
import Chip8.Proofs.Clock.Exact
import Chip8.Proofs.Machine.History
import Chip8.Proofs.Machine.Likeness
import Chip8.Proofs.Machine.Snapshot

/-!
# Waiting only delays

The option by which drawings wait for a picture makes a machine slower, and does nothing else.  Two
machines are compared here, one that may wait and one that does not.  The first one makes steps that
the second one leaves out, those in which a drawing stalls, and their clocks have nothing to do with
each other; what they carry out is the same.

* `System.Lags` — the same state but for the time, on a system where drawings do not wait;
* `System.Abreast` — the same, once the key of an earlier wait is delivered, which a step that
  stalls has done already;
* `Abreast.step` — **how a step of the machine that waits compares with one of the other machine**;
* `Abreast.carried` — so the run that waits carries out what the other run carries out, and never
  gets ahead of it, until the delay timer is read or a step fails;
* `waiting_onlyDelays` — the same of two runs that start in one state.
-/

namespace Chip8

/-- An instruction that tells the time. -/
def Instruction.readsDelay : Instruction → Bool
  | .getDelay _ => true
  | _ => false

namespace Registers

theorem timeless_deliver (r : Registers) (response : Option KeyPress) :
    (r.deliver response).timeless = r.timeless.deliver response := by
  cases response <;> rfl

end Registers

variable {τ : Type}

namespace System

/-! ## Systems at the same point -/

theorem Alike.pc {s t : System τ} (h : s.Alike t) :
    s.machine.registers.pc = t.machine.registers.pc := by
  have htimeless : s.machine.registers.timeless.pc = t.machine.registers.timeless.pc := by
    rw [h.registers]
  exact htimeless

/-- An instruction is remembered alike, and leads on to the same address. -/
theorem Alike.remembered {s t : System τ} (h : s.Alike t) (entry : TraceEntry) (next : Int) :
    Alike
      { s with
        machine :=
          { s.machine.remember entry with
            registers := { s.machine.registers with pc := next }
            accesses := #[] } }
      { t with
        machine :=
          { t.machine.remember entry with
            registers := { t.machine.registers with pc := next }
            accesses := #[] } } := by
  refine ⟨?_, h.memory, h.screen, h.keypad, rfl, ?_, h.random⟩
  · exact congrArg (fun r : Registers => { r with pc := next }) h.registers
  · exact congrArg (fun trace => (entry :: trace).take traceLength) h.trace

/-- The same but for the time, and the second system does not let drawings wait. -/
structure Lags (s t : System τ) : Prop where
  alike : s.Alike t
  eager : t.machine.registers.drawOnBlank = false

/-- A system that lags behind another one still does after what both undergo. -/
theorem likeness_lags : Action.Likeness (Lags : System τ → System τ → Prop) where
  alike h := h.alike
  kept := by
    intro s t s' t' h _ ht halike
    have heager : t'.timing.drawOnBlank = false := by
      rw [ht]
      exact h.eager
    exact ⟨halike, heager⟩
  timers f h := ⟨{ h.alike with }, h.eager⟩
  released h := ⟨{ h.alike with }, h.eager⟩

variable [TimeScale τ]

/-- The same, but for the time, once the key of an earlier wait is delivered. -/
structure Abreast (s t : System τ) : Prop where
  waiting : s.machine.keypad.waiting = t.machine.keypad.waiting
  prepared : s.prepared.Lags t.prepared

/-- Systems that are alike are so once the key is delivered. -/
theorem Lags.abreast {s t : System τ} (h : s.Lags t) : s.Abreast t := by
  obtain ⟨halike, heager⟩ := h
  have hkeypad := halike.keypad
  refine ⟨by rw [hkeypad], ⟨?_, ?_⟩⟩
  · refine ⟨?_, halike.memory, halike.screen, ?_, rfl, halike.trace, halike.random⟩
    · show (s.machine.registers.deliver s.machine.keypad.response).timeless =
        (t.machine.registers.deliver t.machine.keypad.response).timeless
      rw [Registers.timeless_deliver, Registers.timeless_deliver, halike.registers, hkeypad]
    · show { s.machine.keypad with response := none } = { t.machine.keypad with response := none }
      rw [hkeypad]
  · show (t.machine.registers.deliver t.machine.keypad.response).drawOnBlank = false
    rw [Registers.deliver_drawOnBlank]
    exact heager

/-! ## One instruction -/

/-- The same instruction with the same effect, in all that is not about time. -/
structure SameEffect (x y : Snapshot × System τ) : Prop where
  entry : x.1.entry = y.1.entry
  instruction : x.1.instruction = y.1.instruction
  accesses : x.1.accesses = y.1.accesses
  /-- The states in which the instruction left the two systems. -/
  state : x.2.Alike y.2

/-- How a step of a system that may wait compares with one of a system that does not. -/
inductive Compared (s t : System τ) : Prop
  /-- The drawing stalls on the one that waits. -/
  | lagging {s' : System τ} (hs : Action.step s = .ok none s') (h : s'.Abreast t)
  /-- Neither carries out anything. -/
  | idling {s' t' : System τ} (hs : Action.step s = .ok none s') (ht : Action.step t = .ok none t')
      (h : s'.Abreast t')
  /-- Both fail, for the same reason. -/
  | failing {s' t' : System τ} {f : Fault} (hs : Action.step s = .error f s')
      (ht : Action.step t = .error f t')
  /-- Both read the delay timer. -/
  | reading {s' t' : System τ} {x y : Snapshot} (hs : Action.step s = .ok (some x) s')
      (ht : Action.step t = .ok (some y) t') (hx : x.instruction.readsDelay = true)
      (hy : y.instruction.readsDelay = true)
  /-- Both carry out the same, with the same effect. -/
  | carrying {s' t' : System τ} {x y : Snapshot} (hs : Action.step s = .ok (some x) s')
      (ht : Action.step t = .ok (some y) t') (hx : x.instruction.readsDelay = false)
      (hsame : SameEffect (x, s') (y, t')) (h : s'.Lags t')

/-- **A drawing is the only instruction that one of them may put off**, and reading the delay timer
the only one that may turn out otherwise. -/
theorem Lags.execute {s t : System τ} (h : s.Lags t) {i : Instruction}
    (hi : i.readsDelay = false) :
    (∃ x y rows, i = .draw x y rows ∧ s.drawStalls = true) ∨
      Action.Matches Lags (Action.execute i s) (Action.execute i t) := by
  cases hlooks : i.looksAtClock with
  | false => exact .inr (likeness_lags.execute hlooks s t h)
  | true =>
    cases i with
    | draw x y rows =>
      cases hstalls : s.drawStalls with
      | true => exact .inl ⟨x, y, rows, rfl, rfl⟩
      | false =>
        have hasked : s.asked.Lags t := by
          rw [asked]
          split
          · exact ⟨{ h.alike with }, h.eager⟩
          · exact h
        have hs : Action.execute (.draw x y rows) s = Action.drawSprite x y rows.val s.asked := by
          rw [Action.execute, Action.draw, bind_of_ok (Action.mustWait_apply s), hstalls]
          rfl
        have ht : Action.execute (.draw x y rows) t = Action.drawSprite x y rows.val t := by
          rw [Action.execute, Action.draw, bind_of_ok (Action.mustWait_apply t), drawStalls,
            asked, asksClock, h.eager]
          rfl
        rw [hs, ht]
        exact .inr (likeness_lags.drawSprite x y rows.val _ _ hasked)
    | getDelay x => cases hi
    | _ => cases hlooks

/-! ## One step -/

variable {s t : System τ}

/-- What both carry out alike is followed up alike. -/
theorem Compared.ofMatches {pc word : Int} {i : Instruction}
    {r r' : EStateM.Result Fault (System τ) Outcome} (hi : i.readsDelay = false)
    (hs : Action.step s = Action.finish pc word i r)
    (ht : Action.step t = Action.finish pc word i r') (h : Action.Matches Lags r r') :
    s.Compared t := by
  cases h with
  | error f h => exact .failing hs ht
  | @ok o u v h =>
    rw [Action.finish] at hs ht
    rw [← h.alike.pc] at ht
    cases hnext : Action.followUp u.machine.registers.pc o.update with
    | none =>
      rw [hnext] at hs ht
      have hnoted := likeness_lags.note (.executed u.machine.registers.pc word o.display) u v h
      cases hnoted with
      | ok _ hnoted => exact .idling hs ht hnoted.abreast
    | some next =>
      rw [hnext] at hs ht
      have hremembered := h.alike.remembered ⟨pc, word, o.display⟩ next
      exact .carrying hs ht hi ⟨rfl, rfl, h.alike.accesses, { hremembered with }⟩
        ⟨{ hremembered with }, h.eager⟩

/-- A drawing that stalls leaves the system where it was, with the key delivered. -/
theorem Abreast.stalled (h : s.Abreast t) {pc word : Int} {a : Fin 4095} {x y rows : Fin 16}
    (hstalls : (s.prepared.fetched a).drawStalls = true)
    (hs : Action.step s = Action.finish pc word (.draw x y rows)
      (Action.execute (.draw x y rows) (s.prepared.fetched a))) : s.Compared t := by
  rw [Action.execute_draw_stalled x y rows hstalls] at hs
  refine .lagging hs ⟨h.waiting, ?_, h.prepared.eager⟩
  exact { h.prepared.alike with }

/-- An instruction that tells the time is carried out by both. -/
theorem Compared.ofReadsDelay {pc word pc' word' : Int} {i : Instruction} {u v : System τ}
    (hi : i.readsDelay = true) (hs : Action.step s = Action.finish pc word i (Action.execute i u))
    (ht : Action.step t = Action.finish pc' word' i (Action.execute i v)) : s.Compared t := by
  cases i with
  | getDelay x => exact .reading hs ht rfl rfl
  | _ => cases hi

/-- Both fetch the same word, or fail to. -/
theorem Abreast.running (h : s.Abreast t) (hs : Action.step s = Action.runInstruction s.prepared)
    (ht : Action.step t = Action.runInstruction t.prepared) : s.Compared t := by
  have hfetch := likeness_lags.fetch t.prepared.machine.registers.pc _ _ h.prepared
  rcases Action.fetch_cases t.prepared.machine.registers.pc s.prepared with
    ⟨a, ha⟩ | ⟨f, u, hfails⟩
  · rw [Action.runInstruction_inside (h.prepared.alike.pc.trans ha)] at hs
    rw [Action.runInstruction_inside ha] at ht
    rw [ha, Action.fetch_inside, Action.fetch_inside] at hfetch
    obtain ⟨hword, hfetched⟩ := hfetch.of_ok
    rw [hword] at hs
    generalize Instruction.decode (t.prepared.machine.memory.word a) = i at hs ht
    cases hi : i.readsDelay with
    | true => exact .ofReadsDelay hi hs ht
    | false =>
      rcases hfetched.execute hi with ⟨x, y, rows, rfl, hstalls⟩ | hmatches
      · exact h.stalled hstalls hs
      · exact .ofMatches hi hs ht hmatches
  · rw [hfails] at hfetch
    obtain ⟨v, hfails', -⟩ := hfetch.of_error
    rw [Action.runInstruction_eq, h.prepared.alike.pc, hfails] at hs
    rw [Action.runInstruction_eq, hfails'] at ht
    exact .failing hs ht

/-- **How a step of a system that may wait compares with one of a system that does not.** -/
theorem Abreast.step (h : s.Abreast t) : s.Compared t := by
  have hpc : s.machine.registers.pc = t.machine.registers.pc := by
    rw [← prepared_pc s, ← prepared_pc t]
    exact h.prepared.alike.pc
  cases hw : t.machine.keypad.waiting with
  | true =>
    refine .idling (Action.step_waiting (h.waiting.trans hw)) (Action.step_waiting hw)
      ⟨h.waiting, ?_, h.prepared.eager⟩
    exact { h.prepared.alike with }
  | false =>
    have hs := Action.step_active (h.waiting.trans hw)
    have ht := Action.step_active hw
    rw [hpc] at hs
    by_cases hhalt : 4096 ≤ t.machine.registers.pc
    · rw [if_pos hhalt] at hs ht
      refine .idling hs ht ⟨h.waiting, ?_, h.prepared.eager⟩
      exact { h.prepared.alike with }
    · rw [if_neg hhalt] at hs ht
      exact h.running hs ht

/-! ## Whole runs -/

/-- What steps carry out, each with the state in which it leaves the system, until a step fails or
tells the time. -/
def carried (s : System τ) : Nat → List (Snapshot × System τ)
  | 0 => []
  | n + 1 =>
    match Action.step s with
    | .error _ _ => []
    | .ok none t => t.carried n
    | .ok (some snapshot) t =>
      if snapshot.instruction.readsDelay then [] else (snapshot, t) :: t.carried n

section Carried

variable {n : Nat}

theorem carried_of_idle (h : Action.step s = .ok none t) : s.carried (n + 1) = t.carried n := by
  rw [carried, h]

theorem carried_of_error {f : Fault} (h : Action.step s = .error f t) : s.carried (n + 1) = [] := by
  rw [carried, h]

theorem carried_of_some {snapshot : Snapshot} (h : Action.step s = .ok (some snapshot) t) :
    s.carried (n + 1) =
      if snapshot.instruction.readsDelay then [] else (snapshot, t) :: t.carried n := by
  rw [carried, h]

end Carried

/-- More steps carry out more. -/
theorem carried_extends (n : Nat) : ∀ (s : System τ) (m : Nat),
    s.carried n <+: s.carried (n + m) := by
  induction n with
  | zero => exact fun _ _ => List.nil_prefix
  | succ n ih =>
    intro s m
    rw [Nat.add_right_comm, carried, carried]
    split
    · exact List.nil_prefix
    · exact ih _ m
    · split
      · exact List.nil_prefix
      · exact List.prefix_cons_inj _ |>.2 (ih _ m)

/-- **The run that waits carries out what the other run carries out**, and the other run needs no
more steps for it. -/
theorem Abreast.carried (n : Nat) : ∀ {s t : System τ}, s.Abreast t →
    ∃ k ≤ n, List.Forall₂ SameEffect (s.carried n) (t.carried k) := by
  induction n with
  | zero => exact fun _ => ⟨0, Nat.le_refl 0, .nil⟩
  | succ n ih =>
    intro s t h
    cases h.step with
    | lagging hs hnext =>
      obtain ⟨k, hk, hsame⟩ := ih hnext
      refine ⟨k, by omega, ?_⟩
      rw [carried_of_idle hs]
      exact hsame
    | idling hs ht hnext =>
      obtain ⟨k, hk, hsame⟩ := ih hnext
      refine ⟨k + 1, by omega, ?_⟩
      rw [carried_of_idle hs, carried_of_idle ht]
      exact hsame
    | failing hs _ =>
      refine ⟨0, by omega, ?_⟩
      rw [carried_of_error hs]
      exact .nil
    | reading hs _ hx _ =>
      refine ⟨0, by omega, ?_⟩
      rw [carried_of_some hs, if_pos hx]
      exact .nil
    | carrying hs ht hx hfirst hnext =>
      obtain ⟨k, hk, hsame⟩ := ih hnext.abreast
      have hy := hx
      rw [hfirst.instruction] at hy
      refine ⟨k + 1, by omega, ?_⟩
      rw [carried_of_some hs, carried_of_some ht, hx, hy]
      exact .cons hfirst hsame

theorem getElem?_carried_of_le (s : System τ) {m n : Nat} (h : m ≤ n) {j : Nat}
    {x : Snapshot × System τ} (hx : (s.carried m)[j]? = some x) : (s.carried n)[j]? = some x := by
  obtain ⟨d, rfl⟩ := Nat.exists_eq_add_of_le h
  obtain ⟨hj, hget⟩ := List.getElem?_eq_some_iff.1 hx
  rw [List.prefix_iff_getElem?.1 (carried_extends m s d) j hj, hget]

/-- What one run has carried out as its `j`-th instruction, the other run has, or will. -/
theorem Abreast.sameEffect (h : s.Abreast t) {m n j : Nat} {x y : Snapshot × System τ}
    (hx : (s.carried m)[j]? = some x) (hy : (t.carried n)[j]? = some y) : SameEffect x y := by
  obtain ⟨k, -, hsame⟩ := h.carried m
  obtain ⟨hj, hget⟩ := List.getElem?_eq_some_iff.1 hx
  have hj' : j < (t.carried k).length := hsame.length_eq ▸ hj
  have heffect := hsame.get hj hj'
  have hreached : (t.carried k)[j]? = some (t.carried k)[j] := List.getElem?_eq_getElem hj'
  have hlater := getElem?_carried_of_le t (Nat.le_max_left k n) hreached
  rw [getElem?_carried_of_le t (Nat.le_max_right k n) hy] at hlater
  cases hlater
  rw [← hget]
  exact heffect

/-- **Waiting for pictures only delays.**  Two runs start in one state, one with drawings that wait
and one without, and are given any times.  Until a step fails or the delay timer is read, the `j`-th
instruction of one is that of the other, with the same effect on everything but the clock and the
settings for drawings that wait, and the run without waits is never behind. -/
theorem waiting_onlyDelays (s : System τ) (slow fast : Nat → τ) :
    let waiting := ({ s with host.time := slow }).after (.setDrawOnBlank true)
    let eager := ({ s with host.time := fast }).after (.setDrawOnBlank false)
    (∀ (m n j : Nat) (x y : Snapshot × System τ),
      (waiting.carried m)[j]? = some x → (eager.carried n)[j]? = some y → SameEffect x y) ∧
    ∀ m, (waiting.carried m).length ≤ (eager.carried m).length := by
  intro waiting eager
  have halike : waiting.Alike eager := ⟨rfl, rfl, rfl, rfl, rfl, rfl, fun _ => rfl⟩
  have hlags : waiting.Lags eager := ⟨halike, rfl⟩
  refine ⟨fun m n j x y hx hy => hlags.abreast.sameEffect hx hy, fun m => ?_⟩
  obtain ⟨k, hk, hsame⟩ := hlags.abreast.carried m
  obtain ⟨d, rfl⟩ := Nat.exists_eq_add_of_le hk
  rw [hsame.length_eq]
  exact (carried_extends k eager d).length_le

/-- A machine whose program draws. -/
def drawing : System Rat := .started (Host.still 0 fun _ => 0) #[0xD0, 0x01]

/-- Its drawing is carried out unless it has to wait. -/
theorem step_drawing {u : System Rat} (hu : u.machine.WellFormed)
    (hword : u.machine.memory.word 512 = 0xD001) (hidle : u.machine.keypad.waiting = false)
    (hpc : u.machine.registers.pc = 512) (hindex : u.prepared.machine.registers.index = 0)
    (hgo : (u.prepared.fetched 512).drawStalls = false) :
    ∃ x t, Action.step u = .ok (some x) t ∧ x.instruction = .draw 0 0 1 := by
  have hdecode : Instruction.decode 0xD001 = .draw 0 0 1 := by decide
  have hs := Action.step_inside (a := 512) hidle hpc
  rw [hword, hdecode] at hs
  have hr : (u.prepared.fetched 512).machine.registers.InRange := hu.registers.deliver _
  obtain ⟨v, cells, accesses, display, hrun, -⟩ := Action.execute_draw 0 0 1 hr hgo
  have hindex' : (u.prepared.fetched 512).machine.registers.index = 0 := hindex
  rw [hrun, hindex', Action.endOfSweep, if_pos (.inr (by decide)), Action.finish] at hs
  exact ⟨_, _, hs, rfl⟩

/-- A drawing stalls until the third time that is asked for, and does then what it does at once
elsewhere. -/
theorem waiting_onlyDelays_drawing :
    let slow : Nat → Rat := fun n => if n ≤ 2 then 0 else 1 / 64
    let waiting := ({ drawing with host.time := slow }).after (.setDrawOnBlank true)
    let eager := ({ drawing with host.time := fun _ => 0 }).after (.setDrawOnBlank false)
    waiting.carried 1 = [] ∧ ∃ x y, (waiting.carried 2)[0]? = some x ∧
      (eager.carried 1)[0]? = some y ∧ SameEffect x y ∧ x.1.instruction = .draw 0 0 1 := by
  intro slow waiting eager
  have hword : drawing.machine.memory.word 512 = 0xD001 := Memory.word_loadRom _ _ (k := 0) rfl
  have hdecode : Instruction.decode 0xD001 = .draw 0 0 1 := by decide
  have hdrawing : drawing.machine.WellFormed := (reachable_started _ _).wellFormed
  have hwaiting : waiting.machine.WellFormed :=
    { hdrawing with registers := hdrawing.registers.setDrawOnBlank true }
  have heager : eager.machine.WellFormed :=
    { hdrawing with registers := hdrawing.registers.setDrawOnBlank false }
  -- the first step of the run that waits
  have hstalls : (waiting.prepared.fetched 512).drawStalls = true := by decide +kernel
  have hs := Action.step_inside (s := waiting) (a := 512) rfl rfl
  have hword' : waiting.machine.memory.word 512 = 0xD001 := hword
  rw [hword', hdecode, Action.execute_draw_stalled 0 0 1 hstalls] at hs
  let next : System Rat :=
    { machine :=
        { (waiting.prepared.fetched 512).ticked.machine with registers.awaitingBlank := true }
      host := (waiting.prepared.fetched 512).ticked.host.note
        (.executed 512 0xD001 "Waiting for vblank") }
  have hfirst : Action.step waiting = .ok none next := hs
  -- its second step, and the first one of the other run
  have hnext : next.machine.WellFormed := by
    have hkept := Action.step_keeps hwaiting
    rw [hfirst] at hkept
    exact hkept
  obtain ⟨x, t, hx, hxi⟩ := step_drawing hnext hword rfl rfl rfl (by decide +kernel)
  obtain ⟨y, t', hy, hyi⟩ := step_drawing heager hword rfl rfl rfl rfl
  have hcarried : (waiting.carried 2)[0]? = some (x, t) := by
    rw [carried_of_idle hfirst, carried_of_some hx, hxi]
    rfl
  have hcarried' : (eager.carried 1)[0]? = some (y, t') := by
    rw [carried_of_some hy, hyi]
    rfl
  have hsame := (waiting_onlyDelays drawing slow fun _ => 0).1 2 1 0 _ _ hcarried hcarried'
  exact ⟨carried_of_idle hfirst, _, _, hcarried, hcarried', hsame, hxi⟩

end System

end Chip8
