import Chip8.Proofs.Machine.Throttle

/-!
# Steps that carry nothing out

A step can do without an instruction for three reasons, and `System.Idle` lists them: a key is
awaited, the program counter is past the end of memory, or the instruction is a drawing that has to
wait.  The last one shows only after the word was fetched and the clock was asked once more.

* `advances_execute` — most instructions can only go on at the next one;
* `execute_stalls` — no other instruction than a drawing has to be tried again;
* `stalls_iff_idle` — **a step carries nothing out, and does not fail, exactly for these reasons**;
* `Idled` — what such a step leaves: everything but the clock, and the register to which a key is
  delivered, is as it was;
* `rests_afterAll`, `deliversOnce_afterAll` — **past the end of memory a machine stays where it
  is** until it is started over, memory is changed by the placing of programs only, and at most one
  key is delivered.
-/

namespace Chip8

variable {τ : Type}

/-! ## Instructions that have to be tried again -/

/-- An instruction that can only go on at the next one. -/
def Instruction.advances : Instruction → Bool
  | .ret | .jump _ | .call _ | .jumpOffset _ | .draw .. => false
  | .skipEqual .. | .skipUnequal .. | .skipSame .. | .skipDifferent .. => false
  | .skipPressed _ | .skipReleased _ => false
  | _ => true

namespace Action

/-- What succeeds in this action goes on at the next instruction. -/
def Advances (act : Action τ Outcome) : Prop := ∀ s o t, act s = .ok o t → o.update = .advance

/-- What succeeds in this action does not have to be tried again. -/
def GoesOn (act : Action τ Outcome) : Prop := ∀ s o t, act s = .ok o t → o.update ≠ .stall

theorem Advances.advance (display : String) :
    Advances (Pure.pure (.advance display) : Action τ Outcome) := by
  intro s o t hrun
  cases hrun
  rfl

/-- The end of a sequence decides. -/
theorem Advances.bind {α : Type} {act : Action τ α} {f : α → Action τ Outcome}
    (h : ∀ a, Advances (f a)) : Advances (act >>= f) := by
  intro s o u hrun
  obtain ⟨a, t, -, hf⟩ := bind_eq_ok hrun
  exact h a t o u hf

theorem Advances.goesOn {act : Action τ Outcome} (h : Advances act) : GoesOn act := by
  intro s o t hrun
  rw [h s o t hrun]
  exact PcUpdate.noConfusion

theorem GoesOn.pure {o : Outcome} (h : o.update ≠ .stall) : GoesOn (pure o : Action τ Outcome) := by
  intro s o' t hrun
  cases hrun
  exact h

theorem GoesOn.skipIf (condition : Bool) (display : String) :
    GoesOn (Pure.pure (.skipIf condition display) : Action τ Outcome) :=
  .pure (by cases condition <;> exact PcUpdate.noConfusion)

theorem GoesOn.bind {α : Type} {act : Action τ α} {f : α → Action τ Outcome}
    (h : ∀ a, GoesOn (f a)) : GoesOn (act >>= f) := by
  intro s o u hrun
  obtain ⟨a, t, -, hf⟩ := bind_eq_ok hrun
  exact h a t o u hf

/-- What is drawn now is followed by the next instruction. -/
theorem advances_drawSprite (x y : Fin 16) (rows : Nat) :
    Advances (drawSprite x y rows : Action τ Outcome) :=
  .bind fun _ => .bind fun _ => .bind fun _ => .bind fun _ => .advance _

variable [TimeScale τ]

/-- Instructions without a course of their own go on at the next one. -/
theorem advances_execute {i : Instruction} (h : i.advances = true) :
    Advances (execute i : Action τ Outcome) := by
  -- the cases differ in the number of actions that come before the answer
  cases i with
  | clear | setByte | addByte | setIndex | awaitKey | addIndex | store | load =>
    exact .bind fun _ => .advance _
  | glyph | random | getDelay | setDelay | setSound | copy | bitOr | bitAnd | bitXor | add | sub
  | subFrom | shiftRight | shiftLeft | undefined => exact .bind fun _ => .bind fun _ => .advance _
  | decimal => exact .bind fun _ => .bind fun _ => .bind fun _ => .bind fun _ => .advance _
  | _ => cases h

/-- An instruction that does not draw goes on. -/
theorem goesOn_of_not_draw {i : Instruction} (h : i.isDraw = false) :
    GoesOn (execute i : Action τ Outcome) := by
  cases hadvances : i.advances with
  | true => exact (advances_execute hadvances).goesOn
  | false =>
    cases i with
    | draw => cases h
    | jump => exact .pure nofun
    | skipEqual | skipUnequal | skipSame | skipDifferent => exact .bind fun _ => .skipIf _ _
    | skipPressed | skipReleased => exact .bind fun _ => .bind fun _ => .skipIf _ _
    | ret | jumpOffset => exact .bind fun _ => .pure nofun
    | call => exact .bind fun _ => .bind fun _ => .pure nofun
    | _ => cases hadvances

omit [TimeScale τ] in
/-- Only what has to be tried again is followed up by nothing. -/
theorem finish_none {place word : Int} {i : Instruction}
    {r : EStateM.Result Fault (System τ) Outcome} {t : System τ}
    (h : finish place word i r = .ok none t) : ∃ o u, r = .ok o u ∧ o.update = .stall := by
  cases r with
  | error f u => cases h
  | ok o u =>
    refine ⟨o, u, rfl, ?_⟩
    rw [finish] at h
    cases hnext : followUp u.machine.registers.pc o.update with
    | none => exact update_of_followUp hnext
    | some next =>
      rw [hnext] at h
      cases h

/-- **Only a drawing that has to wait is tried again.** -/
theorem execute_stalls {i : Instruction} {s t : System τ} {o : Outcome}
    (h : execute i s = .ok o t) (ho : o.update = .stall) :
    (∃ x y rows, i = .draw x y rows) ∧ s.drawStalls = true := by
  cases hdraw : i.isDraw with
  | false => exact absurd ho (goesOn_of_not_draw hdraw s o t h)
  | true =>
    cases i with
    | draw x y rows =>
      refine ⟨⟨x, y, rows, rfl⟩, ?_⟩
      cases hstalls : s.drawStalls with
      | true => rfl
      | false =>
        rw [execute, draw, bind_of_ok (mustWait_apply s), hstalls] at h
        exact absurd ho ((advances_drawSprite x y rows.val).goesOn _ o t h)
    | _ => cases hdraw

end Action

/-! ## Reasons to carry nothing out -/

namespace System

variable [TimeScale τ]

/-- A drawing that comes in the next step sees a picture start. -/
def blankComes (s : System τ) : Bool :=
  s.machine.registers.awaitingBlank && s.firstTick || s.secondTick

/-- The reasons for which the next step carries nothing out. -/
inductive Idle (s : System τ) : Prop where
  /-- A key is awaited. -/
  | waiting (h : s.machine.keypad.waiting = true)
  /-- The program counter is past the end of memory. -/
  | halted (h : 4096 ≤ s.machine.registers.pc)
  /-- The word at the program counter is a drawing that has to wait for a picture to start. -/
  | stalled (x y rows : Fin 16) (h : s.Attempts x y rows)
    (hon : s.machine.registers.drawOnBlank = true) (hblank : s.blankComes = false)

/-- A later state in which all that a program works on is as it was, except that the key which was to
be delivered has got into its register. -/
structure Idled (s t : System τ) : Prop extends s.StandsStill t where
  down : t.machine.keypad.down = s.machine.keypad.down
  shiftSecond : t.machine.registers.shiftSecond = s.machine.registers.shiftSecond
  drawOnBlank : t.machine.registers.drawOnBlank = s.machine.registers.drawOnBlank
  general : ∀ y, (∀ p, s.machine.keypad.response = some p → p.register ≠ y) →
    t.machine.registers.get y = s.machine.registers.get y
  delivered : ∀ p, s.machine.keypad.response = some p →
    t.machine.registers.get p.register = p.key.val

end System

namespace System

variable [TimeScale τ] {s t : System τ}

theorem drawStalls_fetched_iff (a : Fin 4095) : (s.prepared.fetched a).drawStalls = true ↔
    s.machine.registers.drawOnBlank = true ∧ s.blankComes = false := by
  constructor
  · intro h
    have hon := (drawOnBlank_fetched s a).symm.trans (drawOnBlank_of_stalls h)
    rw [drawStalls_fetched s a hon, ← Bool.not_or, Bool.not_eq_true'] at h
    exact ⟨hon, h⟩
  · rintro ⟨hon, hblank⟩
    rw [drawStalls_fetched s a hon, ← Bool.not_or, Bool.not_eq_true']
    exact hblank

omit [TimeScale τ] in
/-- A key that is delivered changes general registers only. -/
theorem Idled.intro (awaitingBlank : Bool)
    (hregisters : t.machine.registers =
      { s.machine.registers.deliver s.machine.keypad.response with awaitingBlank := awaitingBlank })
    (hmemory : t.machine.memory = s.machine.memory) (hscreen : t.machine.screen = s.machine.screen)
    (htrace : t.machine.trace = s.machine.trace)
    (hdown : t.machine.keypad.down = s.machine.keypad.down) : s.Idled t := by
  have hstill : s.StandsStill t := by
    constructor <;> simp [hregisters, hmemory, hscreen, htrace]
  have hgeneral : ∀ y, t.machine.registers.get y =
      (s.machine.registers.deliver s.machine.keypad.response).get y := by
    intro y
    rw [hregisters]
    rfl
  refine ⟨hstill, hdown, ?_, ?_, fun y hy => ?_, fun p hp => ?_⟩
  · simp [hregisters]
  · simp [hregisters]
  · exact (hgeneral y).trans (Registers.get_deliver_of_ne _ hy)
  · simp [hgeneral, hp, Registers.get_deliver]

/-- While a key is awaited, none is there to be delivered. -/
theorem idled_opened (hs : s.machine.WellFormed) (h : s.machine.keypad.waiting = true) :
    s.Idled s.opened := by
  refine .intro s.machine.registers.awaitingBlank ?_ rfl rfl rfl rfl
  rw [hs.keypad h]
  rfl

/-- For each of the reasons a step succeeds with nothing to tell, and leaves everything as it was but
for what was due. -/
theorem Idle.step (hs : s.machine.WellFormed) (h : s.Idle) :
    ∃ t, Action.step s = .ok none t ∧ s.Idled t := by
  cases h with
  | waiting h => exact ⟨_, Action.step_waiting h, idled_opened hs h⟩
  | halted h =>
    cases hw : s.machine.keypad.waiting with
    | true => exact ⟨_, Action.step_waiting hw, idled_opened hs hw⟩
    | false =>
      have hrun := (Action.step_active hw).trans (if_pos h)
      exact ⟨_, hrun, .intro _ rfl rfl rfl rfl rfl⟩
  | stalled x y rows h hon hblank =>
    obtain ⟨a, -, -, hrun⟩ := h.step_eq
    rw [Action.execute_draw_stalled x y rows ((drawStalls_fetched_iff a).2 ⟨hon, hblank⟩)] at hrun
    exact ⟨_, hrun, .intro _ rfl rfl rfl rfl rfl⟩

/-- **A step carries nothing out exactly for the reasons listed**, and for none of them it fails. -/
theorem stalls_iff_idle (hs : s.machine.WellFormed) : s.Stalls ↔ s.Idle := by
  constructor
  · rintro ⟨t, hstep⟩
    rcases Action.step_cases s hs.registers.pc.1 with
      ⟨hw, -⟩ | ⟨-, hhalt, -⟩ | ⟨-, -, hrun⟩ | ⟨a, hw, ha, hrun⟩
    · exact .waiting hw
    · exact .halted hhalt
    · rw [hrun] at hstep
      cases hstep
    · rw [hrun] at hstep
      obtain ⟨o, u, hexecute, ho⟩ := Action.finish_none hstep
      obtain ⟨⟨x, y, rows, hword⟩, hstalls⟩ := Action.execute_stalls hexecute ho
      obtain ⟨hon, hblank⟩ := (drawStalls_fetched_iff a).1 hstalls
      exact .stalled x y rows ⟨hw, a, ha, hword⟩ hon hblank
  · intro h
    obtain ⟨t, hstep, -⟩ := h.step hs
    exact ⟨t, hstep⟩

/-- **And it leaves everything as it was but for what was due.** -/
theorem idled_of_ok (hs : s.machine.WellFormed) (h : Action.step s = .ok none t) : s.Idled t := by
  obtain ⟨u, hstep, hidled⟩ := ((stalls_iff_idle hs).1 ⟨t, h⟩).step hs
  cases h.symm.trans hstep
  exact hidled

end System

/-! ## Past the end of memory -/

/-- The memory after an operation, if nothing but the placing of programs writes to it. -/
def Operation.placed (m : Memory) : Operation → Memory
  | .loadRom data => m.loadRom data
  | _ => m

namespace Keypad

/-- A key press that is to be delivered, now or once an awaited key goes down. -/
def Owes (k : Keypad) (p : KeyPress) : Prop :=
  k.response = some p ∨ k.waiting = true ∧ p.register = k.register

/-- A key that goes down or up leaves nothing more to be delivered. -/
theorem Owes.of_press {k : Keypad} {key : Fin 16} {pressed : Bool} {p : KeyPress}
    (h : (k.press key pressed).Owes p) : k.Owes p := by
  rw [press] at h
  split at h
  · exact h
  · simp only at h
    split at h
    · rename_i hanswer
      rw [Bool.and_eq_true] at hanswer
      rcases h with h | ⟨h, -⟩
      · cases h
        exact .inr ⟨hanswer.2, rfl⟩
      · cases h
    · exact h

end Keypad

namespace System

variable [TimeScale τ] {s t : System τ}

omit [TimeScale τ] in
/-- A later state in which a program finds the pointers, the stack and the trace as they were. -/
structure Rests (s t : System τ) : Prop where
  pc : t.machine.registers.pc = s.machine.registers.pc
  index : t.machine.registers.index = s.machine.registers.index
  sp : t.machine.registers.sp = s.machine.registers.sp
  stack : t.machine.registers.stack = s.machine.registers.stack
  trace : t.machine.trace = s.machine.trace

omit [TimeScale τ] in
theorem Rests.refl (s : System τ) : s.Rests s := ⟨rfl, rfl, rfl, rfl, rfl⟩

omit [TimeScale τ] in
theorem Rests.trans {u : System τ} (hst : s.Rests t) (htu : t.Rests u) : s.Rests u :=
  ⟨htu.pc.trans hst.pc, htu.index.trans hst.index, htu.sp.trans hst.sp,
    htu.stack.trans hst.stack, htu.trace.trans hst.trace⟩

omit [TimeScale τ] in
/-- What one operation does to the general registers: nothing, or it delivers a key, and then
nothing is left to be delivered. -/
inductive Settles (s t : System τ) : Prop where
  | kept (hgeneral : ∀ y, t.machine.registers.get y = s.machine.registers.get y)
    (howed : ∀ p, t.machine.keypad.Owes p → s.machine.keypad.Owes p)
  | delivered (p : KeyPress) (hp : s.machine.keypad.Owes p)
    (hgeneral : ∀ y, t.machine.registers.get y =
      if p.register = y then (p.key.val : Int) else s.machine.registers.get y)
    (hnone : ∀ q, ¬ t.machine.keypad.Owes q)

/-- Along a run the general registers stay as they are, unless a key press that is owed is delivered
after some of its operations; and no second one is. -/
def DeliversOnce (s : System τ) (run : List Operation) : Prop :=
  (∀ k y, (s.afterAll (run.take k)).machine.registers.get y = s.machine.registers.get y) ∨
    ∃ n p, s.machine.keypad.Owes p ∧
      ∀ k y, (s.afterAll (run.take k)).machine.registers.get y =
        if n < k ∧ p.register = y then (p.key.val : Int) else s.machine.registers.get y

/-! ### What the host does between steps -/

omit [TimeScale τ] in
/-- Said of any memory: to compare the states themselves would be to compute the one in which the
program was placed. -/
theorem keypad_withMemory (s : System τ) (memory : Memory) (host : Host τ) :
    ({ machine := { s.machine with memory := memory }, host := host } : System τ).machine.keypad =
      s.machine.keypad := rfl

section Handled

variable {o : Operation} (ho : o.keepsPath = true)

include ho

/-- What the host does between steps writes to memory only by placing a program. -/
theorem placed_after (s : System τ) : (s.after o).machine.memory = o.placed s.machine.memory := by
  cases o with
  | step | reset | resetAndLoad => cases ho
  | loadRom data =>
    obtain ⟨journal, hrun⟩ := Action.loadRom_apply data s
    rw [after, hrun]
    rfl
  | setKey key pressed =>
    obtain ⟨keypad, journal, hrun⟩ := Action.stateOf_setKey key pressed s
    rw [after, hrun]
    rfl
  | setShiftSecond | setDrawOnBlank => rfl
  | setForeground components =>
    obtain ⟨screen, hrun⟩ := after_setForeground components s
    rw [hrun]
    rfl
  | setBackground components =>
    obtain ⟨screen, hrun⟩ := after_setBackground components s
    rw [hrun]
    rfl

/-- And it changes the keypad only by a key that goes down or up. -/
theorem keypad_after (s : System τ) : (s.after o).machine.keypad = s.machine.keypad ∨
    ∃ key pressed, (s.after o).machine.keypad = s.machine.keypad.press key pressed := by
  cases o with
  | step | reset | resetAndLoad => cases ho
  | loadRom data =>
    obtain ⟨journal, hrun⟩ := Action.loadRom_apply data s
    rw [after, hrun]
    exact .inl (keypad_withMemory s _ _)
  | setKey key pressed =>
    rcases Action.setKey_cases key pressed s with ⟨k, journal, hrun⟩ | ⟨f, hrun⟩
    · rw [after, hrun]
      exact .inr ⟨k, pressed, rfl⟩
    · rw [after, hrun]
      exact .inl rfl
  | setShiftSecond | setDrawOnBlank => exact .inl rfl
  | setForeground components =>
    obtain ⟨screen, hrun⟩ := after_setForeground components s
    rw [hrun]
    exact .inl rfl
  | setBackground components =>
    obtain ⟨screen, hrun⟩ := after_setBackground components s
    rw [hrun]
    exact .inl rfl

theorem settles_handled (s : System τ) : s.Settles (s.after o) := by
  obtain ⟨_, _, _, hregisters⟩ := (handled_after ho s).registers
  refine .kept (fun y => ?_) fun p hp => ?_
  · simp [hregisters, Registers.get]
  · rcases keypad_after ho s with hkeypad | ⟨key, pressed, hkeypad⟩ <;> rw [hkeypad] at hp
    · exact hp
    · exact hp.of_press

theorem rests_handled (s : System τ) : s.Rests (s.after o) := by
  have hhandled := handled_after ho s
  obtain ⟨_, _, _, hregisters⟩ := hhandled.registers
  constructor <;> simp [hregisters, hhandled.trace]

end Handled

/-! ### Steps past the end of memory -/

variable {o : Operation} (hs : s.machine.WellFormed) (hhalt : 4096 ≤ s.machine.registers.pc)

include hs hhalt

theorem idled_after : s.Idled (s.after .step) := by
  obtain ⟨t, hstep, hidled⟩ := (Idle.halted hhalt).step hs
  rw [after_of_ok hstep]
  exact hidled

/-- A step delivers the key that is to be delivered, and takes no other one. -/
theorem settles_step : s.Settles (s.after .step) := by
  have hidled := idled_after hs hhalt
  cases hw : s.machine.keypad.waiting with
  | true =>
    refine .kept (fun y => hidled.general y ?_) fun p hp => ?_
    · rw [hs.keypad hw]
      exact nofun
    · rw [after_of_ok (Action.step_waiting hw)] at hp
      exact hp
  | false =>
    have hnone : ∀ q, ¬ (s.after .step).machine.keypad.Owes q := by
      rw [after_of_ok ((Action.step_active hw).trans (if_pos hhalt))]
      rintro q (hq | ⟨hq, -⟩)
      · cases hq
      · cases hw.symm.trans hq
    cases hresponse : s.machine.keypad.response with
    | none =>
      refine .kept (fun y => hidled.general y ?_) fun p hp => absurd hp (hnone p)
      rw [hresponse]
      exact nofun
    | some p =>
      refine .delivered p (.inl hresponse) (fun y => ?_) hnone
      by_cases hy : p.register = y
      · rw [if_pos hy, ← hy, hidled.delivered p hresponse]
      · rw [if_neg hy]
        refine hidled.general y fun q hq => ?_
        cases hresponse.symm.trans hq
        exact hy

variable (ho : o.startsOver = false)

include ho

theorem rests_after : s.Rests (s.after o) := by
  by_cases hstep : o = .step
  · subst hstep
    have hidled := idled_after hs hhalt
    exact ⟨hidled.pc, hidled.index, hidled.sp, hidled.stack, hidled.trace⟩
  · exact rests_handled (Operation.keepsPath_of_ne hstep ho) s

theorem settles_after : s.Settles (s.after o) := by
  by_cases hstep : o = .step
  · subst hstep
    exact settles_step hs hhalt
  · exact settles_handled (Operation.keepsPath_of_ne hstep ho) s

theorem memory_after_halted : (s.after o).machine.memory = o.placed s.machine.memory := by
  by_cases hstep : o = .step
  · subst hstep
    exact (idled_after hs hhalt).memory
  · exact placed_after (Operation.keepsPath_of_ne hstep ho) s

end System

/-! ### Two ways to get there -/

namespace System

variable [TimeScale τ] {s : System τ} {a : Fin 4095} (hw : s.machine.keypad.waiting = false)
  (ha : s.machine.registers.pc = (a.val : Int))

include hw ha

theorem after_jump {target : Fin 4096}
    (h : Instruction.decode (s.machine.memory.word a) = .jump target) :
    (s.after .step).machine.keypad.waiting = false ∧
      (s.after .step).machine.registers.pc = (target.val : Int) ∧
      (s.after .step).machine.memory = s.machine.memory := by
  have hstep := Action.step_inside hw ha
  rw [h] at hstep
  rw [after, hstep]
  exact ⟨hw, rfl, rfl⟩

theorem after_awaitKey {x : Fin 16}
    (h : Instruction.decode (s.machine.memory.word a) = .awaitKey x) :
    (s.after .step).machine.keypad.waiting = true ∧
      (s.after .step).machine.registers.pc = (a.val : Int) + 2 := by
  have hstep := Action.step_inside hw ha
  rw [h, Action.execute_awaitKey] at hstep
  have hpc : s.prepared.machine.registers.pc = (a.val : Int) := (prepared_pc s).trans ha
  rw [after, hstep, ← hpc]
  exact ⟨rfl, rfl⟩

end System

/-! ### Runs past the end of memory -/

namespace System

variable [TimeScale τ]

/-- **Past the end of memory a machine stays where it is**, and only programs that are placed change
memory. -/
theorem rests_afterAll (run : List Operation) : ∀ {s : System τ}, s.machine.WellFormed →
    4096 ≤ s.machine.registers.pc → (∀ o ∈ run, o.startsOver = false) →
    s.Rests (s.afterAll run) ∧
      (s.afterAll run).machine.memory = run.foldl Operation.placed s.machine.memory := by
  induction run with
  | nil => exact fun _ _ _ => ⟨.refl _, rfl⟩
  | cons o run ih =>
    intro s hs hhalt hrun
    have ho := hrun o (List.mem_cons_self ..)
    have hfirst := rests_after hs hhalt ho
    obtain ⟨hrest, hmemory⟩ := ih (hs.after o) (hfirst.pc.symm ▸ hhalt)
      fun o' ho' => hrun o' (List.mem_cons_of_mem o ho')
    refine ⟨hfirst.trans hrest, hmemory.trans ?_⟩
    rw [memory_after_halted hs hhalt ho]
    rfl

/-- If nothing is to be delivered, nothing is delivered. -/
theorem DeliversOnce.kept {s : System τ} {run : List Operation} (h : s.DeliversOnce run)
    (hnone : ∀ p, ¬ s.machine.keypad.Owes p) (k : Nat) (y : Fin 16) :
    (s.afterAll (run.take k)).machine.registers.get y = s.machine.registers.get y := by
  rcases h with h | ⟨n, p, hp, -⟩
  · exact h k y
  · exact absurd hp (hnone p)

/-- One operation in front of a run. -/
theorem DeliversOnce.cons {s : System τ} {o : Operation} {run : List Operation}
    (hfirst : s.Settles (s.after o)) (hrest : (s.after o).DeliversOnce run) :
    s.DeliversOnce (o :: run) := by
  -- after a delivery nothing is owed any more, and so the rest of the run delivers nothing
  cases hfirst with
  | kept hgeneral howed =>
    rcases hrest with hrest | ⟨n, p, hp, hrest⟩
    · refine .inl fun k y => ?_
      cases k with
      | zero => rfl
      | succ k => exact (hrest k y).trans (hgeneral y)
    · refine .inr ⟨n + 1, p, howed p hp, fun k y => ?_⟩
      cases k with
      | zero => exact (if_neg (by omega)).symm
      | succ k =>
        simp only [Nat.add_lt_add_iff_right, ← hgeneral y]
        exact hrest k y
  | delivered p hp hgeneral hnone =>
    refine .inr ⟨0, p, hp, fun k y => ?_⟩
    cases k with
    | zero => exact (if_neg (by omega)).symm
    | succ k =>
      simp only [Nat.zero_lt_succ, true_and]
      exact (hrest.kept hnone k y).trans (hgeneral y)

/-- **And at most one key is delivered.** -/
theorem deliversOnce_afterAll (run : List Operation) : ∀ {s : System τ}, s.machine.WellFormed →
    4096 ≤ s.machine.registers.pc → (∀ o ∈ run, o.startsOver = false) → s.DeliversOnce run := by
  induction run with
  | nil => exact fun _ _ _ => .inl fun k y => by rw [List.take_nil]; rfl
  | cons o run ih =>
    intro s hs hhalt hrun
    have ho := hrun o (List.mem_cons_self ..)
    refine .cons (settles_after hs hhalt ho) (ih (hs.after o) ?_ ?_)
    · rw [(rests_after hs hhalt ho).pc]
      exact hhalt
    · exact fun o' ho' => hrun o' (List.mem_cons_of_mem o ho')

/-- **A step succeeds and carries nothing out exactly if a key is awaited, the program counter is past
the end of memory, or a drawing has to wait**, in every state that programs and the host lead to; and
it leaves everything as it was but the clock, and the register to which a key is delivered.

Past the end of memory it is so for ever.  However the host makes steps, presses keys, places
programs and chooses options and colours, as long as it does not start the machine over every step
carries nothing out, the program counter stays, only the placing of programs writes to memory, and
at most one key is delivered. -/
theorem idles {s : System τ} (hs : s.Reachable) :
    (s.Stalls ↔ s.Idle) ∧
      (∀ t, Action.step s = .ok none t → s.Idled t) ∧
      (4096 ≤ s.machine.registers.pc → ∀ run, (∀ o ∈ run, o.startsOver = false) →
        (s.afterAll run).Stalls ∧ s.Rests (s.afterAll run) ∧
          (s.afterAll run).machine.memory = run.foldl Operation.placed s.machine.memory ∧
          s.DeliversOnce run) := by
  have hwell := hs.wellFormed
  refine ⟨stalls_iff_idle hwell, fun t => idled_of_ok hwell, fun hhalt run hrun => ?_⟩
  obtain ⟨hrests, hmemory⟩ := rests_afterAll run hwell hhalt hrun
  have hlast : (s.afterAll run).Idle := .halted (hrests.pc.symm ▸ hhalt)
  exact ⟨(stalls_iff_idle (hwell.afterAll run)).2 hlast, hrests, hmemory,
    deliversOnce_afterAll run hwell hhalt hrun⟩

/-- A program that jumps to the last word of memory and waits there for a key. -/
def lastWord : Bytes := #[0x1F, 0xFE] ++ Array.replicate 3580 0 ++ #[0xF3, 0x0A]

/-- A machine with that program. -/
def bound : System Rat := started (Host.still 0 fun _ => 0) lastWord

/-- That machine when it has carried out the program. -/
def pastEnd : System Rat := bound.afterAll [.step, .step]

/-- It waits past the end of memory, where a key can still be delivered to it. -/
theorem pastEnd_waits :
    pastEnd.machine.keypad.waiting = true ∧ pastEnd.machine.registers.pc = 4096 := by
  obtain ⟨journal, hrun⟩ :=
    Action.loadRom_apply lastWord (System.powerOn (Host.still (0 : Rat) fun _ => 0))
  have hbound : bound.machine.keypad.waiting = false ∧ bound.machine.registers.pc = 512 ∧
      bound.machine.memory = Memory.blank.loadRom lastWord := by
    rw [bound, started, after, hrun]
    exact ⟨rfl, rfl, rfl⟩
  obtain ⟨hw, hpc, hmemory⟩ := hbound
  have hjump : Instruction.decode (bound.machine.memory.word 512) = .jump 4094 := by
    have hword : bound.machine.memory.word 512 = 0x1FFE := by
      rw [hmemory, Memory.word_loadRom _ _ (k := 0) rfl]
      simp [lastWord]
    rw [hword]
    decide
  have hawait : Instruction.decode (bound.machine.memory.word 4094) = .awaitKey 3 := by
    have hword : bound.machine.memory.word 4094 = 0xF30A := by
      rw [hmemory, Memory.word_loadRom _ _ (k := 3582) rfl]
      simp [lastWord]
    rw [hword]
    decide
  obtain ⟨hw, hpc, hmemory⟩ := after_jump hw hpc hjump
  rw [← hmemory] at hawait
  rw [pastEnd, afterAll, List.foldl_cons, List.foldl_cons, List.foldl_nil]
  exact after_awaitKey hw hpc hawait

/-- What the host does then: it presses a key, makes steps, and places another program. -/
def afterwards : List Operation := [.step, .setKey 5 true, .step, .loadRom #[0x60, 0x01], .step]

/-- The key is delivered at most, the other program gets into memory, and nothing is carried out. -/
theorem idles_pastEnd :
    pastEnd.Reachable ∧ 4096 ≤ pastEnd.machine.registers.pc ∧
      (∀ o ∈ afterwards, o.startsOver = false) ∧ pastEnd.Stalls ∧
      (pastEnd.afterAll afterwards).Stalls ∧
      (pastEnd.afterAll afterwards).machine.registers.pc = 4096 ∧
      (pastEnd.afterAll afterwards).machine.memory =
        afterwards.foldl Operation.placed pastEnd.machine.memory ∧
      pastEnd.DeliversOnce afterwards := by
  have hbound : bound.Reachable := reachable_started _ _
  have hreach : pastEnd.Reachable := hbound.afterAll [.step, .step]
  obtain ⟨hwaiting, hpc⟩ := pastEnd_waits
  have hhalt : 4096 ≤ pastEnd.machine.registers.pc := by omega
  have hrun : ∀ o ∈ afterwards, o.startsOver = false := by decide
  obtain ⟨hidle, -, hlater⟩ := idles hreach
  obtain ⟨hstalls, hrests, hmemory, hdelivers⟩ := hlater hhalt afterwards hrun
  exact ⟨hreach, hhalt, hrun, hidle.2 (.waiting hwaiting), hstalls, hrests.pc.trans hpc, hmemory,
    hdelivers⟩

end System

end Chip8
