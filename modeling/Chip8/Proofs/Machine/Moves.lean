import Chip8.Proofs.Machine.Cycle

/-!
# What every instruction respects

Some facts about instructions hold in every state, also in those that no program leads to, and need
no look at what the instruction computes: that it only ever adds to the record of accesses, that it
leaves the trace alone, and the like.  They are all of one form.  A relation between an earlier and
a later state is a `Motion` if it is respected by a change of any one part of the machine, and
`execute_moves` says that **every instruction respects every motion**, whether it succeeds or fails.
A first use of it is `step_options`: no step changes an option of the processor.

The keypad is set apart, because just one instruction changes it.
-/

namespace Chip8

/-- The register for which an instruction asks for a key, if it does. -/
def Instruction.asks? : Instruction → Option (Fin 16)
  | .awaitKey x => some x
  | _ => none

namespace Registers

/-- Registers with the program counter and the two options of others. -/
structure SameControl (r r' : Registers) : Prop where
  pc : r'.pc = r.pc
  shiftSecond : r'.shiftSecond = r.shiftSecond
  drawOnBlank : r'.drawOnBlank = r.drawOnBlank

theorem SameControl.refl (r : Registers) : r.SameControl r := ⟨rfl, rfl, rfl⟩

theorem SameControl.trans {r r' r'' : Registers} (h : r.SameControl r') (h' : r'.SameControl r'') :
    r.SameControl r'' :=
  ⟨h'.pc.trans h.pc, h'.shiftSecond.trans h.shiftSecond, h'.drawOnBlank.trans h.drawOnBlank⟩

/-- The registers that an action on registers leaves. -/
def leftBy {α : Type} : EStateM.Result Fault Registers α → Registers
  | .ok _ r => r
  | .error _ r => r

/-- A call changes the stack only, also where it fails. -/
theorem sameControl_push (address : Int) (r : Registers) :
    r.SameControl (leftBy (push address r)) := by
  by_cases hfull : 16 ≤ r.sp
  · rw [push_full address hfull]
    exact .refl r
  · show r.SameControl (leftBy ((if 16 ≤ r.sp then _ else _ : EStateM Fault Registers Unit) r))
    rw [if_neg hfull]
    cases place? r.sp with
    | none => exact .refl r
    | some k => exact ⟨rfl, rfl, rfl⟩

/-- A return changes the stack pointer only. -/
theorem sameControl_pop (r : Registers) : r.SameControl (leftBy (pop r)) := by
  by_cases hempty : r.sp ≤ 0
  · rw [pop_empty hempty]
    exact .refl r
  · show r.SameControl (leftBy ((if r.sp ≤ 0 then _ else _ : EStateM Fault Registers Int) r))
    rw [if_neg hempty]
    cases place? (r.sp - 1) with
    | none => exact ⟨rfl, rfl, rfl⟩
    | some k => exact ⟨rfl, rfl, rfl⟩

end Registers

namespace Action

variable {τ α β : Type}

/-- A relation between an earlier and a later state that a change of any one part but the keypad
respects.  Of the registers, the program counter and the options stay.  Memory changes together with
the record of accesses, and the clock ticks together with the host, who is asked for the time. -/
structure Motion [TimeScale τ] (R : System τ → System τ → Prop) : Prop where
  refl : ∀ s, R s s
  trans : ∀ {s t u}, R s t → R t u → R s u
  registers : ∀ s r, s.machine.registers.SameControl r → R s { s with machine.registers := r }
  screen : ∀ s picture, R s { s with machine.screen := picture }
  timer : ∀ s t value, R s { s with machine.clock := s.machine.clock.withTimer t value }
  ticked : ∀ s, R s s.ticked
  noted : ∀ s e, R s { s with host := s.host.note e }
  drawn : ∀ s, R s { s with host := s.host.drawRandom.2 }
  read : ∀ s a, R s (hasRead s a)
  write : ∀ s a b, R s (hasWritten s a b)

/-- An action respects a relation, whether it succeeds or fails. -/
def Moves (R : System τ → System τ → Prop) (act : Action τ α) : Prop := ∀ s, R s (stateOf (act s))

variable {R : System τ → System τ → Prop}

/-- Looking at the registers, and then going on. -/
theorem Moves.withRegisters {f : Registers → Action τ β} (hf : ∀ r, Moves R (f r)) :
    Moves R (registers >>= f) := fun s => hf s.machine.registers s

/-- Looking at the machine, and then going on. -/
theorem Moves.withMachine {f : Machine τ → Action τ β} (hf : ∀ m, Moves R (f m)) :
    Moves R (machine >>= f) := fun s => hf s.machine s

variable [TimeScale τ]

namespace Motion

/-! ## Parts of instructions -/

theorem pure (h : Motion R) (a : α) : Moves R (Pure.pure a) := fun s => h.refl s

theorem bind (h : Motion R) {act : Action τ α} {f : α → Action τ β} (hact : Moves R act)
    (hf : ∀ a, Moves R (f a)) : Moves R (act >>= f) := by
  intro s
  have hs := hact s
  cases hrun : act s with
  | error e t =>
    rw [bind_of_error hrun]
    rw [hrun] at hs
    exact hs
  | ok a t =>
    rw [bind_of_ok hrun]
    rw [hrun] at hs
    exact h.trans hs (hf a t)

theorem check (h : Motion R) (r : Except Fault α) : Moves R (Action.check r) := by
  intro s
  cases r <;> exact h.refl s

theorem updateRegisters (h : Motion R) {f : Registers → Registers}
    (hf : ∀ r : Registers, r.SameControl (f r)) : Moves R (Action.updateRegisters f) :=
  fun s => h.registers s _ (hf s.machine.registers)

theorem onRegisters (h : Motion R) {act : EStateM Fault Registers α}
    (hact : ∀ r : Registers, r.SameControl (Registers.leftBy (act r))) :
    Moves R (Action.onRegisters act) := by
  intro s
  have hs := hact s.machine.registers
  rw [Action.onRegisters]
  cases hrun : act s.machine.registers with
  | ok a r =>
    rw [hrun] at hs
    exact h.registers s r hs
  | error f r =>
    rw [hrun] at hs
    exact h.registers s r hs

theorem onScreen (h : Motion R) (act : EStateM Fault Screen α) : Moves R (Action.onScreen act) := by
  intro s
  rw [Action.onScreen]
  cases act s.machine.screen <;> exact h.screen s _

theorem note (h : Motion R) (e : Event) : Moves R (Action.note e) := fun s => h.noted s e

theorem randomByte (h : Motion R) : Moves R (Action.randomByte : Action τ Int) :=
  fun s => h.drawn s

theorem readCell (h : Motion R) (address : Int) : Moves R (Action.read address) := by
  intro s
  rw [Action.read, bind_of_ok (machine_apply s)]
  cases Memory.locate address with
  | error f => exact h.refl s
  | ok a => exact h.read s a

theorem fetch (h : Motion R) (address : Int) : Moves R (Action.fetch address) :=
  h.bind (h.readCell _) fun _ => h.bind (h.readCell _) fun _ => h.pure _

theorem writeCell (h : Motion R) (address data : Int) : Moves R (Action.write address data) := by
  intro s
  rw [Action.write, bind_of_ok (machine_apply s)]
  cases Memory.locate address with
  | error f => exact h.refl s
  | ok a =>
    rw [bind_of_ok (check_ok a s)]
    cases Memory.byteOf data with
    | error f => exact h.refl s
    | ok b => exact h.write s a b

theorem tick (h : Motion R) : Moves R (Action.tick : Action τ Unit) := fun s => h.ticked s

theorem isPressed (h : Motion R) (key : Int) : Moves R (Action.isPressed key) :=
  .withMachine fun _ => h.check _

theorem requestKey (h : Motion R) (hkeypad : ∀ s keypad, R s { s with machine.keypad := keypad })
    (register : Int) : Moves R (Action.requestKey register) :=
  .withMachine fun _ => h.bind (h.check _) fun _ s => hkeypad s _

theorem setTimer (h : Motion R) (t : Clock.Timer) (value : Int) :
    Moves R (Action.setTimer t value) := by
  intro s
  rw [Action.setTimer, bind_of_ok (machine_apply s), Clock.assign]
  cases Clock.timerValue value with
  | error f => exact h.refl s
  | ok b => exact h.timer s t b

/-! ## Loops -/

theorem storeRegisters (h : Motion R) (xs : List (Fin 16)) :
    Moves R (Action.storeRegisters xs) := by
  induction xs with
  | nil => exact h.pure ()
  | cons x xs ih =>
    refine .withRegisters fun r => ?_
    exact h.bind (h.writeCell _ _) fun _ =>
      h.bind (h.updateRegisters fun _ => ⟨rfl, rfl, rfl⟩) fun _ => ih

theorem loadRegisters (h : Motion R) (xs : List (Fin 16)) :
    Moves R (Action.loadRegisters xs) := by
  induction xs with
  | nil => exact h.pure ()
  | cons x xs ih =>
    refine .withRegisters fun r => ?_
    exact h.bind (h.readCell _) fun _ =>
      h.bind (h.updateRegisters fun _ => ⟨rfl, rfl, rfl⟩) fun _ => ih

theorem drawRows (h : Motion R) (x : Int) (rows : Nat) : ∀ (y address : Int) (hit : Bool),
    Moves R (Action.drawRows x y address hit rows) := by
  induction rows with
  | zero => exact fun _ _ hit => h.pure hit
  | succ rows ih =>
    intro y address hit
    exact h.bind (h.readCell _) fun _ => h.bind (h.onScreen _) fun _ => ih _ _ _

/-! ## Drawing -/

theorem mustWait (h : Motion R) : Moves R (Action.mustWait : Action τ Bool) := by
  refine .withRegisters fun r => ?_
  have hseen : Moves R (blankSeen : Action τ Bool) := by
    refine .withMachine fun m => ?_
    cases m.registers.awaitingBlank && m.clock.vblank with
    | true => exact h.pure true
    | false => exact h.bind h.tick fun _ => .withMachine fun m => h.pure _
  cases r.drawOnBlank with
  | true => exact h.bind hseen fun _ => h.pure _
  | false => exact h.pure false

theorem drawSprite (h : Motion R) (x y : Fin 16) (rows : Nat) :
    Moves R (Action.drawSprite x y rows) := by
  refine h.bind (h.updateRegisters fun _ => ⟨rfl, rfl, rfl⟩) fun _ => .withRegisters fun r => ?_
  refine h.bind (h.drawRows _ _ _ _ _) fun hit => ?_
  exact h.bind (h.updateRegisters fun _ => ⟨rfl, rfl, rfl⟩) fun _ => h.pure _

theorem draw (h : Motion R) (x y : Fin 16) (rows : Nat) :
    Moves R (Action.draw x y rows) := by
  refine h.bind h.mustWait fun wait => ?_
  cases wait with
  | true => exact h.bind (h.updateRegisters fun _ => ⟨rfl, rfl, rfl⟩) fun _ => h.pure _
  | false => exact h.drawSprite x y rows

end Motion

/-! ## Instructions -/

/-- **Every instruction respects every motion**, the one that asks for a key if a change of the
keypad does. -/
theorem execute_moves (h : Motion R) (i : Instruction)
    (hkeypad : i.asks? = none ∨ ∀ s keypad, R s { s with machine.keypad := keypad }) :
    Moves R (execute i) := by
  cases i with
  | clear => exact h.bind (fun s => h.screen s _) fun _ => h.pure _
  | ret => exact h.bind (h.onRegisters Registers.sameControl_pop) fun _ => h.pure _
  | jump => exact h.pure _
  | jumpOffset | skipEqual | skipUnequal | skipSame | skipDifferent =>
    exact .withRegisters fun _ => h.pure _
  | call =>
    refine .withRegisters fun _ => ?_
    exact h.bind (h.onRegisters (Registers.sameControl_push _)) fun _ => h.pure _
  | setByte | addByte | setIndex | addIndex =>
    exact h.bind (h.updateRegisters fun _ => ⟨rfl, rfl, rfl⟩) fun _ => h.pure _
  | copy =>
    exact h.bind (h.updateRegisters fun _ => ⟨rfl, rfl, rfl⟩) fun _ =>
      .withRegisters fun _ => h.pure _
  | bitOr | bitAnd | bitXor | add | sub | subFrom | glyph =>
    exact .withRegisters fun _ =>
      h.bind (h.updateRegisters fun _ => ⟨rfl, rfl, rfl⟩) fun _ => h.pure _
  | shiftRight | shiftLeft =>
    refine h.bind (.withRegisters fun r => ?_) fun _ => ?_
    · cases r.shiftSecond <;> exact h.pure _
    · exact h.bind (h.updateRegisters fun _ => ⟨rfl, rfl, rfl⟩) fun _ => h.pure _
  | random =>
    exact h.bind h.randomByte fun _ =>
      h.bind (h.updateRegisters fun _ => ⟨rfl, rfl, rfl⟩) fun _ => h.pure _
  | draw x y rows => exact h.draw x y rows.val
  | skipPressed | skipReleased =>
    exact .withRegisters fun _ => h.bind (h.isPressed _) fun _ => h.pure _
  | getDelay =>
    exact .withMachine fun _ =>
      h.bind (h.updateRegisters fun _ => ⟨rfl, rfl, rfl⟩) fun _ => h.pure _
  | awaitKey =>
    rcases hkeypad with hasks | hkeypad
    · cases hasks
    · exact h.bind (h.requestKey hkeypad _) fun _ => h.pure _
  | setDelay | setSound =>
    exact .withRegisters fun _ => h.bind (h.setTimer _ _) fun _ => h.pure _
  | decimal =>
    refine .withRegisters fun r => ?_
    refine h.bind (h.writeCell _ _) fun _ => h.bind (h.writeCell _ _) fun _ => ?_
    exact h.bind (h.writeCell _ _) fun _ => h.pure _
  | store => exact h.bind (h.storeRegisters _) fun _ => h.pure _
  | load => exact h.bind (h.loadRegisters _) fun _ => h.pure _
  | undefined => exact .withRegisters fun _ => h.bind (h.note _) fun _ => h.pure _

/-- A step respects every motion that a change of registers, keys and records respects. -/
theorem Motion.step (h : Motion R)
    (hrest : ∀ s registers keypad accesses trace, R s { s with
      machine :=
        { s.machine with
          registers := registers, keypad := keypad, accesses := accesses, trace := trace } }) :
    Moves R (Action.step : Action τ (Option Snapshot)) := by
  have hregisters : ∀ f, Moves R (Action.updateRegisters f : Action τ Unit) :=
    fun f s => hrest s (f s.machine.registers) s.machine.keypad s.machine.accesses s.machine.trace
  have htake : Moves R (takeAccesses : Action τ (Array Access)) :=
    .withMachine fun _ => h.bind (fun s => hrest s _ _ #[] _) fun _ => h.pure _
  have hdeliver : Moves R (deliverKey : Action τ Unit) := by
    refine h.bind (.withMachine fun _ => h.bind (fun s => hrest s _ _ _ _) fun _ => h.pure _) ?_
    intro response
    cases response with
    | none => exact h.pure ()
    | some p => exact hregisters _
  have hrun : Moves R (runInstruction : Action τ (Option Snapshot)) := by
    refine .withRegisters fun r => ?_
    refine h.bind (h.fetch _) fun word => ?_
    refine h.bind (execute_moves h _ (.inr fun s _ => hrest s _ _ _ _)) fun outcome => ?_
    refine .withRegisters fun r => h.bind (h.note _) fun _ => .withRegisters fun r' => ?_
    cases followUp r'.pc outcome.update with
    | none => exact h.pure none
    | some next =>
      refine h.bind (fun s => hrest s _ _ _ _) fun _ => h.bind (hregisters _) fun _ => ?_
      exact .withRegisters fun _ => h.bind htake fun _ => h.pure _
  refine h.bind h.tick fun _ => h.bind htake fun _ => .withMachine fun m => ?_
  cases m.keypad.waiting with
  | true => exact h.pure none
  | false =>
    refine h.bind hdeliver fun _ => .withRegisters fun r => ?_
    show Moves R (if 4096 ≤ r.pc then Pure.pure none else runInstruction)
    split
    · exact h.pure none
    · exact hrun

theorem motion_control :
    Motion (fun s t : System τ => s.machine.registers.SameControl t.machine.registers) where
  refl s := .refl s.machine.registers
  trans hst htu := hst.trans htu
  registers _ _ h := h
  screen s _ := .refl s.machine.registers
  timer s _ _ := .refl s.machine.registers
  ticked s := .refl s.machine.registers
  noted s _ := .refl s.machine.registers
  drawn s := .refl s.machine.registers
  read s _ := .refl s.machine.registers
  write s _ _ := .refl s.machine.registers

/-- No instruction changes the program counter or an option. -/
theorem execute_control (i : Instruction) (s : System τ) :
    s.machine.registers.SameControl (stateOf (execute i s)).machine.registers :=
  execute_moves motion_control i (.inr fun t _ => .refl t.machine.registers) s

/-- **No step changes an option**, however it goes. -/
theorem step_options {s : System τ} (hpc : 0 ≤ s.machine.registers.pc) :
    (stateOf (step s)).machine.registers.shiftSecond = s.machine.registers.shiftSecond ∧
      (stateOf (step s)).machine.registers.drawOnBlank = s.machine.registers.drawOnBlank := by
  have hprepared : s.machine.registers.SameControl s.prepared.machine.registers := by
    show s.machine.registers.SameControl
      (s.machine.registers.deliver s.machine.keypad.response)
    cases s.machine.keypad.response <;> exact ⟨rfl, rfl, rfl⟩
  rcases step_cases s hpc with ⟨-, hrun⟩ | ⟨-, -, hrun⟩ | ⟨-, -, hrun⟩ | ⟨a, -, -, hrun⟩
  · rw [hrun]
    exact ⟨rfl, rfl⟩
  · rw [hrun]
    exact ⟨hprepared.shiftSecond, hprepared.drawOnBlank⟩
  · rw [hrun]
    exact ⟨hprepared.shiftSecond, hprepared.drawOnBlank⟩
  · have hexecuted := hprepared.trans (execute_control
      (Instruction.decode (s.machine.memory.word a)) (s.prepared.fetched a))
    rw [hrun]
    cases hresult :
        execute (Instruction.decode (s.machine.memory.word a)) (s.prepared.fetched a) with
    | error f t =>
      rw [hresult] at hexecuted
      exact ⟨hexecuted.shiftSecond, hexecuted.drawOnBlank⟩
    | ok o t =>
      rw [hresult] at hexecuted
      rw [finish]
      cases followUp t.machine.registers.pc o.update with
      | none => exact ⟨hexecuted.shiftSecond, hexecuted.drawOnBlank⟩
      | some next => exact ⟨hexecuted.shiftSecond, hexecuted.drawOnBlank⟩

end Action

end Chip8
