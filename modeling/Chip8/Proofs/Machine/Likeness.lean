import Chip8.Proofs.Machine.Moves

/-!
# What instructions cannot tell apart

Facts about two runs at once, that they go the same way although the machines differ, are proved
instruction by instruction.  `System.Alike` compares two systems in all that instructions work on
but the clock: registers without the options of drawing, memory, the picture, keys, records, and the
random bytes that are still to come.  A `Likeness` is a relation between two systems that implies
`Alike` and survives the same change on both sides.

`Likeness.execute` says that **systems that are alike stay alike under every instruction that does
not look at the clock**, with the same answer or the same fault.  Two instructions look at the
clock, the one that reads the delay timer and the drawing that may have to wait; what a drawing does
once it need not wait is `Likeness.drawSprite`.
-/

namespace Chip8

/-- An instruction whose effect depends on the clock. -/
def Instruction.looksAtClock : Instruction → Bool
  | .getDelay _ | .draw .. => true
  | _ => false

namespace Registers

/-- Registers with other settings for drawings that wait. -/
def withWaits (r : Registers) (on waiting : Bool) : Registers :=
  { r with drawOnBlank := on, awaitingBlank := waiting }

/-- The registers without what is about drawings that wait. -/
def timeless (r : Registers) : Registers := r.withWaits false false

theorem withWaits_self (r : Registers) : r.withWaits r.drawOnBlank r.awaitingBlank = r := rfl

/-- What an action on registers leaves, with other settings for drawings that wait. -/
def resultWithWaits {α : Type} (on waiting : Bool) :
    EStateM.Result Fault Registers α → EStateM.Result Fault Registers α
  | .ok a r => .ok a (r.withWaits on waiting)
  | .error f r => .error f (r.withWaits on waiting)

/-- A call has nothing to do with drawings that wait. -/
theorem push_withWaits (address : Int) (r : Registers) (on waiting : Bool) :
    push address (r.withWaits on waiting) = resultWithWaits on waiting (push address r) := by
  show (if 16 ≤ r.sp then _ else _ : EStateM Fault Registers Unit) (r.withWaits on waiting) =
    resultWithWaits on waiting ((if 16 ≤ r.sp then _ else _ : EStateM Fault Registers Unit) r)
  by_cases hfull : 16 ≤ r.sp
  · rw [if_pos hfull, if_pos hfull]
    rfl
  · rw [if_neg hfull, if_neg hfull]
    have hsp : (r.withWaits on waiting).sp = r.sp := rfl
    rw [hsp]
    cases place? r.sp <;> rfl

/-- Nor has a return. -/
theorem pop_withWaits (r : Registers) (on waiting : Bool) :
    pop (r.withWaits on waiting) = resultWithWaits on waiting (pop r) := by
  show (if r.sp ≤ 0 then _ else _ : EStateM Fault Registers Int) (r.withWaits on waiting) =
    resultWithWaits on waiting ((if r.sp ≤ 0 then _ else _ : EStateM Fault Registers Int) r)
  by_cases hempty : r.sp ≤ 0
  · rw [if_pos hempty, if_pos hempty]
    rfl
  · rw [if_neg hempty, if_neg hempty]
    have hsp : (r.withWaits on waiting).sp = r.sp := rfl
    rw [hsp]
    cases place? (r.sp - 1) <;> rfl

end Registers

/-- Supplies that agree from now on agree from the next question on. -/
theorem agree_later {α : Type} {f g : Nat → α} {m n : Nat} (h : ∀ k, f (m + k) = g (n + k)) :
    ∀ k, f (m + 1 + k) = g (n + 1 + k) := by
  intro k
  rw [Nat.add_assoc, Nat.add_assoc]
  exact h (1 + k)

/-! ## Systems that are alike -/

/-- What is about time in a system: the clock, the settings for drawings that wait, and the times
that the host gives. -/
structure Timing (τ : Type) where
  clock : Clock τ
  drawOnBlank : Bool
  awaitingBlank : Bool
  time : Nat → τ
  readings : Nat

namespace System

variable {τ : Type}

/-- What is about time in a system. -/
def timing (s : System τ) : Timing τ :=
  ⟨s.machine.clock, s.machine.registers.drawOnBlank, s.machine.registers.awaitingBlank,
    s.host.time, s.host.readings⟩

/-- Two systems with the same of everything but what is about time, and the journal. -/
structure Alike (s t : System τ) : Prop where
  registers : s.machine.registers.timeless = t.machine.registers.timeless
  memory : s.machine.memory = t.machine.memory
  screen : s.machine.screen = t.machine.screen
  keypad : s.machine.keypad = t.machine.keypad
  accesses : s.machine.accesses = t.machine.accesses
  trace : s.machine.trace = t.machine.trace
  /-- The random bytes from now on. -/
  random : ∀ n, s.host.random (s.host.draws + n) = t.host.random (t.host.draws + n)

end System

namespace Action

variable {τ α β : Type}

/-- The same answer or the same fault, and related states. -/
inductive Matches (R : System τ → System τ → Prop) :
    EStateM.Result Fault (System τ) α → EStateM.Result Fault (System τ) α → Prop
  | ok (a : α) {s t : System τ} (h : R s t) : Matches R (.ok a s) (.ok a t)
  | error (f : Fault) {s t : System τ} (h : R s t) : Matches R (.error f s) (.error f t)

section Matches

variable {R : System τ → System τ → Prop} {s t : System τ}

theorem Matches.of_ok {a b : α} (h : Matches R (.ok a s) (.ok b t)) : a = b ∧ R s t := by
  cases h with
  | ok _ hst => exact ⟨rfl, hst⟩

theorem Matches.of_error {f : Fault} {r : EStateM.Result Fault (System τ) α}
    (h : Matches R (.error f s) r) : ∃ t, r = .error f t ∧ R s t := by
  cases h with
  | error _ hst => exact ⟨_, rfl, hst⟩

end Matches

/-- An action does the same to related systems. -/
def Respects (R : System τ → System τ → Prop) (act : Action τ α) : Prop :=
  ∀ s t, R s t → Matches R (act s) (act t)

/-- A relation between two systems that are alike, which survives the same change on both sides.  It
may say more about the timing, as long as timers can be set and a drawing can end its wait. -/
structure Likeness (R : System τ → System τ → Prop) : Prop where
  alike : ∀ {s t}, R s t → s.Alike t
  kept : ∀ {s t s' t'}, R s t → s'.timing = s.timing → t'.timing = t.timing → s'.Alike t' → R s' t'
  timers : ∀ {s t} (f : Clock τ → Clock τ), R s t →
    R { s with machine.clock := f s.machine.clock } { t with machine.clock := f t.machine.clock }
  released : ∀ {s t}, R s t →
    R { s with machine.registers.awaitingBlank := false }
      { t with machine.registers.awaitingBlank := false }

variable {R : System τ → System τ → Prop}

/-! ## Sequences -/

theorem Respects.bind {act : Action τ α} {f : α → Action τ β} (hact : Respects R act)
    (hf : ∀ a, Respects R (f a)) : Respects R (act >>= f) := by
  intro s t h
  have hfirst := hact s t h
  show Matches R (EStateM.bind act f s) (EStateM.bind act f t)
  rw [EStateM.bind, EStateM.bind]
  revert hfirst
  generalize act s = r, act t = r'
  rintro (⟨a, hst⟩ | ⟨e, hst⟩)
  · exact hf a _ _ hst
  · exact .error e hst

theorem respects_pure (a : α) : Respects R (pure a) := fun _ _ h => .ok a h

theorem respects_check (r : Except Fault α) : Respects R (check r) := by
  intro s t h
  cases r with
  | ok a => exact .ok a h
  | error f => exact .error f h

namespace Likeness

/-! ## Parts of instructions -/

/-- Looking at the registers, but not at what is about drawings that wait. -/
theorem withRegisters (h : Likeness R) {f : Registers → Action τ β}
    (htimeless : ∀ r, f r = f r.timeless) (hf : ∀ r, Respects R (f r)) :
    Respects R (registers >>= f) := by
  intro s t hst
  show Matches R (f s.machine.registers s) (f t.machine.registers t)
  rw [htimeless s.machine.registers, htimeless t.machine.registers, (h.alike hst).registers]
  exact hf _ s t hst

theorem updateRegisters (h : Likeness R) {f : Registers → Registers}
    (hf : ∀ r on waiting, f (r.withWaits on waiting) = (f r).withWaits on waiting) :
    Respects R (Action.updateRegisters f) := by
  intro s t hst
  have hwaits : ∀ r : Registers, f r = (f r).withWaits r.drawOnBlank r.awaitingBlank :=
    fun r => hf r r.drawOnBlank r.awaitingBlank
  have hkeeps : ∀ u : System τ,
      { u with machine.registers := f u.machine.registers }.timing = u.timing := by
    intro u
    simp only [System.timing]
    rw [hwaits]
    rfl
  have hregisters : (f s.machine.registers).timeless = (f t.machine.registers).timeless := by
    rw [Registers.timeless, Registers.timeless, ← hf, ← hf]
    exact congrArg f (h.alike hst).registers
  exact .ok () (h.kept hst (hkeeps s) (hkeeps t) { h.alike hst with registers := hregisters })

theorem onRegisters (h : Likeness R) {act : EStateM Fault Registers α}
    (hact : ∀ r on waiting,
      act (r.withWaits on waiting) = Registers.resultWithWaits on waiting (act r)) :
    Respects R (Action.onRegisters act) := by
  intro s t hst
  have hs := hact s.machine.registers.timeless s.machine.registers.drawOnBlank
    s.machine.registers.awaitingBlank
  have ht := hact t.machine.registers.timeless t.machine.registers.drawOnBlank
    t.machine.registers.awaitingBlank
  have hs' : act s.machine.registers = _ := hs
  have ht' : act t.machine.registers = _ := ht
  rw [(h.alike hst).registers] at hs'
  rw [Action.onRegisters, Action.onRegisters, hs', ht']
  cases act t.machine.registers.timeless with
  | ok a r => exact .ok a (h.kept hst rfl rfl { h.alike hst with registers := rfl })
  | error f r => exact .error f (h.kept hst rfl rfl { h.alike hst with registers := rfl })

theorem onScreen (h : Likeness R) (act : EStateM Fault Screen α) :
    Respects R (Action.onScreen act) := by
  intro s t hst
  rw [Action.onScreen, Action.onScreen, (h.alike hst).screen]
  cases act t.machine.screen with
  | ok a screen => exact .ok a (h.kept hst rfl rfl { h.alike hst with screen := rfl })
  | error f screen => exact .error f (h.kept hst rfl rfl { h.alike hst with screen := rfl })

theorem clearScreen (h : Likeness R) : Respects R (Action.clearScreen : Action τ Unit) := by
  intro s t hst
  have hscreen := congrArg Screen.clear (h.alike hst).screen
  exact .ok () (h.kept hst rfl rfl { h.alike hst with screen := hscreen })

theorem note (h : Likeness R) (e : Event) : Respects R (Action.note e) :=
  fun _ _ hst => .ok () (h.kept hst rfl rfl { h.alike hst with })

theorem randomByte (h : Likeness R) : Respects R (Action.randomByte : Action τ Int) := by
  intro s t hst
  have hrandom := (h.alike hst).random
  have hbyte : s.host.random s.host.draws = t.host.random t.host.draws := hrandom 0
  show Matches R (.ok (s.host.random s.host.draws) _) (.ok (t.host.random t.host.draws) _)
  rw [hbyte]
  exact .ok _ (h.kept hst rfl rfl { h.alike hst with random := agree_later hrandom })

theorem readCell (h : Likeness R) (address : Int) : Respects R (Action.read address) := by
  intro s t hst
  rw [Action.read, bind_of_ok (machine_apply s), bind_of_ok (machine_apply t)]
  cases Memory.locate address with
  | error f => exact .error f hst
  | ok a =>
    have haccesses : (hasRead s a).machine.accesses = (hasRead t a).machine.accesses := by
      rw [hasRead, hasRead, (h.alike hst).accesses, (h.alike hst).memory]
    show Matches R (.ok (s.machine.memory.get a) (hasRead s a))
      (.ok (t.machine.memory.get a) (hasRead t a))
    rw [(h.alike hst).memory]
    exact .ok _ (h.kept hst rfl rfl { h.alike hst with accesses := haccesses })

/-- Both bytes of a word. -/
theorem fetch (h : Likeness R) (address : Int) : Respects R (Action.fetch address) :=
  (h.readCell _).bind fun _ => (h.readCell _).bind fun _ => respects_pure _

theorem writeCell (h : Likeness R) (address data : Int) :
    Respects R (Action.write address data) := by
  intro s t hst
  rw [Action.write, bind_of_ok (machine_apply s), bind_of_ok (machine_apply t)]
  cases Memory.locate address with
  | error f => exact .error f hst
  | ok a =>
    rw [bind_of_ok (check_ok a s), bind_of_ok (check_ok a t)]
    cases Memory.byteOf data with
    | error f => exact .error f hst
    | ok b =>
      have hmemory : (hasWritten s a b).machine.memory = (hasWritten t a b).machine.memory := by
        rw [hasWritten, hasWritten, (h.alike hst).memory]
      have haccesses : (hasWritten s a b).machine.accesses =
          (hasWritten t a b).machine.accesses := by
        rw [hasWritten, hasWritten, (h.alike hst).accesses, (h.alike hst).memory]
      exact .ok () (h.kept hst rfl rfl
        { h.alike hst with memory := hmemory, accesses := haccesses })

theorem isPressed (h : Likeness R) (key : Int) : Respects R (Action.isPressed key) := by
  intro s t hst
  show Matches R (check (s.machine.keypad.isPressed key) s)
    (check (t.machine.keypad.isPressed key) t)
  rw [(h.alike hst).keypad]
  exact respects_check _ s t hst

theorem requestKey (h : Likeness R) (register : Int) : Respects R (Action.requestKey register) := by
  intro s t hst
  rw [Action.requestKey, bind_of_ok (machine_apply s), bind_of_ok (machine_apply t),
    (h.alike hst).keypad]
  cases t.machine.keypad.request register with
  | error f => exact .error f hst
  | ok keypad => exact .ok () (h.kept hst rfl rfl { h.alike hst with keypad := rfl })

theorem setTimer (h : Likeness R) (timer : Clock.Timer) (value : Int) :
    Respects R (Action.setTimer timer value) := by
  intro s t hst
  rw [Action.setTimer, bind_of_ok (machine_apply s), bind_of_ok (machine_apply t), Clock.assign,
    Clock.assign]
  cases Clock.timerValue value with
  | error f => exact .error f hst
  | ok b => exact .ok () (h.timers (fun c => c.withTimer timer b) hst)

/-! ## Loops -/

theorem storeRegisters (h : Likeness R) (xs : List (Fin 16)) :
    Respects R (Action.storeRegisters xs) := by
  induction xs with
  | nil => exact respects_pure ()
  | cons x xs ih =>
    refine h.withRegisters (fun _ => rfl) fun r => ?_
    exact (h.writeCell _ _).bind fun _ => (h.updateRegisters fun _ _ _ => rfl).bind fun _ => ih

theorem loadRegisters (h : Likeness R) (xs : List (Fin 16)) :
    Respects R (Action.loadRegisters xs) := by
  induction xs with
  | nil => exact respects_pure ()
  | cons x xs ih =>
    refine h.withRegisters (fun _ => rfl) fun r => ?_
    exact (h.readCell _).bind fun _ => (h.updateRegisters fun _ _ _ => rfl).bind fun _ => ih

theorem drawRows (h : Likeness R) (x : Int) (rows : Nat) : ∀ (y address : Int) (hit : Bool),
    Respects R (Action.drawRows x y address hit rows) := by
  induction rows with
  | zero => exact fun _ _ hit => respects_pure hit
  | succ rows ih =>
    intro y address hit
    exact (h.readCell _).bind fun _ => (h.onScreen _).bind fun _ => ih _ _ _

/-- A drawing that need not wait. -/
theorem drawSprite (h : Likeness R) (x y : Fin 16) (rows : Nat) :
    Respects R (Action.drawSprite x y rows) := by
  have hreleased : Respects R
      (Action.updateRegisters fun r => { r with awaitingBlank := false }) :=
    fun _ _ hst => .ok () (h.released hst)
  refine hreleased.bind fun _ => h.withRegisters (fun _ => rfl) fun r => ?_
  refine (h.drawRows _ _ _ _ _).bind fun hit => ?_
  exact (h.updateRegisters fun _ _ _ => rfl).bind fun _ => respects_pure _

/-! ## Instructions -/

/-- **Systems that are alike stay alike under every instruction that does not look at the clock**,
with the same answer or the same fault. -/
theorem execute [TimeScale τ] (h : Likeness R) {i : Instruction} (hi : i.looksAtClock = false) :
    Respects R (Action.execute i) := by
  cases i with
  | clear => exact h.clearScreen.bind fun _ => respects_pure _
  | ret => exact (h.onRegisters Registers.pop_withWaits).bind fun _ => respects_pure _
  | jump => exact respects_pure _
  | jumpOffset | skipEqual | skipUnequal | skipSame | skipDifferent =>
    exact h.withRegisters (fun _ => rfl) fun _ => respects_pure _
  | call =>
    refine h.withRegisters (fun _ => rfl) fun _ => ?_
    exact (h.onRegisters (Registers.push_withWaits _)).bind fun _ => respects_pure _
  | setByte | addByte | setIndex | addIndex =>
    exact (h.updateRegisters fun _ _ _ => rfl).bind fun _ => respects_pure _
  | copy =>
    exact (h.updateRegisters fun _ _ _ => rfl).bind fun _ =>
      h.withRegisters (fun _ => rfl) fun _ => respects_pure _
  | bitOr | bitAnd | bitXor | add | sub | subFrom | glyph =>
    exact h.withRegisters (fun _ => rfl) fun _ =>
      (h.updateRegisters fun _ _ _ => rfl).bind fun _ => respects_pure _
  | shiftRight | shiftLeft =>
    refine Respects.bind (h.withRegisters (fun _ => rfl) fun r => ?_) fun _ => ?_
    · cases r.shiftSecond <;> exact respects_pure _
    · exact (h.updateRegisters fun _ _ _ => rfl).bind fun _ => respects_pure _
  | random =>
    exact h.randomByte.bind fun _ =>
      (h.updateRegisters fun _ _ _ => rfl).bind fun _ => respects_pure _
  | skipPressed | skipReleased =>
    exact h.withRegisters (fun _ => rfl) fun _ => (h.isPressed _).bind fun _ => respects_pure _
  | awaitKey => exact (h.requestKey _).bind fun _ => respects_pure _
  | setDelay | setSound =>
    exact h.withRegisters (fun _ => rfl) fun _ => (h.setTimer _ _).bind fun _ => respects_pure _
  | decimal =>
    refine h.withRegisters (fun _ => rfl) fun r => ?_
    refine (h.writeCell _ _).bind fun _ => (h.writeCell _ _).bind fun _ => ?_
    exact (h.writeCell _ _).bind fun _ => respects_pure _
  | store => exact (h.storeRegisters _).bind fun _ => respects_pure _
  | load => exact (h.loadRegisters _).bind fun _ => respects_pure _
  | undefined =>
    exact h.withRegisters (fun _ => rfl) fun _ => (h.note _).bind fun _ => respects_pure _
  | draw | getDelay => cases hi

end Likeness

end Action

end Chip8
