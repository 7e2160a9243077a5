import Chip8.Proofs.Machine.History
import Chip8.Proofs.Machine.Moves

/-!
# Where a machine is in a wait

An instruction may ask for a key, a key that goes down answers it, and the next step delivers the
answer.  `Wait` says where a machine is in this protocol, told from outside: from what the steps
carried out and which keys went down.  `wait_after` says that **the keypad is always where the
protocol is**, for every order of steps and keys.
-/

namespace Chip8

variable {τ : Type}

/-- The register for which a step begins to wait, if it does. -/
def System.asks? [TimeScale τ] (s : System τ) : Option (Fin 16) :=
  match Action.step s with
  | .ok (some snapshot) _ => snapshot.instruction.asks?
  | _ => none

/-- A step, or a key going down or up. -/
inductive Input where
  | step
  | key (k : Fin 16) (pressed : Bool)
  deriving DecidableEq, Repr

/-- The operation that an input is. -/
def Input.operation : Input → Operation
  | .step => .step
  | .key k pressed => .setKey k.val pressed

/-- Where a machine is in the protocol of waiting for a key. -/
inductive Wait where
  /-- No key was asked for, or it was delivered. -/
  | idle
  /-- A key was asked for. -/
  | asked (x : Fin 16)
  /-- A key came and has to be delivered. -/
  | answered (p : KeyPress)
  deriving DecidableEq, Repr

/-- How an input moves the protocol on.  Only a key that was up and goes down ends a wait, and
only the first one does. -/
def Wait.after [TimeScale τ] (w : Wait) (s : System τ) : Input → Wait
  | .step =>
    match w with
    | .asked x => .asked x
    | .idle | .answered _ => s.asks?.elim .idle .asked
  | .key k pressed =>
    match w with
    | .asked x => if pressed && !s.machine.keypad.isDown k then .answered ⟨k, x⟩ else .asked x
    | .idle | .answered _ => w

/-- Where a keypad is in the protocol. -/
def Keypad.wait (k : Keypad) : Wait :=
  if k.waiting then .asked k.register else k.response.elim .idle .answered

namespace Action

/-! ## What changes the keypad -/

variable [TimeScale τ]

theorem motion_keypad :
    Motion (fun s t : System τ => t.machine.keypad = s.machine.keypad) where
  refl _ := rfl
  trans hst htu := htu.trans hst
  registers _ _ _ := rfl
  screen _ _ := rfl
  timer _ _ _ := rfl
  ticked _ := rfl
  noted _ _ := rfl
  drawn _ := rfl
  read _ _ := rfl
  write _ _ _ := rfl

/-- Only an instruction that asks for a key changes the keypad. -/
theorem execute_keypad (i : Instruction) (s : System τ) :
    (stateOf (execute i s)).machine.keypad =
      i.asks?.elim s.machine.keypad s.machine.keypad.await := by
  cases hasks : i.asks? with
  | none => exact execute_moves motion_keypad i (.inl hasks) s
  | some x =>
    cases i with
    | awaitKey y =>
      cases hasks
      rw [execute_awaitKey]
      rfl
    | _ => cases hasks

omit [TimeScale τ] in
theorem finish_keypad (place word : Int) (i : Instruction)
    (r : EStateM.Result Fault (System τ) Outcome) :
    (stateOf (finish place word i r)).machine.keypad = (stateOf r).machine.keypad := by
  cases r with
  | error f t => rfl
  | ok o t =>
    rw [finish]
    cases followUp t.machine.registers.pc o.update <;> rfl

/-- A step begins to wait exactly if its instruction asks for a key. -/
theorem asks?_running {s : System τ} {place word : Int} {i : Instruction} {t : System τ}
    (h : step s = finish place word i (execute i t)) : s.asks? = i.asks? := by
  rw [System.asks?, h]
  cases hasks : i.asks? with
  | some x =>
    cases i with
    | awaitKey y =>
      rw [execute_awaitKey]
      exact hasks
    | _ => cases hasks
  | none =>
    cases execute i t with
    | error f u => rfl
    | ok o u =>
      rw [finish]
      cases followUp u.machine.registers.pc o.update with
      | none => rfl
      | some next => exact hasks

/-- While a key is awaited, a step begins no other wait and leaves the keypad alone. -/
theorem step_keypad_waiting {s : System τ} (hw : s.machine.keypad.waiting = true) :
    s.asks? = none ∧ (stateOf (step s)).machine.keypad = s.machine.keypad := by
  rw [System.asks?, step_waiting hw]
  exact ⟨rfl, rfl⟩

/-- Else it takes the key that was to be delivered, and may begin to wait for another one. -/
theorem step_keypad_active {s : System τ} (hs : s.machine.WellFormed)
    (hw : s.machine.keypad.waiting = false) :
    (stateOf (step s)).machine.keypad =
      s.asks?.elim { s.machine.keypad with response := none }
        { s.machine.keypad with response := none }.await := by
  rcases step_cases s hs.registers.pc.1 with
    ⟨hwait, -⟩ | ⟨-, -, hrun⟩ | ⟨-, -, hrun⟩ | ⟨a, -, -, hrun⟩
  · rw [hw] at hwait
    cases hwait
  · rw [System.asks?, hrun]
    rfl
  · rw [System.asks?, hrun]
    rfl
  · rw [asks?_running hrun, hrun, finish_keypad, execute_keypad]
    rfl

end Action

/-! ## The protocol and the keypad -/

theorem Keypad.wait_of_waiting {k : Keypad} (h : k.waiting = true) : k.wait = .asked k.register :=
  if_pos h

theorem Keypad.wait_of_active {k : Keypad} (h : k.waiting = false) :
    k.wait = k.response.elim .idle .answered := by
  rw [Keypad.wait, h]
  rfl

theorem Keypad.waiting_of_asked {k : Keypad} {x : Fin 16} (h : k.wait = .asked x) :
    k.waiting = true := by
  cases hw : k.waiting with
  | true => rfl
  | false =>
    rw [Keypad.wait_of_active hw] at h
    cases hresponse : k.response <;> rw [hresponse] at h <;> cases h

theorem Keypad.response_of_answered {k : Keypad} {p : KeyPress} (h : k.wait = .answered p) :
    k.waiting = false ∧ k.response = some p := by
  cases hw : k.waiting with
  | true =>
    rw [Keypad.wait_of_waiting hw] at h
    cases h
  | false =>
    rw [Keypad.wait_of_active hw] at h
    cases hresponse : k.response with
    | none =>
      rw [hresponse] at h
      cases h
    | some q =>
      rw [hresponse] at h
      cases h
      exact ⟨rfl, rfl⟩

/-- A key press that the keypad holds is an answer. -/
theorem Keypad.answered_of_response {k : Keypad} (hk : k.waiting = true → k.response = none)
    {p : KeyPress} (h : k.response = some p) : k.wait = .answered p := by
  have hw : k.waiting = false := by
    cases hw : k.waiting with
    | false => rfl
    | true =>
      rw [hk hw] at h
      cases h
  rw [Keypad.wait_of_active hw, h]
  rfl

/-- A key ends a wait if it was up and goes down. -/
theorem Keypad.wait_press_waiting {k : Keypad} (h : k.waiting = true) (key : Fin 16)
    (pressed : Bool) : (k.press key pressed).wait =
      if pressed && !k.isDown key then .answered ⟨key, k.register⟩ else .asked k.register := by
  rw [Keypad.press]
  cases pressed with
  | true =>
    cases hdown : k.isDown key with
    | true => exact wait_of_waiting h
    | false =>
      rw [if_neg Bool.false_ne_true, h]
      rfl
  | false =>
    cases hdown : k.isDown key with
    | true => exact wait_of_waiting h
    | false => exact wait_of_waiting h

/-- Without a wait, a key only goes down or up. -/
theorem Keypad.wait_press_active {k : Keypad} (h : k.waiting = false) (key : Fin 16)
    (pressed : Bool) : (k.press key pressed).wait = k.wait := by
  rw [Keypad.press]
  split
  · rfl
  · rw [wait_of_active h, h]
    cases pressed <;> rfl

variable [TimeScale τ]

/-- **The keypad is always where the protocol is.** -/
theorem wait_after {s : System τ} (hs : s.machine.WellFormed) (i : Input) :
    (s.after i.operation).machine.keypad.wait = s.machine.keypad.wait.after s i := by
  cases i with
  | step =>
    show (Action.stateOf (Action.step s)).machine.keypad.wait = _
    cases hw : s.machine.keypad.waiting with
    | true =>
      obtain ⟨-, hkeypad⟩ := Action.step_keypad_waiting hw
      rw [hkeypad, Keypad.wait_of_waiting hw]
      rfl
    | false =>
      have hactive : s.machine.keypad.wait.after s .step = s.asks?.elim .idle .asked := by
        rw [Keypad.wait_of_active hw]
        cases s.machine.keypad.response <;> rfl
      rw [Action.step_keypad_active hs hw, hactive]
      cases s.asks? with
      | none => exact Keypad.wait_of_active (k := { s.machine.keypad with response := none }) hw
      | some x => rfl
  | key k pressed =>
    obtain ⟨host, hrun⟩ := Action.setKey_inside k pressed s
    show (Action.stateOf (Action.setKey k.val pressed s)).machine.keypad.wait = _
    rw [hrun]
    show (s.machine.keypad.press k pressed).wait = _
    cases hw : s.machine.keypad.waiting with
    | true =>
      rw [Keypad.wait_press_waiting hw, Keypad.wait_of_waiting hw]
      rfl
    | false =>
      rw [Keypad.wait_press_active hw, Keypad.wait_of_active hw]
      cases s.machine.keypad.response <;> rfl

end Chip8
