import Chip8.Proofs.Clock.Exact
import Chip8.Proofs.Machine.Waiting

/-!
# Waiting for a key

From the instruction that asks for a key on, the machine stands still until a key goes down, and
the next step puts the number of that key into the register which was asked for.  Keys come from
the host and steps from its loop, in any order.

* `asked_afterInputs` — nothing but a key that goes down ends a wait;
* `answered_afterKeys` and `step_answered` — the first key that goes down is the answer, and a step
  delivers it before it does anything else;
* `deliveries_pending` — what is delivered is what was answered;
* `keyWait` — **the protocol over every interleaving** of steps and keys.
-/

namespace Chip8

variable {τ : Type} [TimeScale τ]

/-! ## Standing still -/

namespace System

/-- The system after inputs, one after the other. -/
def afterInputs (s : System τ) (inputs : List Input) : System τ :=
  s.afterAll (inputs.map Input.operation)

/-- No key that was up goes down. -/
def Quiet (s : System τ) : List Input → Prop
  | [] => True
  | .step :: inputs => (s.after .step).Quiet inputs
  | .key k pressed :: inputs =>
    (pressed = true → s.machine.keypad.isDown k = true) ∧
      (s.after (.setKey k.val pressed)).Quiet inputs

omit [TimeScale τ] in
/-- Everything that a program works on is the same: registers, memory, the picture, the trace. -/
structure Agrees (s t : System τ) : Prop where
  registers : s.machine.registers = t.machine.registers
  memory : s.machine.memory = t.machine.memory
  screen : s.machine.screen = t.machine.screen
  trace : s.machine.trace = t.machine.trace

omit [TimeScale τ] in
theorem Agrees.refl (s : System τ) : s.Agrees s := ⟨rfl, rfl, rfl, rfl⟩

omit [TimeScale τ] in
theorem Agrees.trans {s t u : System τ} (hst : s.Agrees t) (htu : t.Agrees u) : s.Agrees u :=
  ⟨hst.registers.trans htu.registers, hst.memory.trans htu.memory, hst.screen.trans htu.screen,
    hst.trace.trans htu.trace⟩

/-- A key changes nothing but the keypad. -/
theorem agrees_key (s : System τ) (k : Fin 16) (pressed : Bool) :
    (s.after (Input.key k pressed).operation).Agrees s := by
  obtain ⟨host, hrun⟩ := Action.setKey_inside k pressed s
  show (Action.stateOf (Action.setKey k.val pressed s)).Agrees s
  rw [hrun]
  exact ⟨rfl, rfl, rfl, rfl⟩

/-- While a key is awaited, a step changes nothing. -/
theorem agrees_step {s : System τ} (hw : s.machine.keypad.waiting = true) :
    (s.after .step).Agrees s := by
  show (Action.stateOf (Action.step s)).Agrees s
  rw [Action.step_waiting hw]
  exact ⟨rfl, rfl, rfl, rfl⟩

end System

/-- **Nothing but a key that goes down ends a wait**, and until then the machine stands still. -/
theorem asked_afterInputs (inputs : List Input) : ∀ {s : System τ} {x : Fin 16},
    s.machine.WellFormed → s.machine.keypad.wait = .asked x → s.Quiet inputs →
    (s.afterInputs inputs).machine.keypad.wait = .asked x ∧ (s.afterInputs inputs).Agrees s := by
  induction inputs with
  | nil =>
    intro s x _ hx _
    exact ⟨hx, .refl s⟩
  | cons i inputs ih =>
    intro s x hs hx hquiet
    have hwait := wait_after hs i
    rw [hx] at hwait
    cases i with
    | step =>
      obtain ⟨hlast, hagrees⟩ := ih (hs.after .step) hwait hquiet
      exact ⟨hlast, hagrees.trans (System.agrees_step (Keypad.waiting_of_asked hx))⟩
    | key k pressed =>
      obtain ⟨hkey, hquiet⟩ := hquiet
      have hstill : (pressed && !s.machine.keypad.isDown k) = false := by
        cases pressed with
        | false => rfl
        | true => rw [hkey rfl]; rfl
      have hasked : (s.after (Input.key k pressed).operation).machine.keypad.wait = .asked x := by
        rw [hwait]
        show (if pressed && !s.machine.keypad.isDown k then _ else _) = _
        rw [hstill]
        rfl
      obtain ⟨hlast, hagrees⟩ := ih (hs.after _) hasked hquiet
      exact ⟨hlast, hagrees.trans (System.agrees_key s k pressed)⟩

/-- The keys that are pressed and released, as inputs. -/
def keyInputs (keys : List (Fin 16 × Bool)) : List Input :=
  keys.map fun (k, pressed) => .key k pressed

/-- **The first key that goes down is the answer**, whatever keys follow before the next step. -/
theorem answered_afterKeys (keys : List (Fin 16 × Bool)) : ∀ {s : System τ} {p : KeyPress},
    s.machine.WellFormed → s.machine.keypad.wait = .answered p →
    (s.afterInputs (keyInputs keys)).machine.keypad.wait = .answered p ∧
      (s.afterInputs (keyInputs keys)).Agrees s := by
  induction keys with
  | nil =>
    intro s p _ hp
    exact ⟨hp, .refl s⟩
  | cons key keys ih =>
    intro s p hs hp
    have hwait := wait_after hs (.key key.1 key.2)
    rw [hp] at hwait
    obtain ⟨hlast, hagrees⟩ := ih (hs.after _) hwait
    exact ⟨hlast, hagrees.trans (System.agrees_key s key.1 key.2)⟩

/-! ## Delivery -/

/-- The system in which a key is in its register already, and nothing has to be delivered. -/
def System.delivered (s : System τ) (p : KeyPress) : System τ :=
  { s with
    machine.registers := s.machine.registers.assign p.register p.key.val
    machine.keypad := { s.machine.keypad with response := none } }

/-- **A step delivers the answer before it does anything else.** -/
theorem step_answered {s : System τ} {p : KeyPress} (h : s.machine.keypad.wait = .answered p) :
    Action.step s = Action.step (s.delivered p) := by
  obtain ⟨hw, hresponse⟩ := Keypad.response_of_answered h
  have hput : s.machine.registers.put p.register p.key.val =
      s.machine.registers.assign p.register p.key.val := by
    rw [Registers.put, Int.emod_eq_of_lt (by omega) (by omega)]
  have hprepared : s.prepared = (s.delivered p).prepared := by
    rw [System.prepared, hresponse, Registers.deliver, hput]
    rfl
  have hactive : (s.delivered p).machine.keypad.waiting = false := hw
  rw [Action.step_active hw, Action.step_active hactive, hprepared]
  rfl

/-! ## Every answer is delivered once -/

namespace Wait

/-- The answer that has to be delivered. -/
def pending : Wait → List KeyPress
  | .answered p => [p]
  | _ => []

/-- The answer that an input gives. -/
def answer (w : Wait) (s : System τ) : Input → List KeyPress
  | .step => []
  | .key k pressed =>
    match w with
    | .asked x => if pressed && !s.machine.keypad.isDown k then [⟨k, x⟩] else []
    | .idle | .answered _ => []

end Wait

/-- The answers that inputs give, as the protocol tells it. -/
def answers (w : Wait) (s : System τ) : List Input → List KeyPress
  | [] => []
  | i :: inputs => w.answer s i ++ answers (w.after s i) (s.after i.operation) inputs

/-- The answers that the steps among inputs deliver: what the keypad holds for each of them. -/
def deliveries (s : System τ) : List Input → List KeyPress
  | [] => []
  | .step :: inputs => s.machine.keypad.wait.pending ++ deliveries (s.after .step) inputs
  | .key k pressed :: inputs => deliveries (s.after (.setKey k.val pressed)) inputs

/-- What an input answers is pending after it, and what was pending is delivered by a step. -/
theorem pending_after (w : Wait) (s : System τ) (i : Input) :
    w.pending ++ w.answer s i =
      (match i with
        | .step => w.pending
        | .key .. => []) ++ (w.after s i).pending := by
  cases i with
  | step =>
    have hnone : ∀ asks : Option (Fin 16), (asks.elim Wait.idle Wait.asked).pending = [] := by
      intro asks
      cases asks <;> rfl
    cases w with
    | asked x => rfl
    | idle =>
      show _ = _ ++ (s.asks?.elim Wait.idle Wait.asked).pending
      rw [hnone]
      rfl
    | answered p =>
      show _ = _ ++ (s.asks?.elim Wait.idle Wait.asked).pending
      rw [hnone]
      rfl
  | key k pressed =>
    cases w with
    | idle => rfl
    | answered p => rfl
    | asked x =>
      show (if pressed && !s.machine.keypad.isDown k then [(⟨k, x⟩ : KeyPress)] else []) =
        Wait.pending (if pressed && !s.machine.keypad.isDown k then .answered ⟨k, x⟩ else .asked x)
      split <;> rfl

/-- **What is delivered is what was answered**, in the same order and as often, up to the one
answer that may still have to be delivered. -/
theorem deliveries_pending (inputs : List Input) : ∀ {s : System τ}, s.machine.WellFormed →
    deliveries s inputs ++ (s.afterInputs inputs).machine.keypad.wait.pending =
      s.machine.keypad.wait.pending ++ answers s.machine.keypad.wait s inputs := by
  induction inputs with
  | nil =>
    intro s _
    exact (List.append_nil _).symm
  | cons i inputs ih =>
    intro s hs
    have hrest := ih (hs.after i.operation)
    have hone := pending_after s.machine.keypad.wait s i
    rw [wait_after hs i] at hrest
    rw [answers, ← List.append_assoc, hone, List.append_assoc, ← hrest, ← List.append_assoc]
    cases i with
    | step => rfl
    | key k pressed => rfl

/-! ## The protocol -/

/-- Once a step carried out an instruction that asks for a key, a key is asked for. -/
theorem asked_of_step {s t : System τ} {snapshot : Snapshot} {x : Fin 16}
    (hs : s.machine.WellFormed) (hrun : Action.step s = .ok (some snapshot) t)
    (hinstruction : snapshot.instruction = .awaitKey x) : t.machine.keypad.wait = .asked x := by
  have hasks : s.asks? = some x := by
    rw [System.asks?, hrun]
    show snapshot.instruction.asks? = some x
    rw [hinstruction]
    rfl
  have hactive : s.machine.keypad.waiting = false := by
    cases hw : s.machine.keypad.waiting with
    | false => rfl
    | true =>
      rw [(Action.step_keypad_waiting hw).1] at hasks
      cases hasks
  have hkeypad := Action.step_keypad_active hs hactive
  rw [hrun, hasks] at hkeypad
  rw [show t.machine.keypad = _ from hkeypad]
  rfl

/-- **The protocol of waiting for a key, over every interleaving** of steps and keys.

Once a step carried out an instruction that asks for a key, every step answers `none` and the
machine stands still, until a key that was up goes down.  The first step after that behaves as if
that key had been in the register from the start, whatever other keys came in between.  And over
any inputs, what steps deliver is what keys answered, each answer once and in order. -/
theorem keyWait {s : System τ} (hs : s.Reachable) :
    (∀ x snapshot t, Action.step s = .ok (some snapshot) t → snapshot.instruction = .awaitKey x →
      ∀ quiet, t.Quiet quiet →
        let u := t.afterInputs quiet
        u.Agrees t ∧ (∃ v, Action.step u = .ok none v ∧ v.Agrees t) ∧
        ∀ k, u.machine.keypad.isDown k = false → ∀ keys,
          let v := u.afterInputs (.key k true :: keyInputs keys)
          v.Agrees t ∧ Action.step v = Action.step (v.delivered ⟨k, x⟩)) ∧
    ∀ inputs,
      let u := s.afterInputs inputs
      deliveries s inputs ++ u.machine.keypad.wait.pending =
        s.machine.keypad.wait.pending ++ answers s.machine.keypad.wait s inputs ∧
      ∀ p, u.machine.keypad.response = some p →
        u.machine.keypad.wait = .answered p ∧ Action.step u = Action.step (u.delivered p) := by
  refine ⟨?_, ?_⟩
  · intro x snapshot t hrun hinstruction quiet hquiet u
    have ht : t.machine.WellFormed := by
      have hafter := hs.wellFormed.after .step
      rw [System.after, hrun] at hafter
      exact hafter
    have hasked := asked_of_step hs.wellFormed hrun hinstruction
    obtain ⟨hu, hagrees⟩ := asked_afterInputs quiet ht hasked hquiet
    have huw : u.machine.WellFormed := ht.afterAll _
    have hwaiting := Keypad.waiting_of_asked hu
    have hstill : u.opened.Agrees u := ⟨rfl, rfl, rfl, rfl⟩
    refine ⟨hagrees, ⟨u.opened, Action.step_waiting hwaiting, hstill.trans hagrees⟩, ?_⟩
    intro k hup keys v
    have hanswered : (u.after (Input.key k true).operation).machine.keypad.wait =
        .answered ⟨k, x⟩ := by
      rw [wait_after huw, hu]
      show (if true && !u.machine.keypad.isDown k then _ else _) = _
      rw [hup]
      rfl
    obtain ⟨hv, hkeys⟩ := answered_afterKeys keys (huw.after _) hanswered
    exact ⟨hkeys.trans ((System.agrees_key u k true).trans hagrees), step_answered hv⟩
  · intro inputs u
    have hu : u.machine.WellFormed := hs.wellFormed.afterAll _
    refine ⟨deliveries_pending inputs hs.wellFormed, ?_⟩
    intro p hp
    have hanswered := Keypad.answered_of_response hu.keypad hp
    exact ⟨hanswered, step_answered hanswered⟩

/-- A machine whose program starts by asking for a key. -/
def asking : System Rat :=
  (System.powerOn (Host.still 0 fun _ => 0)).after (.loadRom #[0xF3, 0x0A])

/-- The program asks for a key in register three; the fifth key goes down, then the seventh, and
the fifth goes up again.  The next step behaves as if register three had held five. -/
theorem step_asking :
    asking.Reachable ∧ ∃ snapshot t, Action.step asking = .ok (some snapshot) t ∧
      snapshot.instruction = .awaitKey 3 ∧
      let v := t.afterInputs (.key 5 true :: keyInputs [(7, true), (5, false)])
      Action.step v = Action.step (v.delivered ⟨5, 3⟩) := by
  have hreach : asking.Reachable := (System.reachable_powerOn _).after _
  have hmemory : asking.machine.memory = Memory.blank.loadRom #[0xF3, 0x0A] := rfl
  have hword : asking.machine.memory.word 512 = 0xF30A := by
    rw [hmemory, Memory.word, Memory.get_loadRom, Memory.get_loadRom]
    rfl
  have hpc : asking.prepared.machine.registers.pc = ((512 : Fin 4095).val : Int) := rfl
  have hrun : ∃ snapshot t, Action.step asking = .ok (some snapshot) t ∧
      snapshot.instruction = .awaitKey 3 ∧ t.machine.keypad.isDown 5 = false := by
    rw [Action.step_active rfl, if_neg (by decide), Action.runInstruction_inside hpc]
    have hdecode : Instruction.decode (asking.prepared.machine.memory.word 512) = .awaitKey 3 := by
      show Instruction.decode (asking.machine.memory.word 512) = _
      rw [hword]
      decide
    rw [hdecode, Action.execute_awaitKey]
    exact ⟨_, _, rfl, rfl, by decide⟩
  obtain ⟨snapshot, t, hstep, hinstruction, hup⟩ := hrun
  obtain ⟨-, -, hdeliver⟩ := (keyWait hreach).1 3 snapshot t hstep hinstruction [] trivial
  exact ⟨hreach, snapshot, t, hstep, hinstruction, (hdeliver 5 hup [(7, true), (5, false)]).2⟩

end Chip8
