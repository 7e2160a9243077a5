import Chip8.Machine.Step
import Chip8.Proofs.Machine.Effects

/-!
# What a step does

A step is a sequence of stages, and each can be its last: the clock ticks, the awaited key is
delivered, the word at the program counter is fetched, and its instruction is carried out and
followed up.  `step_cases` lists the four ways in which it goes, each with the whole answer:

* **waiting** — a key is awaited, and only the clock and the record of accesses change;
* **halted** — the program counter is past the end of memory, and the awaited key is delivered;
* **at the edge** — only the first byte of the word is in memory, and the step fails;
* **running** — the step is `finish` of what the instruction did.

`System.opened`, `System.prepared` and `System.fetched` are the states between the stages.
-/

namespace Chip8

/-- The registers after the key that ended a wait is put into the register that waited. -/
def Registers.deliver (r : Registers) : Option KeyPress → Registers
  | some p => r.put p.register p.key.val
  | none => r

/-- The word in two consecutive cells, the high byte first. -/
def Memory.word (m : Memory) (a : Fin 4095) : Int :=
  256 * (m.get a.castSucc).toNat + (m.get a.succ).toNat

/-- A word is a number of sixteen bits. -/
theorem Memory.word_range (m : Memory) (a : Fin 4095) : 0 ≤ m.word a ∧ m.word a < 0x10000 := by
  have hhigh := (m.get a.castSucc).toNat_lt
  have hlow := (m.get a.succ).toNat_lt
  rw [Memory.word]
  omega

/-- A word of a program that was placed in memory. -/
theorem Memory.word_loadRom (m : Memory) (data : Bytes) {a : Fin 4095} {k : Nat}
    (ha : a.val = 512 + k) :
    (m.loadRom data).word a = 256 * ((data[k]?).getD 0).toNat + ((data[k + 1]?).getD 0).toNat := by
  have hhigh : a.castSucc.val = 512 + k := ha
  have hlow : a.succ.val = 512 + (k + 1) := by rw [Fin.val_succ, ha]; rfl
  rw [Memory.word, Memory.get_loadRom, Memory.get_loadRom, hhigh, hlow, if_neg (by omega),
    if_neg (by omega), Nat.add_sub_cancel_left, Nat.add_sub_cancel_left]

namespace Registers

/-! A key that is delivered changes general registers only. -/

section Deliver

variable (r : Registers) (response : Option KeyPress)

@[simp] theorem deliver_pc : (r.deliver response).pc = r.pc := by
  cases response <;> rfl

@[simp] theorem deliver_index : (r.deliver response).index = r.index := by
  cases response <;> rfl

@[simp] theorem deliver_sp : (r.deliver response).sp = r.sp := by
  cases response <;> rfl

@[simp] theorem deliver_stack : (r.deliver response).stack = r.stack := by
  cases response <;> rfl

@[simp] theorem deliver_shiftSecond : (r.deliver response).shiftSecond = r.shiftSecond := by
  cases response <;> rfl

@[simp] theorem deliver_drawOnBlank : (r.deliver response).drawOnBlank = r.drawOnBlank := by
  cases response <;> rfl

@[simp] theorem deliver_awaitingBlank : (r.deliver response).awaitingBlank = r.awaitingBlank := by
  cases response <;> rfl

end Deliver

/-- A key that is delivered gets into its register. -/
theorem get_deliver (r : Registers) (p : KeyPress) (y : Fin 16) :
    (r.deliver (some p)).get y = if p.register = y then (p.key.val : Int) else r.get y := by
  rw [deliver, get_put, Int.emod_eq_of_lt (by omega) (by omega)]

/-- And into no other one. -/
theorem get_deliver_of_ne (r : Registers) {response : Option KeyPress} {y : Fin 16}
    (h : ∀ p, response = some p → p.register ≠ y) : (r.deliver response).get y = r.get y := by
  cases response with
  | none => rfl
  | some p => rw [get_deliver, if_neg (h p rfl)]

theorem InRange.deliver {r : Registers} (h : r.InRange) (response : Option KeyPress) :
    (r.deliver response).InRange := by
  cases response with
  | none => exact h
  | some p => exact h.put p.register _

end Registers

namespace System

variable {τ : Type} [TimeScale τ]

/-- The system after the tick, with no accesses recorded. -/
def opened (s : System τ) : System τ := { s.ticked with machine.accesses := #[] }

/-- The system after the tick and the delivery of the awaited key. -/
def prepared (s : System τ) : System τ :=
  { s.opened with
    machine.registers := s.machine.registers.deliver s.machine.keypad.response
    machine.keypad := { s.machine.keypad with response := none } }

omit [TimeScale τ] in
/-- The system after both bytes of a word are read. -/
def fetched (s : System τ) (a : Fin 4095) : System τ :=
  Action.hasRead (Action.hasRead s a.castSucc) a.succ

theorem prepared_pc (s : System τ) :
    s.prepared.machine.registers.pc = s.machine.registers.pc :=
  Registers.deliver_pc _ _

/-- Nothing is delivered if there is nothing to be delivered. -/
theorem registers_prepared {s : System τ} (hnone : s.machine.keypad.response = none) :
    s.prepared.machine.registers = s.machine.registers := by
  show s.machine.registers.deliver s.machine.keypad.response = _
  rw [hnone]
  rfl

theorem registers_fetched {s : System τ} (hnone : s.machine.keypad.response = none) (a : Fin 4095) :
    (s.prepared.fetched a).machine.registers = s.machine.registers := registers_prepared hnone

end System

namespace Action

variable {τ : Type}

/-! ## Fetching -/

theorem fetch_inside (a : Fin 4095) (s : System τ) :
    fetch a.val s = .ok (s.machine.memory.word a) (s.fetched a) := by
  have hhigh : read a.val s = .ok (s.machine.memory.get a.castSucc) (hasRead s a.castSucc) :=
    read_cell (by simp) s
  have hlow : read (a.val + 1) (hasRead s a.castSucc) =
      .ok (s.machine.memory.get a.succ) (s.fetched a) :=
    read_cell (by simp) _
  rw [fetch, bind_of_ok hhigh, bind_of_ok hlow]
  rfl

/-- The last cell holds no word. -/
theorem fetch_edge (s : System τ) :
    fetch 4095 s = .error (.addressOutOfBounds 4096) (hasRead s (Fin.last 4095)) := by
  have hhigh : read 4095 s = .ok (s.machine.memory.get (Fin.last 4095))
      (hasRead s (Fin.last 4095)) := read_cell (by rw [Fin.val_last]; rfl) s
  rw [fetch, bind_of_ok hhigh, bind_of_error (read_outside (by decide) _)]
  rfl

/-! ## Following up -/

/-- How a step ends that carried out an instruction, given how the instruction went. -/
def finish (pc word : Int) (i : Instruction) :
    EStateM.Result Fault (System τ) Outcome → EStateM.Result Fault (System τ) (Option Snapshot)
  | .error f t => .error f t
  | .ok o t =>
    let host := t.host.note (.executed t.machine.registers.pc word o.display)
    match followUp t.machine.registers.pc o.update with
    | none => .ok none { t with host := host }
    | some next =>
      let entry : TraceEntry := ⟨pc, word, o.display⟩
      let registers := { t.machine.registers with pc := next }
      .ok (some ⟨registers, i, entry, t.machine.accesses⟩)
        { machine := { t.machine.remember entry with registers := registers, accesses := #[] }
          host := host }

/-- Following up an instruction never fails. -/
theorem finish_eq_error {place word : Int} {i : Instruction}
    {r : EStateM.Result Fault (System τ) Outcome} {f : Fault} {t : System τ} :
    finish place word i r = .error f t ↔ r = .error f t := by
  cases r with
  | error e u =>
    constructor <;>
      · rintro ⟨⟩
        rfl
  | ok o u =>
    constructor
    · intro h
      rw [finish] at h
      cases hnext : followUp u.machine.registers.pc o.update <;> rw [hnext] at h <;> cases h
    · nofun

variable [TimeScale τ]

/-- Carrying out the instruction at the program counter, in any state. -/
theorem runInstruction_eq (s : System τ) :
    runInstruction s =
      match fetch s.machine.registers.pc s with
      | .error f t => .error f t
      | .ok word t =>
        finish s.machine.registers.pc word (Instruction.decode word)
          (execute (Instruction.decode word) t) := by
  rw [runInstruction, bind_of_ok (registers_apply s)]
  cases hfetch : fetch s.machine.registers.pc s with
  | error f t => rw [bind_of_error hfetch]
  | ok word t =>
    rw [bind_of_ok hfetch]
    show _ = finish _ word _ (execute (Instruction.decode word) t)
    cases hrun : execute (Instruction.decode word) t with
    | error f u => rw [bind_of_error hrun, finish]
    | ok o u =>
      rw [bind_of_ok hrun, finish]
      show (match followUp u.machine.registers.pc o.update with
        | none => _
        | some next => _ : Action τ (Option Snapshot)) _ = _
      cases followUp u.machine.registers.pc o.update <;> rfl

theorem runInstruction_inside {a : Fin 4095} {s : System τ}
    (h : s.machine.registers.pc = (a.val : Int)) :
    runInstruction s =
      finish a.val (s.machine.memory.word a) (Instruction.decode (s.machine.memory.word a))
        (execute (Instruction.decode (s.machine.memory.word a)) (s.fetched a)) := by
  rw [runInstruction_eq, h, fetch_inside]

theorem runInstruction_edge {s : System τ} (h : s.machine.registers.pc = 4095) :
    runInstruction s = .error (.addressOutOfBounds 4096) (hasRead s (Fin.last 4095)) := by
  rw [runInstruction_eq, h, fetch_edge]

/-! ## Stages -/

theorem step_waiting {s : System τ} (h : s.machine.keypad.waiting = true) :
    step s = .ok none s.opened := by
  show (if s.machine.keypad.waiting then pure none else _ : Action τ (Option Snapshot)) _ = _
  rw [h]
  rfl

theorem step_active {s : System τ} (h : s.machine.keypad.waiting = false) :
    step s =
      if 4096 ≤ s.machine.registers.pc then .ok none s.prepared else runInstruction s.prepared := by
  have hdeliver : deliverKey s.opened = .ok () s.prepared := by
    show (match s.machine.keypad.response with
      | some p => updateRegisters fun r => r.put p.register p.key.val
      | none => pure () : Action τ Unit) _ = _
    rw [System.prepared]
    cases s.machine.keypad.response <;> rfl
  have hseq : step s = (deliverKey >>= fun _ => do
      if 4096 ≤ (← registers).pc then return none
      runInstruction) s.opened := by
    show (if s.machine.keypad.waiting then pure none else _ : Action τ (Option Snapshot)) _ = _
    rw [h]
    rfl
  rw [hseq, bind_of_ok hdeliver, bind_of_ok (registers_apply _), System.prepared_pc]
  split <;> rfl

/-- A step that has nothing to wait for, and a word to fetch. -/
theorem step_inside {s : System τ} {a : Fin 4095} (hw : s.machine.keypad.waiting = false)
    (h : s.machine.registers.pc = (a.val : Int)) :
    step s = finish a.val (s.machine.memory.word a)
      (Instruction.decode (s.machine.memory.word a))
      (execute (Instruction.decode (s.machine.memory.word a)) (s.prepared.fetched a)) := by
  rw [step_active hw, if_neg (by omega)]
  exact runInstruction_inside ((System.prepared_pc s).trans h)

/-- **How a step goes**, in the four ways that there are. -/
theorem step_cases (s : System τ) (hpc : 0 ≤ s.machine.registers.pc) :
    (s.machine.keypad.waiting = true ∧ step s = .ok none s.opened) ∨
    (s.machine.keypad.waiting = false ∧ 4096 ≤ s.machine.registers.pc ∧
      step s = .ok none s.prepared) ∨
    (s.machine.keypad.waiting = false ∧ s.machine.registers.pc = 4095 ∧
      step s = .error (.addressOutOfBounds 4096) (hasRead s.prepared (Fin.last 4095))) ∨
    ∃ a : Fin 4095, s.machine.keypad.waiting = false ∧ s.machine.registers.pc = (a.val : Int) ∧
      step s = finish a.val (s.machine.memory.word a)
        (Instruction.decode (s.machine.memory.word a))
        (execute (Instruction.decode (s.machine.memory.word a)) (s.prepared.fetched a)) := by
  cases hw : s.machine.keypad.waiting with
  | true => exact .inl ⟨rfl, step_waiting hw⟩
  | false =>
    right
    rw [step_active hw]
    by_cases hhalt : 4096 ≤ s.machine.registers.pc
    · exact .inl ⟨rfl, hhalt, if_pos hhalt⟩
    · right
      rw [if_neg hhalt]
      by_cases hedge : s.machine.registers.pc = 4095
      · have hprepared := (System.prepared_pc s).trans hedge
        exact .inl ⟨rfl, hedge, runInstruction_edge hprepared⟩
      · right
        have ha : s.machine.registers.pc = ((s.machine.registers.pc.toNat : Nat) : Int) := by omega
        refine ⟨⟨s.machine.registers.pc.toNat, by omega⟩, rfl, ha, ?_⟩
        rw [← step_inside hw ha, step_active hw, if_neg hhalt]

end Action

end Chip8
