import Chip8.Proofs.Instruction.Words
import Chip8.Proofs.Machine.Idling
import Chip8.Proofs.Machine.Calls
import Mathlib.Data.Fintype.Basic
import Mathlib.Tactic.FinCases

/-!
# Where an instruction leads

Every word of sixteen bits has a course: to an address, back from a subroutine, past the next
instruction on some condition, or to the next instruction.  Does a step always lead there, and is
the way back that of the call which is to be returned from?

* `openReturns` — the addresses behind the calls that a path has left open, told by the path alone;
* `stacks_pathAfter`, `stacks_path`, `stacks_history` — **the stack holds these addresses**, after
  one operation and after every history;
* `Course.ofDigits`, `course_decode` — the course of a word, which is that of its instruction;
* `execute_course` — **an instruction that is carried out is followed up on its course**;
* `SkipTable` — the skips come in pairs of which exactly one skips;
* `leads_on` — **where a step leads**, after every history.

A return is told by the first digit of its word and the last two.  `other_word_returns` is a run in
which the digit between is not zero.
-/

namespace Chip8

/-! ## Open calls -/

/-- The addresses behind the calls that are open, the innermost one first, after one instruction
more. -/
def Snapshot.reopened (snapshot : Snapshot) (returns : List Int) : List Int :=
  match snapshot.instruction with
  | .call _ => (snapshot.entry.address + 2) :: returns
  | .ret => returns.tail
  | _ => returns

/-- The addresses behind the calls that a path has left open, the innermost one first. -/
def openReturns (path : List Snapshot) : List Int :=
  path.foldl (fun returns snapshot => snapshot.reopened returns) []

theorem openReturns_append (path : List Snapshot) (snapshot : Snapshot) :
    openReturns (path ++ [snapshot]) = snapshot.reopened (openReturns path) := by
  rw [openReturns, List.foldl_append]
  rfl

theorem reopened_call {snapshot : Snapshot} {target : Fin 4096}
    (h : snapshot.instruction = .call target) (returns : List Int) :
    snapshot.reopened returns = (snapshot.entry.address + 2) :: returns := by
  rw [Snapshot.reopened, h]

theorem reopened_return {snapshot : Snapshot} (h : snapshot.instruction = .ret)
    (returns : List Int) : snapshot.reopened returns = returns.tail := by
  rw [Snapshot.reopened, h]

/-- What is no call and no return leaves the open calls alone. -/
theorem reopened_quiet {snapshot : Snapshot} (h : callsOpen [snapshot] = 0) (returns : List Int) :
    snapshot.reopened returns = returns := by
  cases hi : snapshot.instruction with
  | call target =>
    rw [callsOpen_call hi] at h
    cases h
  | ret =>
    rw [callsOpen_return hi] at h
    cases h
  | _ => rw [Snapshot.reopened, hi]

/-- The stack holds some addresses: its pointer counts them, and the first one is in the topmost
slot in use. -/
structure Registers.Stacks (r : Registers) (returns : List Int) : Prop where
  sp : r.sp = returns.length
  slot : ∀ (j : Nat) (k : Fin 16), k.val + j + 1 = returns.length → returns[j]? = some (r.slot k)

namespace Registers.Stacks

variable {r r' : Registers} {returns : List Int}

theorem nil (h : r.sp = 0) : r.Stacks [] := ⟨h, fun _ _ hk => absurd hk (Nat.succ_ne_zero _)⟩

theorem sameStack (h : r.Stacks returns) (hsame : r.SameStack r') : r'.Stacks returns := by
  refine ⟨hsame.sp.trans h.sp, fun j k hk => ?_⟩
  rw [h.slot j k hk, Registers.slot, Registers.slot, hsame.stack]

/-- An address goes on top. -/
theorem called (h : r.Stacks returns) {k : Fin 16} (hsp : r.sp = k.val) (address : Int)
    (hsp' : r'.sp = k.val + 1) (hstack : r'.stack = setEntry r.stack k address) :
    r'.Stacks (address :: returns) := by
  have hlength : k.val = returns.length := by
    have hsame := h.sp
    omega
  refine ⟨by rw [hsp', List.length_cons]; omega, fun j l hl => ?_⟩
  rw [List.length_cons] at hl
  have hslot : r'.slot l = if k = l then address else r.slot l := by
    rw [Registers.slot, hstack, get_setEntry]
    rfl
  cases j with
  | zero =>
    have hkl : k = l := Fin.ext (by omega)
    rw [hslot, if_pos hkl]
    rfl
  | succ j =>
    have hne : k ≠ l := fun hkl => by
      have hval : k.val = l.val := congrArg Fin.val hkl
      omega
    rw [hslot, if_neg hne]
    exact h.slot j l (by omega)

/-- The address on top goes away. -/
theorem returned (h : r.Stacks returns) {k : Fin 16} (hsp : r.sp = k.val + 1)
    (hsp' : r'.sp = k.val) (hstack : r'.stack = r.stack) : r'.Stacks returns.tail := by
  have hlength := h.sp
  refine ⟨by rw [hsp', List.length_tail]; omega, fun j l hl => ?_⟩
  rw [List.length_tail] at hl
  rw [List.getElem?_tail, h.slot (j + 1) l (by omega), Registers.slot, Registers.slot, hstack]

/-- The first address is the one to which a return goes. -/
theorem head? (h : r.Stacks returns) {k : Fin 16} (hsp : r.sp = k.val + 1) :
    returns.head? = some (r.slot k) := by
  have hlength := h.sp
  rw [List.head?_eq_getElem?]
  exact h.slot 0 k (by omega)

end Registers.Stacks

namespace System

variable {τ : Type} [TimeScale τ]

/-- The stack holds the addresses behind the open calls, after one operation more. -/
theorem stacks_pathAfter {s : System τ} (hs : s.machine.WellFormed) {path : List Snapshot}
    (h : s.machine.registers.Stacks (openReturns path)) (o : Operation) :
    (s.after o).machine.registers.Stacks (openReturns (s.pathAfter path o)) := by
  cases o with
  | step =>
    rw [pathAfter]
    cases step_stack hs with
    | kept hsame hquiet =>
      cases hanswer : s.answer with
      | none => exact (List.append_nil path).symm ▸ h.sameStack hsame
      | some snapshot =>
        rw [hanswer] at hquiet
        rw [Option.toList_some, openReturns_append, reopened_quiet hquiet]
        exact h.sameStack hsame
    | called k hanswer hcall hsp hsp' hstack =>
      rw [hanswer, Option.toList_some, openReturns_append, reopened_call hcall]
      exact h.called hsp _ hsp' hstack
    | returned k hanswer hreturn hsp hsp' hstack _ =>
      rw [hanswer, Option.toList_some, openReturns_append, reopened_return hreturn]
      exact h.returned hsp hsp' hstack
  | reset =>
    rw [(started_over (o := .reset) rfl s).2]
    exact .nil rfl
  | resetAndLoad data =>
    rw [(started_over (o := .resetAndLoad data) rfl s).2]
    exact .nil rfl
  | loadRom | setKey | setShiftSecond | setDrawOnBlank | setForeground | setBackground =>
    exact h.sameStack (sameStack_after rfl s)

/-- **The stack holds the addresses behind the open calls**, the innermost one on top. -/
theorem stacks_path (operations : List Operation) : ∀ {s : System τ} {before : List Snapshot},
    s.machine.WellFormed → s.machine.registers.Stacks (openReturns before) →
    (s.afterAll operations).machine.registers.Stacks (openReturns (s.path before operations)) := by
  induction operations with
  | nil => exact fun _ h => h
  | cons o operations ih => exact fun hs h => ih (hs.after o) (stacks_pathAfter hs h o)

/-- And so it is after every history. -/
theorem stacks_history (host : Host τ) (operations : List Operation) :
    ((powerOn host).afterAll operations).machine.registers.Stacks
      (openReturns ((powerOn host).path [] operations)) := by
  have hempty : (powerOn host).machine.registers.Stacks [] := .nil rfl
  exact stacks_path operations (.powerOn host.readTime.1) hempty

end System

/-! ## Courses -/

/-- What a skip looks at. -/
inductive SkipCondition where
  /-- Whether a register holds a byte. -/
  | byte (x : Fin 16) (b : Fin 256)
  /-- Whether two registers hold the same. -/
  | same (x y : Fin 16)
  /-- Whether the key which a register names is down. -/
  | key (x : Fin 16)
  deriving DecidableEq, Repr

/-- Whether a condition holds, given which keys are down. -/
def SkipCondition.holds (r : Registers) (down : Fin 16 → Bool) : SkipCondition → Bool
  | byte x b => r.get x == b.val
  | same x y => r.get x == r.get y
  | key x => (Digit.ofInt? (r.get x)).any down

/-- Where a word leads. -/
inductive Course where
  /-- To an address. -/
  | jump (target : Fin 4096)
  /-- To an address and the first register on top of it. -/
  | offset (base : Fin 4096)
  /-- Back behind the innermost open call. -/
  | back
  /-- Past the next instruction if a condition holds. -/
  | skipIf (condition : SkipCondition)
  /-- Past the next instruction if a condition does not hold. -/
  | skipUnless (condition : SkipCondition)
  /-- To the next instruction. -/
  | straight
  deriving DecidableEq, Repr

/-- The course of the word with four digits. -/
def Course.ofDigits (d x y n : Fin 16) : Course :=
  match d.val with
  | 0x0 => if (Instruction.pair y n).val = 0xEE then back else straight
  | 0x1 => jump (Instruction.triple x y n)
  | 0x2 => jump (Instruction.triple x y n)
  | 0x3 => skipIf (.byte x (Instruction.pair y n))
  | 0x4 => skipUnless (.byte x (Instruction.pair y n))
  | 0x5 => skipIf (.same x y)
  | 0x9 => skipUnless (.same x y)
  | 0xB => offset (Instruction.triple x y n)
  | 0xE =>
    if (Instruction.pair y n).val = 0x9E then skipIf (.key x)
    else if (Instruction.pair y n).val = 0xA1 then skipUnless (.key x)
    else straight
  | _ => straight

/-- A course leads from an address to a next one, given the registers, which keys are down, and the
addresses behind the open calls. -/
def Course.Leads (r : Registers) (down : Fin 16 → Bool) (returns : List Int) (address next : Int) :
    Course → Prop
  | jump target => next = target.val
  | offset base => next = base.val + r.get Digit.first
  | back => returns.head? = some next
  | skipIf condition => next = if condition.holds r down then address + 4 else address + 2
  | skipUnless condition => next = if condition.holds r down then address + 2 else address + 4
  | straight => next = address + 2

/-- The course of an instruction. -/
def Instruction.course : Instruction → Course
  | .ret => .back
  | .jump target | .call target => .jump target
  | .jumpOffset base => .offset base
  | .skipEqual x b => .skipIf (.byte x b)
  | .skipUnequal x b => .skipUnless (.byte x b)
  | .skipSame x y => .skipIf (.same x y)
  | .skipDifferent x y => .skipUnless (.same x y)
  | .skipPressed x => .skipIf (.key x)
  | .skipReleased x => .skipUnless (.key x)
  | _ => .straight

namespace Instruction

theorem course_decodeArithmetic (word : Int) (x y : Fin 16) :
    (decodeArithmetic word x y).course = .straight := by
  rw [decodeArithmetic]
  split <;> rfl

theorem course_decodeTransfer (word : Int) (x : Fin 16) :
    (decodeTransfer word x).course = .straight := by
  rw [decodeTransfer]
  split <;> rfl

/-- Every word of sixteen bits has the course of its instruction. -/
theorem course_decode (d x y n : Fin 16) :
    (decode (spelled d x y n)).course = .ofDigits d x y n := by
  simp only [decode, digitAt_three, digitAt_two, digitAt_one, digitAt_zero, lowByte_spelled,
    addressField_spelled, Course.ofDigits]
  fin_cases d
  case «0» =>
    by_cases hret : (pair y n).val = 0xEE
    · simp [hret, course]
    · by_cases hclear : (pair y n).val = 0xE0 <;> simp [hret, hclear, course]
  case «14» =>
    by_cases hpressed : (pair y n).val = 0x9E
    · simp [hpressed, course]
    · by_cases hreleased : (pair y n).val = 0xA1 <;> simp [hpressed, hreleased, course]
  case «8» => exact course_decodeArithmetic _ x y
  case «15» => exact course_decodeTransfer _ x
  all_goals rfl

end Instruction

namespace Course

/-- A course past the next instruction, wherever the instruction stands. -/
def Skips (r : Registers) (down : Fin 16 → Bool) (course : Course) : Prop :=
  ∀ returns address, course.Leads r down returns address (address + 4)

variable {r : Registers} {down : Fin 16 → Bool} {condition : SkipCondition}

theorem skips_skipIf : (skipIf condition).Skips r down ↔ condition.holds r down = true := by
  cases h : condition.holds r down with
  | true => exact ⟨fun _ => rfl, fun _ returns address => by rw [Leads, h]; rfl⟩
  | false =>
    refine ⟨fun hskips => ?_, nofun⟩
    have hleads := hskips [] 0
    rw [Leads, h] at hleads
    cases hleads

theorem skips_skipUnless :
    (skipUnless condition).Skips r down ↔ condition.holds r down = false := by
  cases h : condition.holds r down with
  | false => exact ⟨fun _ => rfl, fun _ returns address => by rw [Leads, h]; rfl⟩
  | true =>
    refine ⟨fun hskips => ?_, nofun⟩
    have hleads := hskips [] 0
    rw [Leads, h] at hleads
    cases hleads

end Course

/-- Which of the words that skip do so with given operands: exactly one of each pair. -/
structure SkipTable (r : Registers) (down : Fin 16 → Bool) (x y n : Fin 16) : Prop where
  equal : (Course.ofDigits 0x3 x y n).Skips r down ↔ r.get x = (Instruction.pair y n).val
  unequal : (Course.ofDigits 0x4 x y n).Skips r down ↔ r.get x ≠ (Instruction.pair y n).val
  same : (Course.ofDigits 0x5 x y n).Skips r down ↔ r.get x = r.get y
  different : (Course.ofDigits 0x9 x y n).Skips r down ↔ r.get x ≠ r.get y
  pressed : ∀ key : Fin 16, r.get x = key.val →
    ((Course.ofDigits 0xE x 0x9 0xE).Skips r down ↔ down key = true)
  released : ∀ key : Fin 16, r.get x = key.val →
    ((Course.ofDigits 0xE x 0xA 0x1).Skips r down ↔ ¬ down key = true)

theorem SkipCondition.holds_key {r : Registers} {x key : Fin 16} (down : Fin 16 → Bool)
    (h : r.get x = key.val) :
    (SkipCondition.key x).holds r down = down key := by
  rw [holds, h, Digit.ofInt?_coe]
  rfl

theorem skipTable (r : Registers) (down : Fin 16 → Bool) (x y n : Fin 16) :
    SkipTable r down x y n where
  equal := Course.skips_skipIf.trans beq_iff_eq
  unequal := Course.skips_skipUnless.trans beq_eq_false_iff_ne
  same := Course.skips_skipIf.trans beq_iff_eq
  different := Course.skips_skipUnless.trans beq_eq_false_iff_ne
  pressed key hkey := by
    rw [← SkipCondition.holds_key down hkey]
    exact Course.skips_skipIf
  released key hkey := by
    rw [← SkipCondition.holds_key down hkey, Bool.not_eq_true]
    exact Course.skips_skipUnless

/-! ## Carrying out -/

namespace Action

theorem followUp_skipIf (pc : Int) (condition : Bool) (display : String) :
    followUp pc (Outcome.skipIf condition display).update =
      some (if condition then pc + 4 else pc + 2) := by
  cases condition <;> rfl

theorem followUp_skipUnless (pc : Int) (condition : Bool) (display : String) :
    followUp pc (Outcome.skipIf (!condition) display).update =
      some (if condition then pc + 2 else pc + 4) := by
  cases condition <;> rfl

theorem course_of_advances {i : Instruction} (h : i.advances = true) : i.course = .straight := by
  cases i <;> first | rfl | cases h

variable {τ : Type} [TimeScale τ]

/-- **An instruction that is carried out is followed up on its course.** -/
theorem execute_course {i : Instruction} {s t : System τ} {o : Outcome} {returns : List Int}
    {next : Int} (hr : s.machine.registers.InRange) (hstack : s.machine.registers.Stacks returns)
    (hrun : execute i s = .ok o t)
    (hnext : followUp t.machine.registers.pc o.update = some next) :
    i.course.Leads s.machine.registers s.machine.keypad.isDown returns s.machine.registers.pc
      next := by
  have hcontrol := execute_control i s
  rw [hrun] at hcontrol
  have hpc : t.machine.registers.pc = s.machine.registers.pc := hcontrol.pc
  rw [hpc] at hnext
  cases hadvances : i.advances with
  | true =>
    rw [advances_execute hadvances s o t hrun] at hnext
    rw [course_of_advances hadvances]
    exact (Option.some.inj hnext).symm
  | false =>
    cases i with
    | ret =>
      by_cases hempty : s.machine.registers.sp ≤ 0
      · rw [execute_ret_empty hempty] at hrun
        cases hrun
      · obtain ⟨k, hk, hret⟩ := execute_ret hr (by omega)
        rw [hret] at hrun
        cases hrun
        exact (hstack.head? hk).trans hnext
    | jump target =>
      cases hrun
      exact (Option.some.inj hnext).symm
    | call target =>
      by_cases hfull : 16 ≤ s.machine.registers.sp
      · rw [execute_call_full target hfull] at hrun
        cases hrun
      · obtain ⟨k, -, hcall⟩ := execute_call target hr (by omega)
        rw [hcall] at hrun
        cases hrun
        exact (Option.some.inj hnext).symm
    | jumpOffset base =>
      cases hrun
      exact (Option.some.inj hnext).symm
    | skipEqual | skipSame =>
      cases hrun
      rw [followUp_skipIf] at hnext
      exact (Option.some.inj hnext).symm
    | skipUnequal | skipDifferent =>
      cases hrun
      exact (Option.some.inj ((followUp_skipUnless _ _ _).symm.trans hnext)).symm
    | skipPressed x =>
      rcases key_or_outside hr x with hx | ⟨key, hx⟩
      · rw [execute, skipOnKey_outside _ hx] at hrun
        cases hrun
      · rw [execute, skipOnKey_inside _ hx, beq_true] at hrun
        cases hrun
        rw [followUp_skipIf, ← SkipCondition.holds_key s.machine.keypad.isDown hx] at hnext
        exact (Option.some.inj hnext).symm
    | skipReleased x =>
      rcases key_or_outside hr x with hx | ⟨key, hx⟩
      · rw [execute, skipOnKey_outside _ hx] at hrun
        cases hrun
      · rw [execute, skipOnKey_inside _ hx, beq_false] at hrun
        cases hrun
        rw [followUp_skipUnless, ← SkipCondition.holds_key s.machine.keypad.isDown hx] at hnext
        exact (Option.some.inj hnext).symm
    | draw x y rows =>
      cases hstalls : s.drawStalls with
      | true =>
        rw [execute_draw_stalled x y rows hstalls] at hrun
        cases hrun
        cases hnext
      | false =>
        rw [execute, draw, bind_of_ok (mustWait_apply s), hstalls] at hrun
        rw [advances_drawSprite x y rows.val _ o t hrun] at hnext
        exact (Option.some.inj hnext).symm
    | _ => cases hadvances

end Action

/-! ## Steps -/

/-- How a step led on that carried out an instruction: the word is the one at the program counter,
and the step led where the course of the word leads.  The registers are those into which the key
that was awaited is delivered. -/
structure System.LedOn {τ : Type} (s : System τ) (returns : List Int) (snapshot : Snapshot)
    (t : System τ) : Prop where
  fetched : ∃ a : Fin 4095, s.machine.registers.pc = a.val ∧ snapshot.entry.address = a.val ∧
    snapshot.entry.word = s.machine.memory.word a
  digits : ∃ d x y n, snapshot.entry.word = Instruction.spelled d x y n
  leads : ∀ d x y n, snapshot.entry.word = Instruction.spelled d x y n →
    (Course.ofDigits d x y n).Leads (s.machine.registers.deliver s.machine.keypad.response)
      s.machine.keypad.isDown returns snapshot.entry.address t.machine.registers.pc

namespace System

variable {τ : Type} [TimeScale τ]

/-- **A step leads where the course of its word leads.** -/
theorem step_ledOn {s t : System τ} {snapshot : Snapshot} {returns : List Int}
    (hs : s.machine.WellFormed) (hstack : s.machine.registers.Stacks returns)
    (h : Action.step s = .ok (some snapshot) t) : s.LedOn returns snapshot t := by
  obtain ⟨a, o, u, next, ha, hrun, hnext, rfl, ht⟩ := Action.step_carried h
  have hprepared : (s.prepared.fetched a).machine.registers.Stacks returns :=
    hstack.sameStack (s.machine.registers.sameStack_deliver s.machine.keypad.response)
  have hpc : (s.prepared.fetched a).machine.registers.pc = a.val := (prepared_pc s).trans ha
  have hleads := Action.execute_course (hs.registers.deliver s.machine.keypad.response) hprepared
    hrun hnext
  rw [hpc] at hleads
  refine ⟨⟨a, ha, rfl, rfl⟩, Instruction.exists_digits (s.machine.memory.word_range a),
    fun d x y n hword => ?_⟩
  replace hword : s.machine.memory.word a = Instruction.spelled d x y n := hword
  rw [hword, Instruction.course_decode] at hleads
  rw [ht]
  exact hleads

/-- **Where a step leads**, after every history. -/
theorem leads_on (host : Host τ) (operations : List Operation) :
    let s := (System.powerOn host).afterAll operations
    (∀ snapshot t, Action.step s = .ok (some snapshot) t →
      s.LedOn (openReturns ((System.powerOn host).path [] operations)) snapshot t) ∧
    ∀ x y n, SkipTable (s.machine.registers.deliver s.machine.keypad.response)
      s.machine.keypad.isDown x y n := by
  intro s
  have hs : s.machine.WellFormed :=
    (Machine.WellFormed.powerOn host.readTime.1).afterAll operations
  exact ⟨fun snapshot t => step_ledOn hs (stacks_history host operations), skipTable _ _⟩

/-! A program calls a subroutine of one word. -/

/-- A machine with that program. -/
def beforeCall (high low : UInt8) : System Rat :=
  started (Host.still 0 fun _ => 0) #[0x22, 0x04, 0x00, 0x00, high, low]

/-- A host that places the program and makes the call. -/
def placeAndCall (high low : UInt8) : List Operation :=
  [.loadRom #[0x22, 0x04, 0x00, 0x00, high, low], .step]

/-- The machine in the subroutine. -/
def inCall (high low : UInt8) : System Rat :=
  (powerOn (Host.still 0 fun _ => 0)).afterAll (placeAndCall high low)

/-- The addresses behind the calls which the host has left open. -/
def waysBack (high low : UInt8) : List Int :=
  openReturns ((powerOn (Host.still (0 : Rat) fun _ => 0)).path [] (placeAndCall high low))

theorem path_place_step (s : System τ) (data : Bytes) :
    s.path [] [.loadRom data, .step] = (s.after (.loadRom data)).answer.toList := rfl

theorem inCall_eq (high low : UInt8) : inCall high low = (beforeCall high low).after .step := by
  rw [inCall, placeAndCall, beforeCall, started, afterAll, List.foldl_cons, List.foldl_cons,
    List.foldl_nil]

theorem waysBack_eq (high low : UInt8) :
    waysBack high low = openReturns (beforeCall high low).answer.toList := by
  rw [waysBack, placeAndCall, beforeCall, started, path_place_step]

theorem beforeCall_at (high low : UInt8) :
    (beforeCall high low).machine.keypad.waiting = false ∧
      (beforeCall high low).machine.registers.pc = 512 ∧
      (beforeCall high low).machine.registers.sp = 0 ∧
      (beforeCall high low).machine.memory.word 512 = 0x2204 ∧
      (beforeCall high low).machine.memory.word 516 = 256 * high.toNat + low.toNat := by
  obtain ⟨host, hrun⟩ := Action.loadRom_apply #[0x22, 0x04, 0x00, 0x00, high, low]
    (powerOn (Host.still (0 : Rat) fun _ => 0))
  rw [beforeCall, started, after, hrun]
  exact ⟨rfl, rfl, rfl, Memory.word_loadRom _ _ (k := 0) rfl, Memory.word_loadRom _ _ (k := 4) rfl⟩

theorem inCall_at (high low : UInt8) :
    (inCall high low).machine.registers.pc = 516 ∧
      (inCall high low).machine.registers.sp = 1 ∧
      (inCall high low).machine.keypad.waiting = false ∧
      (inCall high low).machine.memory.word 516 = 256 * high.toNat + low.toNat ∧
      waysBack high low = [514] := by
  rw [inCall_eq, waysBack_eq]
  have hs : (beforeCall high low).machine.WellFormed := (reachable_started _ _).wellFormed
  obtain ⟨hidle, hstart, hfree, hcall, hword⟩ := beforeCall_at high low
  generalize beforeCall high low = s at *
  obtain ⟨snapshot, t, hstep, hinstruction, haddress, hpc, hsp, hmemory, hactive⟩ :=
    step_calling hs hcall hidle hstart hfree
  have hreopened : openReturns [snapshot] = [snapshot.entry.address + 2] :=
    reopened_call hinstruction []
  rw [after_of_ok hstep, answer_of_ok hstep, Option.toList_some, hreopened, haddress]
  exact ⟨hpc, hsp, hactive, hmemory ▸ hword, rfl⟩

/-- A subroutine of one word that returns is carried out. -/
theorem step_inCall (high low : UInt8)
    (hdecode : Instruction.decode (256 * high.toNat + low.toNat) = .ret) :
    ∃ snapshot t, Action.step (inCall high low) = .ok (some snapshot) t ∧
      snapshot.entry.address = 516 ∧ snapshot.entry.word = 256 * high.toNat + low.toNat := by
  obtain ⟨hpc, hsp, hidle, hword, -⟩ := inCall_at high low
  have hs : (inCall high low).machine.WellFormed :=
    (Machine.WellFormed.powerOn _).afterAll _
  generalize inCall high low = s at *
  have hr : (s.prepared.fetched 516).machine.registers.InRange := hs.registers.deliver _
  have hused : (s.prepared.fetched 516).machine.registers.sp = 1 :=
    (s.machine.registers.sameStack_deliver _).sp.trans hsp
  obtain ⟨k, -, hrun⟩ := Action.execute_ret hr (by omega)
  have hstep := Action.step_inside (a := 516) hidle hpc
  rw [hword, hdecode, hrun, Action.finish] at hstep
  exact ⟨_, _, hstep, rfl, rfl⟩

/-- The return of a subroutine leads behind the call. -/
theorem leads_on_behind_call :
    ∃ snapshot t, Action.step (inCall 0x00 0xEE) = .ok (some snapshot) t ∧
      snapshot.entry.address = 516 ∧ snapshot.entry.word = 0x00EE ∧
      t.machine.registers.pc = 514 := by
  obtain ⟨snapshot, t, hstep, haddress, hword⟩ := step_inCall 0x00 0xEE (by decide)
  obtain ⟨-, -, -, -, hways⟩ := inCall_at 0x00 0xEE
  have hled :=
    (leads_on (Host.still (0 : Rat) fun _ => 0) (placeAndCall 0x00 0xEE)).1 snapshot t hstep
  have hback : (waysBack 0x00 0xEE).head? = some t.machine.registers.pc :=
    hled.leads 0x0 0x0 0xE 0xE hword
  rw [hways] at hback
  exact ⟨snapshot, t, hstep, haddress, hword, (Option.some.inj hback).symm⟩

/-- The digit in front of the last two is not looked at: this word is not the one that the table of
instructions names, and yet returns.  It does not lead to the next instruction. -/
theorem other_word_returns :
    ∃ snapshot t, Action.step (inCall 0x01 0xEE) = .ok (some snapshot) t ∧
      snapshot.entry.address = 516 ∧ snapshot.entry.word = 0x01EE ∧
      t.machine.registers.pc = 514 ∧ t.machine.registers.pc ≠ snapshot.entry.address + 2 := by
  obtain ⟨snapshot, t, hstep, haddress, hword⟩ := step_inCall 0x01 0xEE (by decide)
  obtain ⟨-, -, -, -, hways⟩ := inCall_at 0x01 0xEE
  have hs : (inCall 0x01 0xEE).machine.WellFormed := (Machine.WellFormed.powerOn _).afterAll _
  have hstack : (inCall 0x01 0xEE).machine.registers.Stacks (waysBack 0x01 0xEE) := by
    rw [inCall, waysBack]
    exact stacks_history _ _
  have hled := step_ledOn hs hstack hstep
  have hback : (waysBack 0x01 0xEE).head? = some t.machine.registers.pc :=
    hled.leads 0x0 0x1 0xE 0xE hword
  rw [hways] at hback
  have hpc : t.machine.registers.pc = 514 := (Option.some.inj hback).symm
  refine ⟨snapshot, t, hstep, haddress, hword, hpc, ?_⟩
  rw [hpc, haddress]
  decide

end System

end Chip8
