import Chip8.Proofs.Clock.Exact
import Chip8.Proofs.Machine.Path

/-!
# Calls and returns

The stack pointer counts the calls that are open, and a slot that is in use belongs to its call
until the return from it.  Everything follows from what one step can do to the stack:

* `execute_stack` — only calls and returns touch it, and they do not if they fail;
* `StackStep`, `step_stack` — **what a step does to the stack**, in three ways: nothing, a call of
  which the address behind it stays in the first free slot, or a return to the address in the last
  used slot;
* `slot_after`, `slot_afterAll` — while the pointer stays above a slot, the slot is as it was;
* `calls_match` — **calls and returns match**.
-/

namespace Chip8

/-- An instruction that leaves a way back on the stack. -/
def Instruction.isCall : Instruction → Bool
  | .call _ => true
  | _ => false

/-- An instruction that takes the way back. -/
def Instruction.isReturn : Instruction → Bool
  | .ret => true
  | _ => false

/-- The calls among instructions that were carried out, less the returns. -/
def callsOpen (path : List Snapshot) : Int :=
  path.countP (fun snapshot => snapshot.instruction.isCall) -
    path.countP (fun snapshot => snapshot.instruction.isReturn)

theorem callsOpen_append (path more : List Snapshot) :
    callsOpen (path ++ more) = callsOpen path + callsOpen more := by
  rw [callsOpen, callsOpen, callsOpen, List.countP_append, List.countP_append]
  omega

theorem callsOpen_call {snapshot : Snapshot} {target : Fin 4096}
    (h : snapshot.instruction = .call target) : callsOpen [snapshot] = 1 := by
  rw [callsOpen, List.countP_singleton, List.countP_singleton, h]
  rfl

theorem callsOpen_return {snapshot : Snapshot} (h : snapshot.instruction = .ret) :
    callsOpen [snapshot] = -1 := by
  rw [callsOpen, List.countP_singleton, List.countP_singleton, h]
  rfl

theorem callsOpen_other {snapshot : Snapshot} (hcall : snapshot.instruction.isCall = false)
    (hreturn : snapshot.instruction.isReturn = false) : callsOpen [snapshot] = 0 := by
  rw [callsOpen, List.countP_singleton, List.countP_singleton, hcall, hreturn]
  rfl

namespace Registers

/-- Registers with the same stack. -/
structure SameStack (r r' : Registers) : Prop where
  sp : r'.sp = r.sp
  stack : r'.stack = r.stack

theorem SameStack.refl (r : Registers) : r.SameStack r := ⟨rfl, rfl⟩

theorem SameStack.trans {r r' r'' : Registers} (h : r.SameStack r') (h' : r'.SameStack r'') :
    r.SameStack r'' :=
  ⟨h'.sp.trans h.sp, h'.stack.trans h.stack⟩

theorem sameStack_deliver (r : Registers) (response : Option KeyPress) :
    r.SameStack (r.deliver response) := by
  cases response <;> exact ⟨rfl, rfl⟩

end Registers

variable {τ : Type} [TimeScale τ]

namespace Action

/-! ## Instructions -/

/-- Only calls and returns touch the stack. -/
theorem execute_stack {i : Instruction} (hcall : i.isCall = false) (hreturn : i.isReturn = false)
    {s : System τ} (hr : s.machine.registers.InRange) :
    s.machine.registers.SameStack (stateOf (execute i s)).machine.registers := by
  by_cases hplain : i.isPlain = true
  · obtain ⟨o, v, index, host, hrun, -⟩ := execute_plain hplain hr
    rw [hrun]
    exact ⟨rfl, rfl⟩
  · cases i with
    | clear => exact ⟨rfl, rfl⟩
    | ret => cases hreturn
    | call target => cases hcall
    | skipPressed x | skipReleased x =>
      rcases key_or_outside hr x with hx | ⟨key, hx⟩
      · rw [execute, skipOnKey_outside _ hx]
        exact ⟨rfl, rfl⟩
      · rw [execute, skipOnKey_inside _ hx]
        exact ⟨rfl, rfl⟩
    | awaitKey x =>
      rw [execute_awaitKey]
      exact ⟨rfl, rfl⟩
    | setDelay x | setSound x =>
      rw [execute, startTimer_eq _ x hr]
      exact ⟨rfl, rfl⟩
    | decimal x =>
      obtain ⟨memory, accesses, hrun⟩ := execute_decimal x hr
      rw [hrun, stateOf_endOfSweep]
      exact ⟨rfl, rfl⟩
    | store x =>
      obtain ⟨memory, accesses, index, -, hrun⟩ := execute_store x hr
      rw [hrun, stateOf_endOfSweep]
      exact ⟨rfl, rfl⟩
    | load x =>
      obtain ⟨v, accesses, index, -, hrun⟩ := execute_load x hr
      rw [hrun, stateOf_endOfSweep]
      exact ⟨rfl, rfl⟩
    | draw x y rows =>
      cases hstalls : s.drawStalls with
      | true =>
        rw [execute_draw_stalled x y rows hstalls]
        exact ⟨rfl, rfl⟩
      | false =>
        obtain ⟨v, cells, accesses, display, hrun, -⟩ := execute_draw x y rows hr hstalls
        rw [hrun, stateOf_endOfSweep]
        exact ⟨rfl, rfl⟩
    | _ => exact absurd rfl hplain

omit [TimeScale τ] in
/-- Following an instruction up does not touch the stack. -/
theorem finish_stack (pc word : Int) (i : Instruction)
    (r : EStateM.Result Fault (System τ) Outcome) :
    (stateOf r).machine.registers.SameStack
      (stateOf (finish pc word i r)).machine.registers := by
  cases r with
  | error f t => exact .refl _
  | ok o t =>
    rw [finish]
    cases followUp t.machine.registers.pc o.update <;> exact ⟨rfl, rfl⟩

/-- A step carries out no other instruction than the one which it has fetched. -/
theorem instruction_of_answer {s : System τ} {pc word : Int} {i : Instruction}
    {r : EStateM.Result Fault (System τ) Outcome} (h : step s = finish pc word i r)
    {snapshot : Snapshot} (hanswer : s.answer = some snapshot) : snapshot.instruction = i := by
  cases r with
  | error f t =>
    rw [System.answer_of_error h] at hanswer
    cases hanswer
  | ok o t =>
    rw [finish] at h
    cases hnext : followUp t.machine.registers.pc o.update with
    | none =>
      rw [hnext] at h
      rw [System.answer_of_ok h] at hanswer
      cases hanswer
    | some next =>
      rw [hnext] at h
      rw [System.answer_of_ok h] at hanswer
      cases hanswer
      rfl

end Action

/-! ## Steps -/

namespace System

variable {s : System τ}

/-- What a step does to the stack. -/
inductive StackStep (s : System τ) : Prop
  /-- Nothing; what it carries out, if anything, is no call and no return. -/
  | kept (h : s.machine.registers.SameStack (s.after .step).machine.registers)
      (hquiet : callsOpen s.answer.toList = 0)
  /-- A call takes the first free slot for the address behind it. -/
  | called (k : Fin 16) {snapshot : Snapshot} {target : Fin 4096}
      (hanswer : s.answer = some snapshot) (hcall : snapshot.instruction = .call target)
      (hsp : s.machine.registers.sp = k.val)
      (hsp' : (s.after .step).machine.registers.sp = k.val + 1)
      (hstack : (s.after .step).machine.registers.stack =
        setEntry s.machine.registers.stack k (snapshot.entry.address + 2))
  /-- A return goes to the address in the last used slot, and frees it. -/
  | returned (k : Fin 16) {snapshot : Snapshot} (hanswer : s.answer = some snapshot)
      (hreturn : snapshot.instruction = .ret)
      (hsp : s.machine.registers.sp = k.val + 1)
      (hsp' : (s.after .step).machine.registers.sp = k.val)
      (hstack : (s.after .step).machine.registers.stack = s.machine.registers.stack)
      (hpc : (s.after .step).machine.registers.pc = s.machine.registers.slot k)

/-- A step that fails carries out nothing. -/
theorem StackStep.ofError {t : System τ} {f : Fault} (h : Action.step s = .error f t)
    (hstack : s.machine.registers.SameStack t.machine.registers) : s.StackStep := by
  refine .kept ?_ ?_
  · rw [after_of_error h]
    exact hstack
  · rw [answer_of_error h]
    rfl

theorem StackStep.ofIdle {t : System τ} (h : Action.step s = .ok none t)
    (hstack : s.machine.registers.SameStack t.machine.registers) : s.StackStep := by
  refine .kept ?_ ?_
  · rw [after_of_ok h]
    exact hstack
  · rw [answer_of_ok h]
    rfl

section Running

variable {u : System τ} {pc word : Int} (hr : u.machine.registers.InRange)
  (hu : s.machine.registers.SameStack u.machine.registers) (hpc : u.machine.registers.pc = pc)

include hr hu

theorem StackStep.ofReturn
    (h : Action.step s = Action.finish pc word .ret (Action.execute .ret u)) : s.StackStep := by
  by_cases hempty : u.machine.registers.sp ≤ 0
  · rw [Action.execute_ret_empty hempty] at h
    exact .ofError h hu
  · obtain ⟨k, hk, hrun⟩ := Action.execute_ret hr (by omega)
    rw [hrun] at h
    have hanswer := answer_of_ok h
    have hafter := after_of_ok h
    refine .returned k hanswer rfl (hu.sp ▸ hk) ?_ ?_ ?_
    · rw [hafter]
    · rw [hafter]
      exact hu.stack
    · rw [hafter]
      show u.machine.registers.stack.get k = s.machine.registers.stack.get k
      rw [hu.stack]

include hpc

theorem StackStep.ofCall {target : Fin 4096}
    (h : Action.step s = Action.finish pc word (.call target) (Action.execute (.call target) u)) :
    s.StackStep := by
  by_cases hfull : 16 ≤ u.machine.registers.sp
  · rw [Action.execute_call_full target hfull] at h
    exact .ofError h hu
  · obtain ⟨k, hk, hrun⟩ := Action.execute_call target hr (by omega)
    rw [hrun] at h
    have hanswer := answer_of_ok h
    have hafter := after_of_ok h
    refine .called k hanswer rfl (hu.sp ▸ hk) ?_ ?_
    · rw [hafter]
    · rw [hafter]
      show setEntry u.machine.registers.stack k (u.machine.registers.pc + 2) = _
      rw [hu.stack, hpc]

end Running

/-- **What a step does to the stack.** -/
theorem step_stack (hs : s.machine.WellFormed) : s.StackStep := by
  have hprepared := s.machine.registers.sameStack_deliver s.machine.keypad.response
  rcases Action.step_cases s hs.registers.pc.1 with
    ⟨-, hrun⟩ | ⟨-, -, hrun⟩ | ⟨-, -, hrun⟩ | ⟨a, -, ha, hrun⟩
  · exact .ofIdle hrun (.refl _)
  · exact .ofIdle hrun hprepared
  · exact .ofError hrun hprepared
  · have hr : (s.prepared.fetched a).machine.registers.InRange := hs.registers.deliver _
    have hpc : (s.prepared.fetched a).machine.registers.pc = a.val := s.prepared_pc.trans ha
    generalize Instruction.decode (s.machine.memory.word a) = i at hrun
    cases hcall : i.isCall with
    | true =>
      cases i with
      | call target => exact .ofCall hr hprepared hpc hrun
      | _ => cases hcall
    | false =>
      cases hreturn : i.isReturn with
      | true =>
        cases i with
        | ret => exact .ofReturn hr hprepared hrun
        | _ => cases hreturn
      | false =>
        have hexecuted := hprepared.trans (Action.execute_stack hcall hreturn hr)
        refine .kept ?_ ?_
        · rw [after, hrun]
          exact hexecuted.trans (Action.finish_stack _ _ i _)
        · cases hanswer : s.answer with
          | none => rfl
          | some snapshot =>
            obtain rfl := Action.instruction_of_answer hrun hanswer
            exact callsOpen_other hcall hreturn

/-! ## Other operations -/

/-- Nothing but steps and starting over touches the stack. -/
theorem sameStack_after {o : Operation} (ho : o.keepsPath = true) (s : System τ) :
    s.machine.registers.SameStack (s.after o).machine.registers := by
  obtain ⟨_, _, _, hregisters⟩ := (handled_after ho s).registers
  rw [hregisters]
  exact ⟨rfl, rfl⟩

/-! ## Open calls -/

/-- The stack pointer counts the open calls, after one operation more. -/
theorem sp_pathAfter (hs : s.machine.WellFormed) {path : List Snapshot}
    (h : s.machine.registers.sp = callsOpen path) (o : Operation) :
    (s.after o).machine.registers.sp = callsOpen (s.pathAfter path o) := by
  cases o with
  | step =>
    rw [pathAfter, callsOpen_append, ← h]
    cases step_stack hs with
    | kept hsame hquiet =>
      rw [hsame.sp, hquiet]
      omega
    | called k hanswer hcall hsp hsp' _ =>
      rw [hanswer, hsp', hsp, Option.toList_some, callsOpen_call hcall]
    | returned k hanswer hreturn hsp hsp' _ _ =>
      rw [hanswer, hsp', hsp, Option.toList_some, callsOpen_return hreturn]
      omega
  | reset => exact congrArg Registers.sp (started_over (o := .reset) rfl s).2
  | resetAndLoad data =>
    exact congrArg Registers.sp (started_over (o := .resetAndLoad data) rfl s).2
  | loadRom | setKey | setShiftSecond | setDrawOnBlank | setForeground | setBackground =>
    rw [(sameStack_after rfl s).sp, h]
    rfl

/-- **The stack pointer counts the open calls.** -/
theorem sp_path (operations : List Operation) : ∀ {s : System τ} {before : List Snapshot},
    s.machine.WellFormed → s.machine.registers.sp = callsOpen before →
    (s.afterAll operations).machine.registers.sp = callsOpen (s.path before operations) := by
  induction operations with
  | nil => exact fun _ h => h
  | cons o operations ih => exact fun hs h => ih (hs.after o) (sp_pathAfter hs h o)

/-! ## The time between a call and its return -/

/-- The stack pointer stays above a slot all the time. -/
def StaysAbove (s : System τ) (d : Fin 16) (run : List Operation) : Prop :=
  ∀ before, before <+: run → (d.val : Int) < (s.afterAll before).machine.registers.sp

/-- While the pointer is above a slot, one operation leaves the slots up to it alone. -/
theorem slot_after (hs : s.machine.WellFormed) {d : Fin 16}
    (habove : (d.val : Int) < s.machine.registers.sp) {o : Operation}
    (hover : o.startsOver = false) {k : Fin 16} (hk : k ≤ d) :
    (s.after o).machine.registers.slot k = s.machine.registers.slot k := by
  rw [Registers.slot, Registers.slot]
  by_cases hstep : o = .step
  · subst hstep
    cases step_stack hs with
    | kept hsame _ => rw [hsame.stack]
    | called l _ _ hsp _ hstack =>
      have hne : l ≠ k := by
        intro heq
        subst heq
        have hle : l.val ≤ d.val := hk
        omega
      rw [hstack, get_setEntry, if_neg hne]
    | returned l _ _ _ _ hstack _ => rw [hstack]
  · rw [(sameStack_after (Operation.keepsPath_of_ne hstep hover) s).stack]

/-- **While the pointer stays above a slot, the slots up to it are as they were.** -/
theorem slot_afterAll {d k : Fin 16} (hk : k ≤ d) (run : List Operation) : ∀ {s : System τ},
    s.machine.WellFormed → (∀ o ∈ run, o.startsOver = false) → s.StaysAbove d run →
    (s.afterAll run).machine.registers.slot k = s.machine.registers.slot k := by
  induction run with
  | nil => exact fun _ _ _ => rfl
  | cons o run ih =>
    intro s hs hover habove
    have hfirst := slot_after hs (habove [] List.nil_prefix) (hover o (List.mem_cons_self ..)) hk
    have hrest : (s.after o).StaysAbove d run := fun before hbefore =>
      habove (o :: before) (List.cons_prefix_cons.2 ⟨rfl, hbefore⟩)
    exact (ih (hs.after o) (fun o' ho' => hover o' (List.mem_cons_of_mem o ho')) hrest).trans hfirst

/-- What brings the pointer back to a slot is the return from the call which the slot belongs to. -/
theorem returned_of_le (hs : s.machine.WellFormed) {d : Fin 16}
    (habove : (d.val : Int) < s.machine.registers.sp) {o : Operation}
    (hover : o.startsOver = false) (hback : (s.after o).machine.registers.sp ≤ d.val) :
    o = .step ∧ (∃ snapshot, s.answer = some snapshot ∧ snapshot.instruction = .ret) ∧
      (s.after o).machine.registers.sp = d.val ∧
      (s.after o).machine.registers.pc = s.machine.registers.slot d := by
  by_cases hstep : o = .step
  · subst hstep
    cases step_stack hs with
    | kept hsame _ =>
      have hsp := hsame.sp
      omega
    | called k _ _ hsp hsp' _ => omega
    | returned k hanswer hreturn hsp hsp' _ hpc =>
      obtain rfl : k = d := Fin.ext (by omega)
      exact ⟨rfl, ⟨_, hanswer, hreturn⟩, hsp', hpc⟩
  · have hsp := (sameStack_after (Operation.keepsPath_of_ne hstep hover) s).sp
    omega

end System

/-- **Calls and returns match**, after every history.

The stack pointer is the number of calls that were carried out since the machine was started over
last, less the number of returns.  And if the next step carries out a call with the pointer at a
slot, then whatever comes after it short of starting over: as long as the pointer stays above the
slot, the slot holds the address behind the call, and the slots before it hold what they held; and
what brings the pointer back is a step that carries out a return, to that address. -/
theorem calls_match (host : Host τ) (operations : List Operation) :
    let s := (System.powerOn host).afterAll operations
    s.machine.registers.sp = callsOpen ((System.powerOn host).path [] operations) ∧
    ∀ (snapshot : Snapshot) (target : Fin 4096), s.answer = some snapshot →
      snapshot.instruction = .call target →
      ∃ d : Fin 16, s.machine.registers.sp = d.val ∧
        (s.after .step).machine.registers.sp = d.val + 1 ∧
        ∀ run : List Operation, (∀ o ∈ run, o.startsOver = false) →
          (s.after .step).StaysAbove d run →
          let u := (s.after .step).afterAll run
          u.machine.registers.slot d = snapshot.entry.address + 2 ∧
          (∀ k < d, u.machine.registers.slot k = s.machine.registers.slot k) ∧
          ∀ o : Operation, o.startsOver = false → (u.after o).machine.registers.sp ≤ d.val →
            o = .step ∧ (∃ back, u.answer = some back ∧ back.instruction = .ret) ∧
            (u.after o).machine.registers.sp = d.val ∧
            (u.after o).machine.registers.pc = snapshot.entry.address + 2 := by
  intro s
  have hpower := Machine.WellFormed.powerOn host.readTime.1
  have hs : s.machine.WellFormed := hpower.afterAll operations
  refine ⟨System.sp_path operations hpower rfl, fun snapshot target hanswer hcall => ?_⟩
  cases System.step_stack hs with
  | kept _ hquiet =>
    rw [hanswer, Option.toList_some, callsOpen_call hcall] at hquiet
    cases hquiet
  | returned k hanswer' hreturn =>
    cases hanswer.symm.trans hanswer'
    cases hcall.symm.trans hreturn
  | called d hanswer' _ hsp hsp' hstack =>
    cases hanswer.symm.trans hanswer'
    refine ⟨d, hsp, hsp', fun run hrun habove => ?_⟩
    have hcalled : (s.after .step).machine.WellFormed := hs.after .step
    have hu := hcalled.afterAll run
    have hslot : ∀ k, (s.after .step).machine.registers.slot k =
        if d = k then snapshot.entry.address + 2 else s.machine.registers.slot k := by
      intro k
      rw [Registers.slot, hstack, get_setEntry]
      rfl
    have hown : ((s.after .step).afterAll run).machine.registers.slot d =
        snapshot.entry.address + 2 := by
      rw [System.slot_afterAll (Nat.le_refl _) run hcalled hrun habove, hslot, if_pos rfl]
    refine ⟨hown, fun k hk => ?_, fun o hover hback => ?_⟩
    · rw [System.slot_afterAll (Nat.le_of_lt hk) run hcalled hrun habove, hslot,
        if_neg (Fin.ne_of_gt hk)]
    · rw [← hown]
      exact System.returned_of_le hu (habove run List.prefix_rfl) hover hback

/-- A machine whose program calls a subroutine that returns at once. -/
def calling : System Rat :=
  (System.powerOn (Host.still 0 fun _ => 0)).afterAll
    [.loadRom #[0x22, 0x04, 0x00, 0x00, 0x00, 0xEE]]

/-- Its first step. -/
theorem step_calling {s : System Rat} (hs : s.machine.WellFormed)
    (hword : s.machine.memory.word 512 = 0x2204) (hidle : s.machine.keypad.waiting = false)
    (hpc : s.machine.registers.pc = 512) (hsp : s.machine.registers.sp = 0) :
    ∃ snapshot t, Action.step s = .ok (some snapshot) t ∧ snapshot.instruction = .call 516 ∧
      snapshot.entry.address = 512 ∧ t.machine.registers.pc = 516 ∧
      t.machine.registers.sp = 1 ∧ t.machine.memory = s.machine.memory ∧
      t.machine.keypad.waiting = false := by
  have hdecode : Instruction.decode 0x2204 = .call 516 := by decide
  have hr : (s.prepared.fetched 512).machine.registers.InRange := hs.registers.deliver _
  have hfree : (s.prepared.fetched 512).machine.registers.sp = 0 :=
    (s.machine.registers.sameStack_deliver _).sp.trans hsp
  obtain ⟨k, hk, hrun⟩ := Action.execute_call 516 hr (by omega)
  obtain rfl : k = 0 := Fin.ext (by omega)
  have hstep := Action.step_inside (a := 512) hidle hpc
  rw [hword, hdecode, hrun, Action.finish] at hstep
  exact ⟨_, _, hstep, rfl, rfl, rfl, rfl, rfl, hidle⟩

/-- Its second one. -/
theorem sp_returning {s : System Rat} (hs : s.machine.WellFormed)
    (hword : s.machine.memory.word 516 = 0x00EE) (hidle : s.machine.keypad.waiting = false)
    (hpc : s.machine.registers.pc = 516) (hsp : s.machine.registers.sp = 1) :
    (s.after .step).machine.registers.sp = 0 := by
  have hdecode : Instruction.decode 0x00EE = .ret := by decide
  have hr : (s.prepared.fetched 516).machine.registers.InRange := hs.registers.deliver _
  have hused : (s.prepared.fetched 516).machine.registers.sp = 1 :=
    (s.machine.registers.sameStack_deliver _).sp.trans hsp
  obtain ⟨k, hk, hrun⟩ := Action.execute_ret hr (by omega)
  have hstep := Action.step_inside (a := 516) hidle hpc
  rw [hword, hdecode, hrun, Action.finish] at hstep
  rw [System.after_of_ok hstep]
  show (k.val : Int) = 0
  omega

/-- The second step goes back behind the call that the first one made. -/
theorem calls_match_subroutine :
    let called := calling.after .step
    called.machine.registers.pc = 516 ∧ called.machine.registers.slot 0 = 514 ∧
      (∃ back, called.answer = some back ∧ back.instruction = .ret) ∧
      (called.after .step).machine.registers.pc = 514 := by
  have hs : calling.machine.WellFormed := (Machine.WellFormed.powerOn _).afterAll _
  have hword : calling.machine.memory.word 512 = 0x2204 := Memory.word_loadRom _ _ (k := 0) rfl
  have hbackWord : calling.machine.memory.word 516 = 0x00EE := Memory.word_loadRom _ _ (k := 4) rfl
  have hidle : calling.machine.keypad.waiting = false := rfl
  have hstart : calling.machine.registers.pc = 512 := rfl
  have hfree : calling.machine.registers.sp = 0 := rfl
  have hcalling : (System.powerOn (Host.still 0 fun _ => 0)).afterAll
    [.loadRom #[0x22, 0x04, 0x00, 0x00, 0x00, 0xEE]] = calling := rfl
  have hmatch := (calls_match (Host.still (0 : Rat) fun _ => 0)
    [.loadRom #[0x22, 0x04, 0x00, 0x00, 0x00, 0xEE]]).2
  rw [hcalling] at hmatch
  generalize calling = s at *
  obtain ⟨snapshot, t, hstep, hcall, haddress, hpc, hsp, hmemory, hactive⟩ :=
    step_calling hs hword hidle hstart hfree
  have hcalled := hs.after .step
  obtain ⟨d, hd, hd', hframe⟩ := hmatch snapshot 516 (System.answer_of_ok hstep) hcall
  obtain rfl : d = 0 := Fin.ext (by omega)
  rw [System.after_of_ok hstep] at hcalled hd' hframe
  rw [System.after_of_ok hstep]
  have habove : t.StaysAbove 0 [] := by
    intro before hbefore
    rw [List.prefix_nil.1 hbefore, System.afterAll, List.foldl_nil, hd']
    decide
  obtain ⟨hslot, -, hends⟩ := hframe [] (List.forall_mem_nil _) habove
  have hzero := sp_returning hcalled (by rw [hmemory, hbackWord]) hactive hpc hsp
  obtain ⟨-, hback, -, hbehind⟩ := hends .step rfl (Int.le_of_eq hzero)
  rw [haddress] at hslot hbehind
  exact ⟨hpc, hslot, hback, hbehind⟩

end Chip8
