import Chip8.Disassembly
import Chip8.Proofs.Clock.Exact
import Chip8.Proofs.Machine.History
import Chip8.Proofs.Machine.Snapshot

/-!
# Listing and processor

Does a listing show what the processor will carry out?  Both put a word together from two bytes.
But the processor reads them, which leaves a record, and fails when only the first one is in memory,
while a listing peeks at them and stops in time.

* `lt_rowCount_iff` — the lines start before the end that was asked for and before the last cell;
* `listing_inside` — a listing can be taken from any address on, and which line is at a place;
* `disassemble_eq` — peeking at cells one by one gives that listing, and changes nothing;
* `disassemble_agrees` — **a listing never fails and has a line for each word in reach, and the one
  line at the program counter is what a step then fetches and carries out**.
-/

namespace Chip8

open Text

namespace Memory

variable (m : Memory)

/-- The line for the word at an address. -/
def line (a : Fin 4095) : ListingRow :=
  ⟨a.val,
    HexForm.pair.write (m.get a.castSucc).toNat ++ " " ++ HexForm.pair.write (m.get a.succ).toNat,
    (Instruction.decode (m.word a)).text⟩

theorem read_inside {address : Int} {a : Fin 4096} (h : address = a.val) :
    m.read address = .ok (m.get a) := by
  rw [read, Action.locate_cell h]
  rfl

end Memory

namespace Disassembly

/-- There is a line for each address that comes up in twos before the end and the last cell. -/
theorem lt_rowCount_iff (start length : Int) (k : Nat) :
    k < rowCount start length ↔ start + 2 * k < start + length ∧ start + 2 * k < 4095 := by
  rw [rowCount]
  omega

variable (m : Memory)

theorem row_inside (a : Fin 4095) : row m a.val = .ok (m.line a) := by
  have hhigh : m.read a.val = .ok (m.get a.castSucc) := m.read_inside rfl
  have hlow : m.read (a.val + 1) = .ok (m.get a.succ) := m.read_inside rfl
  rw [row, hhigh, hlow]
  rfl

/-- Lines that are all inside can be taken, and the k-th one is the line for the k-th address. -/
theorem rows_inside (n : Nat) :
    ∀ start : Int, 0 ≤ start → (∀ k < n, start + 2 * (k : Nat) < 4095) →
      ∃ lines, rows m start n = .ok lines ∧ lines.length = n ∧
        ∀ (k : Nat) (a : Fin 4095), k < n → (a.val : Int) = start + 2 * k →
          lines[k]? = some (m.line a) := by
  induction n with
  | zero =>
    intro start _ _
    exact ⟨[], rfl, rfl, fun k a hk => absurd hk (Nat.not_lt_zero k)⟩
  | succ n ih =>
    intro start hstart hinside
    have hfirst := hinside 0 (Nat.zero_lt_succ n)
    have hrest : ∀ k < n, start + 2 + 2 * (k : Nat) < 4095 := by
      intro k hk
      have := hinside (k + 1) (Nat.succ_lt_succ hk)
      omega
    obtain ⟨lines, hlines, hlength, hline⟩ := ih (start + 2) (by omega) hrest
    -- a word starts at each address but the last one, and the first line is inside
    obtain ⟨a, rfl⟩ : ∃ a : Fin 4095, start = (a.val : Int) :=
      ⟨⟨start.toNat, by omega⟩, by simp only; omega⟩
    refine ⟨m.line a :: lines, ?_, congrArg Nat.succ hlength, ?_⟩
    · rw [rows, row_inside, hlines]
      rfl
    · intro k b hk hb
      cases k with
      | zero =>
        have hba : b = a := Fin.ext (by omega)
        rw [hba]
        rfl
      | succ k => exact hline k b (Nat.lt_of_succ_lt_succ hk) (by omega)

/-- **A listing can be taken from any address on.** -/
theorem listing_inside {start : Int} (h : 0 ≤ start) (length : Int) :
    ∃ lines, listing m start length = .ok lines ∧ lines.length = rowCount start length ∧
      ∀ (k : Nat) (a : Fin 4095), k < rowCount start length → (a.val : Int) = start + 2 * k →
        lines[k]? = some (m.line a) :=
  rows_inside m _ start h fun k hk => ((lt_rowCount_iff start length k).1 hk).2

end Disassembly

namespace Action

variable {τ : Type}

/-! ## Peeking -/

theorem peekLine_eq (address : Int) (s : System τ) :
    peekLine address s = check (Disassembly.row s.machine.memory address) s := by
  rw [peekLine, Disassembly.row]
  have hpeek (b : Int) : peek b s = check (s.machine.memory.read b) s := rfl
  cases hhigh : s.machine.memory.read address with
  | error f => rw [bind_of_error (by rw [hpeek, hhigh, check_error])]; rfl
  | ok high =>
    rw [bind_of_ok (by rw [hpeek, hhigh, check_ok])]
    cases hlow : s.machine.memory.read (address + 1) with
    | error f => rw [bind_of_error (by rw [hpeek, hlow, check_error])]; rfl
    | ok low => rw [bind_of_ok (by rw [hpeek, hlow, check_ok])]; rfl

/-- One line is taken after the other, and every one from the same memory. -/
theorem peekLines_eq (n : Nat) (s : System τ) :
    ∀ address : Int,
      peekLines address n s = check (Disassembly.rows s.machine.memory address n) s := by
  induction n with
  | zero => intro address; rfl
  | succ n ih =>
    intro address
    rw [peekLines, Disassembly.rows]
    cases hfirst : Disassembly.row s.machine.memory address with
    | error f => rw [bind_of_error (by rw [peekLine_eq, hfirst, check_error])]; rfl
    | ok first =>
      rw [bind_of_ok (by rw [peekLine_eq, hfirst, check_ok])]
      cases hrest : Disassembly.rows s.machine.memory (address + 2) n with
      | error f => rw [bind_of_error (by rw [ih, hrest, check_error])]; rfl
      | ok rest => rw [bind_of_ok (by rw [ih, hrest, check_ok])]; rfl

/-- **Peeking at the cells gives the listing of the memory**, and changes nothing. -/
theorem disassemble_eq (start length : Int) (s : System τ) :
    disassemble start length s =
      check (Disassembly.listing s.machine.memory start length) s :=
  peekLines_eq _ s start

/-- The listing of one word has one line. -/
theorem disassemble_word (a : Fin 4095) (s : System τ) :
    disassemble a.val 2 s = .ok [s.machine.memory.line a] s := by
  have hcount : Disassembly.rowCount a.val 2 = 1 := by
    rw [Disassembly.rowCount]
    omega
  rw [disassemble_eq, Disassembly.listing, hcount, Disassembly.rows, Disassembly.row_inside]
  rfl

variable [TimeScale τ]

/-- **A listing agrees with the processor.**  From any address on and over any number of bytes, it
is taken without a fault and without a trace, and it has exactly one line for each address which
comes up in twos, before the end and the last cell.  And if a step carries something out, then the
listing of the word at the program counter shows the two bytes that the step fetches and the
instruction that is in its snapshot. -/
theorem disassemble_agrees (s : System τ) :
    (∀ start length : Int, 0 ≤ start →
      ∃ lines, disassemble start length s = .ok lines s ∧
        Disassembly.listing s.machine.memory start length = .ok lines ∧
        (∀ (k : Nat) (a : Fin 4095), (a.val : Int) = start + 2 * k →
          start + 2 * k < start + length → lines[k]? = some (s.machine.memory.line a)) ∧
        ∀ k : Nat, min (start + length) 4095 ≤ start + 2 * k → lines[k]? = none) ∧
    ∀ (snapshot : Snapshot) (t : System τ), step s = .ok (some snapshot) t →
      ∃ (a : Fin 4095) (high low : UInt8) (more : Array Access),
        s.machine.registers.pc = (a.val : Int) ∧
        snapshot.accesses = #[.read a.castSucc high, .read a.succ low] ++ more ∧
        disassemble s.machine.registers.pc 2 s =
          .ok [⟨s.machine.registers.pc,
            HexForm.pair.write high.toNat ++ " " ++ HexForm.pair.write low.toNat,
            snapshot.instruction.text⟩] s := by
  constructor
  · intro start length hstart
    obtain ⟨lines, hlines, hlength, hline⟩ :=
      Disassembly.listing_inside s.machine.memory hstart length
    refine ⟨lines, ?_, hlines, ?_, ?_⟩
    · rw [disassemble_eq, hlines, check_ok]
    · intro k a ha hk
      exact hline k a ((Disassembly.lt_rowCount_iff start length k).2 ⟨hk, by omega⟩) ha
    · intro k hk
      have hend : ¬ k < Disassembly.rowCount start length := by
        rw [Disassembly.lt_rowCount_iff]
        omega
      exact List.getElem?_eq_none (by omega)
  · intro snapshot t hstep
    obtain ⟨-, a, more, ha, hinstruction, haccesses⟩ := step_snapshot hstep
    refine ⟨a, s.machine.memory.get a.castSucc, s.machine.memory.get a.succ, more, ha, haccesses,
      ?_⟩
    rw [ha, disassemble_word, hinstruction]
    rfl

/-- A machine whose program sets a register. -/
def presetting : System Rat := .started (Host.still 0 fun _ => 0) #[0x60, 0x01]

/-- The instruction is listed and carried out, and a listing that goes past the end has no line for
the last cell. -/
theorem disassemble_agrees_presetting :
    (∃ snapshot t, step presetting = .ok (some snapshot) t ∧ snapshot.instruction = .setByte 0 1 ∧
      ∃ (high low : UInt8) (more : Array Access),
        snapshot.accesses = #[.read 512 high, .read 513 low] ++ more ∧
        disassemble 512 2 presetting =
          .ok [⟨512, HexForm.pair.write high.toNat ++ " " ++ HexForm.pair.write low.toNat,
            "LD V0, #$01"⟩] presetting) ∧
      ∃ lines, disassemble 4093 9 presetting = .ok lines presetting ∧
        lines[0]? = some (presetting.machine.memory.line 4093) ∧ lines[1]? = none := by
  obtain ⟨hlisting, hnext⟩ := disassemble_agrees presetting
  have hpc : presetting.machine.registers.pc = 512 := rfl
  constructor
  · have hword : presetting.machine.memory.word 512 = 0x6001 :=
      Memory.word_loadRom _ _ (k := 0) rfl
    have hdecode : Instruction.decode (presetting.machine.memory.word 512) = .setByte 0 1 := by
      rw [hword]
      decide
    have hstep := step_inside (s := presetting) (a := 512) rfl hpc
    rw [hdecode] at hstep
    obtain ⟨snapshot, t, hrun, hinstruction⟩ : ∃ snapshot t,
        step presetting = .ok (some snapshot) t ∧ snapshot.instruction = .setByte 0 1 :=
      ⟨_, _, hstep, rfl⟩
    obtain ⟨a, high, low, more, ha, haccesses, hlines⟩ := hnext snapshot t hrun
    have htext : (Instruction.setByte 0 1).text = "LD V0, #$01" := by decide +kernel
    obtain rfl : a = 512 := Fin.ext (Int.ofNat.inj ha).symm
    rw [hinstruction, hpc, htext] at hlines
    exact ⟨snapshot, t, hrun, hinstruction, high, low, more, haccesses, hlines⟩
  · obtain ⟨lines, hlines, -, hline, hend⟩ := hlisting 4093 9 (by decide)
    exact ⟨lines, hlines, hline 0 4093 rfl (by decide), hend 1 (by decide)⟩

end Action

end Chip8
