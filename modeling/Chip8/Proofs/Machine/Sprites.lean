import Chip8.Proofs.Machine.Idling
import Chip8.Proofs.Screen.Bitmap

/-!
# Sprites on the screen

An instruction that draws goes through the rows of its sprite and through the eight bits of each
row.  What comes of it can be told without either loop, point by point:

* `Memory.Covers` — a sprite has a pixel on at a point of the screen.  It is cut off at the right
  edge and at the lower one, since no point lies beyond them;
* `sprite_eq_some_iff` — this is the bit of the sprite which meets the cell of the point;
* `Combined.isLit_eq`, `Combined.clash_iff` — as long as the two colours differ, a drawing toggles
  the cells which meet a set bit, and a hit is a cell that it turns off;
* `SpriteDrawn` — a later state in which the points which a sprite covers are toggled, the flag
  register tells whether one of them was turned off, and a program finds nothing else changed;
* `draws_sprite` — **a drawing that comes and need not wait leads there**, if memory has all of its
  rows.
-/

namespace Chip8

/-- A sprite has a pixel on at a point of the screen.  Its rows are bytes from an address on, it is
drawn with its upper left corner in column `x` and row `y`, and the most significant bit of a byte is
the leftmost one. -/
def Memory.Covers (m : Memory) (address : Int) (rows x y : Nat) (row : Fin 32) (column : Fin 64) :
    Prop :=
  (x ≤ column.val ∧ column.val < x + 8) ∧ (y ≤ row.val ∧ row.val < y + rows) ∧
    ∃ a : Fin 4096, (a.val : Int) = address + (row.val - y : Nat) ∧
      (m.get a).toNat.testBit (7 - (column.val - x)) = true

namespace Screen

/-! ## Points and cells -/

/-- The row of a sprite has a pixel on where the byte of the row has its bit set. -/
theorem strikes_eq_some_iff (x y : Nat) (byte : UInt8) (row : Fin 32) (column : Fin 64) :
    strikes x y byte.toNat (place row column) = some true ↔
      row.val = y ∧ (x ≤ column.val ∧ column.val < x + 8) ∧
        byte.toNat.testBit (7 - (column.val - x)) = true := by
  rw [strikes_place]
  by_cases hmet : row.val = y ∧ x ≤ column.val ∧ column.val < x + 8
  · have hbit : (byte.toNat : Int) / 2 ^ (7 - (column.val - x)) % 2 = 1 ↔
        byte.toNat.testBit (7 - (column.val - x)) = true := by
      rw [Nat.testBit_eq_decide_div_mod_eq, decide_eq_true_iff]
      exact_mod_cast Iff.rfl
    rw [if_pos hmet, Option.some.injEq, Bitmap.covers, ← hbit]
    simp [hmet]
  · rw [if_neg hmet]
    refine iff_of_false (Option.some_ne_none true).symm ?_
    rintro ⟨hrow, hcolumn, -⟩
    exact hmet ⟨hrow, hcolumn⟩

/-- **A sprite covers a point if a set bit of it meets the cell of the point.** -/
theorem sprite_eq_some_iff (m : Memory) (x y : Nat) (address : Int) (rows : Nat) (row : Fin 32)
    (column : Fin 64) :
    sprite m x y address rows (place row column) = some true ↔
      m.Covers address rows x y row column := by
  have hrow : (place row column).val / 64 = row.val := by
    rw [place_val]
    omega
  rw [sprite, Memory.Covers, hrow]
  by_cases hin : y ≤ row.val ∧ row.val < y + rows
  · rw [if_pos hin, Option.bind_eq_some_iff]
    constructor
    · rintro ⟨byte, hbyte, hstrikes⟩
      obtain ⟨-, hcolumn, hbit⟩ := (strikes_eq_some_iff x row.val byte row column).1 hstrikes
      rw [Memory.at?] at hbyte
      split at hbyte
      · cases hbyte
        exact ⟨hcolumn, hin, ⟨(address + (row.val - y : Nat)).toNat, by omega⟩, by simp only; omega,
          hbit⟩
      · cases hbyte
    · rintro ⟨hcolumn, -, a, ha, hbit⟩
      exact ⟨m.get a, m.at?_cell ha.symm,
        (strikes_eq_some_iff x row.val (m.get a) row column).2 ⟨rfl, hcolumn, hbit⟩⟩
  · rw [if_neg hin]
    exact iff_of_false (Option.some_ne_none true).symm fun hcovers => hin hcovers.2.1

/-! ## Toggled cells -/

section Toggled

variable {s t : Screen} {bit? : Fin 2048 → Option Bool} (h : s.Combined bit? t)
  (hcolors : s.foreground ≠ s.background)

include h hcolors

/-- Where the two colours differ, a cell is lit after a drawing if it was lit or met a set bit, and
not both. -/
theorem Combined.isLit_eq (c : Fin 2048) :
    t.isLit c = ((bit? c == some true) ^^ s.isLit c) := by
  cases hbit : bit? c with
  | none => exact (h.isLit hbit).trans (Bool.false_xor _).symm
  | some bit =>
    have hoff : (s.background == s.foreground) = false := beq_eq_false_iff_ne.2 hcolors.symm
    show (t.cell c == t.foreground) = _
    rw [h.met c bit hbit, h.foreground]
    cases bit <;> cases s.isLit c <;> simp [hoff]

/-- So the cells that meet a set bit are toggled. -/
theorem Combined.toggled_iff (c : Fin 2048) : t.isLit c ≠ s.isLit c ↔ bit? c = some true := by
  rw [h.isLit_eq hcolors]
  by_cases hbit : bit? c = some true
  · rw [hbit]
    cases s.isLit c <;> simp
  · rw [beq_eq_false_iff_ne.2 hbit]
    simp [hbit]

/-- And a hit is a cell that is turned off. -/
theorem Combined.clash_iff : s.Clash bit? ↔
    ∃ row column, s.isLit (place row column) = true ∧ t.isLit (place row column) = false := by
  constructor
  · rintro ⟨c, hbit, hlit⟩
    obtain ⟨row, column, rfl⟩ := exists_place c
    refine ⟨row, column, hlit, ?_⟩
    rw [h.isLit_eq hcolors, hbit, hlit]
    rfl
  · rintro ⟨row, column, hlit, hoff⟩
    refine ⟨place row column, (h.toggled_iff hcolors _).1 ?_, hlit⟩
    rw [hlit, hoff]
    exact Bool.false_ne_true

end Toggled

end Screen

namespace System

variable {τ : Type} [TimeScale τ]

/-! ## Drawings -/

/-- A later state in which a sprite was drawn at the point which two registers give, taken modulo the
size of the screen.  They are read before the flag register is written, so one of them may be the
flag register; and a key that is delivered at the start of the step is in its register by then. -/
structure SpriteDrawn (x y rows : Fin 16) (s t : System τ) : Prop where
  /-- A pixel is toggled exactly if the sprite covers it. -/
  toggled : ∀ row column,
    t.machine.screen.isLit (Screen.place row column) ≠
        s.machine.screen.isLit (Screen.place row column) ↔
      s.machine.memory.Covers s.machine.registers.index rows.val
        (s.prepared.machine.registers.get x % 64).toNat
        (s.prepared.machine.registers.get y % 32).toNat row column
  /-- The flag register tells whether a pixel was turned off. -/
  flag : t.machine.registers.get Registers.flag = 1 ∧
      (∃ row column, s.machine.screen.isLit (Screen.place row column) = true ∧
        t.machine.screen.isLit (Screen.place row column) = false) ∨
    t.machine.registers.get Registers.flag = 0 ∧
      ¬ ∃ row column, s.machine.screen.isLit (Screen.place row column) = true ∧
        t.machine.screen.isLit (Screen.place row column) = false
  general : ∀ z, z ≠ Registers.flag →
    t.machine.registers.get z = s.prepared.machine.registers.get z
  index : t.machine.registers.index = s.machine.registers.index
  memory : t.machine.memory = s.machine.memory
  foreground : t.machine.screen.foreground = s.machine.screen.foreground
  background : t.machine.screen.background = s.machine.screen.background
  pc : t.machine.registers.pc = s.machine.registers.pc + 2

variable {s : System τ} {x y rows : Fin 16}

/-- A drawing that comes and does not stall need not wait. -/
theorem Attempts.drawStalls_of_not_stalls (h : s.Attempts x y rows) (hgo : ¬ s.Stalls)
    (a : Fin 4095) : (s.prepared.fetched a).drawStalls = false := by
  refine Bool.eq_false_iff.2 fun hstalls => hgo ?_
  obtain ⟨hon, hblank⟩ := (drawStalls_fetched_iff a).1 hstalls
  obtain ⟨b, -, -, hrun⟩ := h.step_eq
  rw [Action.execute_draw_stalled x y rows ((drawStalls_fetched_iff b).2 ⟨hon, hblank⟩)] at hrun
  exact ⟨_, hrun⟩

/-- Cells that are combined with a sprite, and a flag which tells of a hit, are what a drawing
leaves. -/
theorem SpriteDrawn.intro {t : System τ} {hit : Bool}
    (hcolors : s.machine.screen.foreground ≠ s.machine.screen.background)
    (hscreen : s.machine.screen.Combined (s.prepared.machine.spriteAt x y rows.val)
      t.machine.screen)
    (hhit : hit = true ↔ s.machine.screen.Clash (s.prepared.machine.spriteAt x y rows.val))
    (hregisters : t.machine.registers =
      { s.prepared.machine.registers.assign Registers.flag (if hit then 1 else 0) with
        awaitingBlank := false
        pc := s.machine.registers.pc + 2 })
    (hmemory : t.machine.memory = s.machine.memory) : s.SpriteDrawn x y rows t := by
  have hget : ∀ z, t.machine.registers.get z =
      if Registers.flag = z then (if hit then 1 else 0)
      else s.prepared.machine.registers.get z := by
    intro z
    rw [hregisters]
    exact Registers.get_assign ..
  have hindex : s.prepared.machine.registers.index = s.machine.registers.index :=
    Registers.deliver_index ..
  refine ⟨fun row column => ?_, ?_, fun z hz => ?_, ?_, hmemory, hscreen.foreground,
    hscreen.background, ?_⟩
  · rw [hscreen.toggled_iff hcolors, Machine.spriteAt, Screen.sprite_eq_some_iff, hindex]
    rfl
  · rw [← hscreen.clash_iff hcolors, ← hhit, hget, if_pos rfl]
    cases hit <;> simp
  · rw [hget, if_neg hz.symm]
  · rw [hregisters]
    exact hindex
  · rw [hregisters]

/-- **A drawing toggles the pixels which its sprite covers**, in every state that programs and the
host lead to and in which the two colours differ, if it need not wait and memory has all of its rows.
It always succeeds then, the flag register tells whether a pixel was turned off, and nothing else
changes that a program finds, but for the program counter, which goes on to the next instruction. -/
theorem draws_sprite (hs : s.Reachable)
    (hcolors : s.machine.screen.foreground ≠ s.machine.screen.background)
    (h : s.Attempts x y rows) (hgo : ¬ s.Stalls)
    (hin : rows.val = 0 ∨ s.machine.registers.index + rows.val ≤ 4096) :
    ∃ snapshot t, Action.step s = .ok (some snapshot) t ∧
      snapshot.instruction = .draw x y rows ∧ s.SpriteDrawn x y rows t := by
  obtain ⟨a, ha, -, hrun⟩ := h.step_eq
  have hr : (s.prepared.fetched a).machine.registers.InRange :=
    hs.wellFormed.registers.deliver s.machine.keypad.response
  have hindex : (s.prepared.fetched a).machine.registers.index = s.machine.registers.index :=
    Registers.deliver_index ..
  obtain ⟨hit, screen, accesses, display, hscreen, hhit, hdraw⟩ :=
    Action.execute_draw_eq x y rows hr (h.drawStalls_of_not_stalls hgo a)
  have hall : rows.val = 0 ∨ (s.prepared.fetched a).machine.registers.index + rows.val ≤ 4096 := by
    rwa [hindex]
  have hasked : (s.prepared.fetched a).asked.machine.memory = s.machine.memory := by
    rcases (s.prepared.fetched a).asked_cases with hsame | hsame <;> rw [hsame] <;> rfl
  have hdrawn : (s.prepared.fetched a).machine.registers.drawn rows.val hit = _ := if_pos hall
  rw [hdraw.trans (if_pos hall), hdrawn] at hrun
  refine ⟨_, _, hrun, rfl, .intro hcolors hscreen hhit ?_ hasked⟩
  rw [← prepared_pc s]
  rfl

/-- A machine whose program puts the column of the right edge into the flag register, and then draws
at the point that this register gives twice. -/
def edging : System Rat := .started (Host.still 0 fun _ => 0) #[0x6F, 0x3E, 0xDF, 0xF5]

/-- That machine when it has come to the drawing. -/
theorem edging_ready : (edging.after .step).machine.keypad = .initial ∧
    (edging.after .step).machine.memory = edging.machine.memory ∧
    (edging.after .step).machine.screen = .initial ∧
    (edging.after .step).machine.registers = { Registers.initial.put 15 62 with pc := 514 } := by
  have hbyte : Instruction.decode (edging.machine.memory.word 512) = .setByte 15 62 := by
    have hword : edging.machine.memory.word 512 = 0x6F3E := Memory.word_loadRom _ _ (k := 0) rfl
    rw [hword]
    decide
  have hstep := Action.step_inside (s := edging) (a := 512) rfl rfl
  rw [hbyte] at hstep
  rw [after, hstep]
  exact ⟨rfl, rfl, rfl, rfl⟩

/-- The sprite is cut off at both edges: of its second row, one pixel comes to stand in the last row
of the screen, and none comes in again at the left. -/
theorem draws_sprite_edging : (edging.after .step).Reachable ∧
    (edging.after .step).machine.screen.foreground ≠
      (edging.after .step).machine.screen.background ∧
    (edging.after .step).Attempts 15 15 5 ∧ ¬ (edging.after .step).Stalls ∧
    ∃ snapshot t, Action.step (edging.after .step) = .ok (some snapshot) t ∧
      t.machine.screen.isLit (Screen.place 31 62) = true ∧
      t.machine.screen.isLit (Screen.place 31 63) = false ∧
      t.machine.screen.isLit (Screen.place 30 0) = false ∧
      t.machine.registers.get Registers.flag = 0 ∧ t.machine.registers.pc = 516 := by
  obtain ⟨hkeypad, hmemory, hscreen, hregisters⟩ := edging_ready
  have hreach : (edging.after .step).Reachable := (reachable_started _ _).after .step
  have hcolors : (edging.after .step).machine.screen.foreground ≠
      (edging.after .step).machine.screen.background := by
    rw [hscreen]
    decide
  have hattempts : (edging.after .step).Attempts 15 15 5 := by
    have hword : edging.machine.memory.word 514 = 0xDFF5 := Memory.word_loadRom _ _ (k := 2) rfl
    refine ⟨by rw [hkeypad]; rfl, 514, by rw [hregisters]; rfl, ?_⟩
    rw [hmemory, hword]
    decide
  have hgo : ¬ (edging.after .step).Stalls := by
    rw [stalls_iff_idle hreach.wellFormed]
    rintro (hwaiting | hhalted | ⟨x, y, rows, -, hon, -⟩)
    · rw [hkeypad] at hwaiting
      cases hwaiting
    · rw [hregisters] at hhalted
      revert hhalted
      decide
    · rw [hregisters] at hon
      cases hon
  obtain ⟨snapshot, t, hrun, -, hdrawn⟩ :=
    draws_sprite hreach hcolors hattempts hgo (.inr (by rw [hregisters]; decide))
  have hprepared : (edging.after .step).prepared.machine.registers =
      { Registers.initial.put 15 62 with pc := 514 } :=
    (registers_prepared (by rw [hkeypad]; rfl)).trans hregisters
  have hoff : ∀ c, (edging.after .step).machine.screen.isLit c = false := by
    intro c
    rw [hscreen, Screen.isLit, Screen.initial, Screen.cell_blank]
    decide
  have hglyph : edging.machine.memory.get 1 = 0x90 := by
    have hplaced : edging.machine.memory = Memory.blank.loadRom #[0x6F, 0x3E, 0xDF, 0xF5] := rfl
    rw [hplaced, Memory.get_loadRom, if_pos (by decide), Memory.get_blank]
    rfl
  have htoggled := hdrawn.toggled
  rw [hmemory, hregisters, hprepared] at htoggled
  simp only [hoff] at htoggled
  have hcovers : ∀ row column, t.machine.screen.isLit (Screen.place row column) ≠ false ↔
      edging.machine.memory.Covers 0 5 62 30 row column := htoggled
  refine ⟨hreach, hcolors, hattempts, hgo, snapshot, t, hrun, ?_, ?_, ?_, ?_, ?_⟩
  · have hon : edging.machine.memory.Covers 0 5 62 30 31 62 :=
      ⟨by decide, by decide, 1, by decide, by rw [hglyph]; decide⟩
    exact Bool.eq_true_of_not_eq_false ((hcovers 31 62).2 hon)
  · refine not_not.1 fun hlit => ?_
    obtain ⟨-, -, a, ha, hbit⟩ := (hcovers 31 63).1 hlit
    have hsecond : a = 1 := Fin.ext (Int.ofNat.inj ha)
    rw [hsecond, hglyph] at hbit
    revert hbit
    decide
  · refine not_not.1 fun hlit => ?_
    obtain ⟨hcolumn, -⟩ := (hcovers 30 0).1 hlit
    revert hcolumn
    decide
  · rcases hdrawn.flag with ⟨-, row, column, hlit, -⟩ | ⟨hflag, -⟩
    · rw [hoff] at hlit
      cases hlit
    · exact hflag
  · rw [hdrawn.pc, hregisters]
    rfl

end System

end Chip8
