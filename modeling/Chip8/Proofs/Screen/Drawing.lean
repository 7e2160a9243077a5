import Mathlib.Algebra.Group.Int.Defs
import Chip8.Screen

/-!
# What a drawing does to every cell

A row of a sprite is drawn bit by bit, each at the next position.  Seen from a cell, at most one of
the bits meets it, and `Screen.Combined` tells what the cell then holds.

* `drawBits_combined` — every cell is combined with the bit that meets it, and a hit is a cell which
  was lit and met a set bit;
* `getElem?_rowBits` — the bits of a row, from the most significant one of the low eight on;
* `drawByte_combined` — both for a row of a sprite anywhere to the right of the left edge and below
  the top.
-/

namespace Chip8

namespace Screen

/-! ## One cell -/

theorem cell_setLit (s : Screen) (c d : Fin 2048) (on : Bool) :
    (s.setLit c on).cell d =
      if c = d then (if on then s.foreground else s.background) else s.cell d := get_setEntry ..

theorem isLit_setLit {s : Screen} {c d : Fin 2048} (on : Bool) (h : c ≠ d) :
    (s.setLit c on).isLit d = s.isLit d := by
  rw [isLit, cell_setLit, if_neg h]
  rfl

theorem cell?_coe (c : Fin 2048) : cell? c.val = some c := by
  have h : 0 ≤ (c.val : Int) ∧ (c.val : Int) < 2048 := by omega
  rw [cell?, dif_pos h]
  rfl

/-- The bit which meets a cell, if bits are drawn from a position on. -/
def meets (position : Nat) (bits : List Bool) (c : Fin 2048) : Option Bool :=
  if position ≤ c.val then bits[c.val - position]? else none

/-- A later screen, with every cell combined with the bit that meets it. -/
structure Combined (s : Screen) (bit? : Fin 2048 → Option Bool) (t : Screen) : Prop where
  foreground : t.foreground = s.foreground
  background : t.background = s.background
  unmet : ∀ c, bit? c = none → t.cell c = s.cell c
  met : ∀ c bit, bit? c = some bit →
    t.cell c = if bit != s.isLit c then s.foreground else s.background

/-! ## Bits -/

section Meets

variable {position : Nat} {bit : Bool} {bits : List Bool} {c : Fin 2048}

theorem meets_nil : meets position [] c = none := by
  rw [meets, List.getElem?_nil, ite_self]

/-- The first bit meets the first cell. -/
theorem meets_first (h : c.val = position) : meets position (bit :: bits) c = some bit := by
  rw [meets, if_pos (Nat.le_of_eq h.symm), h, Nat.sub_self, List.getElem?_cons_zero]

/-- The others meet the cells behind it. -/
theorem meets_rest (h : c.val ≠ position) :
    meets position (bit :: bits) c = meets (position + 1) bits c := by
  rw [meets, meets]
  by_cases hlt : position + 1 ≤ c.val
  · rw [if_pos hlt, if_pos (by omega),
      show c.val - position = c.val - (position + 1) + 1 by omega, List.getElem?_cons_succ]
  · rw [if_neg hlt, if_neg (by omega)]

/-- No bit comes back to the first cell. -/
theorem meets_behind (h : c.val = position) : meets (position + 1) bits c = none := by
  rw [meets, if_neg (by omega)]

end Meets

/-- The cell of the first bit is done, and then the cells behind it. -/
theorem Combined.cons {s t : Screen} {position : Nat} {bit : Bool} {bits : List Bool}
    {c : Fin 2048} (hc : c.val = position)
    (h : (s.setLit c (bit != s.isLit c)).Combined (meets (position + 1) bits) t) :
    s.Combined (meets position (bit :: bits)) t := by
  refine ⟨h.foreground, h.background, fun d hd => ?_, fun d bit' hd => ?_⟩
  · by_cases heq : c = d
    · rw [meets_first (heq ▸ hc)] at hd
      cases hd
    · rw [meets_rest (fun h => heq (Fin.ext (hc.trans h.symm)))] at hd
      rw [h.unmet d hd, cell_setLit, if_neg heq]
  · by_cases heq : c = d
    · subst heq
      rw [meets_first hc] at hd
      cases hd
      rw [h.unmet c (meets_behind hc), cell_setLit, if_pos rfl]
    · rw [meets_rest (fun h => heq (Fin.ext (hc.trans h.symm)))] at hd
      rw [h.met d bit' hd, isLit_setLit _ heq]
      rfl

/-- Some bit that is set meets a lit cell. -/
def Clash (s : Screen) (bit? : Fin 2048 → Option Bool) : Prop :=
  ∃ c, bit? c = some true ∧ s.isLit c = true

theorem clash_cons {s : Screen} {position : Nat} {bit : Bool} {bits : List Bool}
    {c : Fin 2048} (hc : c.val = position) :
    s.Clash (meets position (bit :: bits)) ↔ (bit = true ∧ s.isLit c = true) ∨
      (s.setLit c (bit != s.isLit c)).Clash (meets (position + 1) bits) := by
  constructor
  · rintro ⟨d, hd, hlit⟩
    by_cases heq : c = d
    · subst heq
      rw [meets_first hc] at hd
      exact .inl ⟨Option.some.inj hd, hlit⟩
    · rw [meets_rest (fun h => heq (Fin.ext (hc.trans h.symm)))] at hd
      exact .inr ⟨d, hd, (isLit_setLit _ heq).trans hlit⟩
  · rintro (⟨hbit, hlit⟩ | ⟨d, hd, hlit⟩)
    · exact ⟨c, (meets_first hc).trans (congrArg some hbit), hlit⟩
    · have heq : c ≠ d := by
        rintro rfl
        rw [meets_behind hc] at hd
        cases hd
      refine ⟨d, ?_, (isLit_setLit _ heq).symm.trans hlit⟩
      rw [meets_rest (fun h => heq (Fin.ext (hc.trans h.symm)))]
      exact hd

/-- **Bits that stay inside the cells are combined with them**, and the answer says whether there was
a hit. -/
theorem drawBits_combined (bits : List Bool) : ∀ (s : Screen) (position : Nat) (hit : Bool),
    (∀ k < bits.length, position + k < 2048) →
    ∃ b t, drawBits position hit bits s = .ok b t ∧ s.Combined (meets position bits) t ∧
      (b = true ↔ hit = true ∨ s.Clash (meets position bits)) := by
  induction bits with
  | nil =>
    intro s position hit _
    refine ⟨hit, s, rfl, ⟨rfl, rfl, fun _ _ => rfl, ?_⟩, ?_⟩
    · intro c bit hbit
      rw [meets_nil] at hbit
      cases hbit
    · refine ⟨.inl, ?_⟩
      rintro (h | ⟨c, hc, -⟩)
      · exact h
      · rw [meets_nil] at hc
        cases hc
  | cons bit bits ih =>
    intro s position hit hinside
    have hfirst : position < 2048 := hinside 0 (Nat.succ_pos _)
    obtain ⟨c, hc⟩ : ∃ c : Fin 2048, c.val = position := ⟨⟨position, hfirst⟩, rfl⟩
    obtain ⟨b, t, hrun, ht, hb⟩ := ih (s.setLit c (bit != s.isLit c)) (position + 1)
      (hit || (bit && s.isLit c)) (fun k hk => by
        have := hinside (k + 1) (Nat.succ_lt_succ hk)
        omega)
    refine ⟨b, t, ?_, ht.cons hc, ?_⟩
    · rw [drawBits, ← hc, cell?_coe, hc]
      exact hrun
    · rw [hb, clash_cons hc, Bool.or_eq_true, Bool.and_eq_true, or_assoc]

/-! ## Rows -/

/-- The bits of a row are the low eight bits of a number, the most significant one first. -/
theorem getElem?_rowBits (data : Int) (k : Nat) :
    (rowBits data)[k]? =
      if k < 8 then some (decide (data / 2 ^ (7 - k) % 2 = 1)) else none := by
  rw [rowBits, List.getElem?_map]
  by_cases hk : k < 8
  · rw [if_pos hk, List.getElem?_range hk, Option.map_some, BitVec.getMsbD_eq_getLsbD,
      ← BitVec.testBit_toNat, BitVec.toNat_ofInt, Nat.testBit_eq_decide_div_mod_eq,
      decide_eq_true hk, Bool.true_and]
    congr 1
    rw [decide_eq_decide]
    have hplace : k = 0 ∨ k = 1 ∨ k = 2 ∨ k = 3 ∨ k = 4 ∨ k = 5 ∨ k = 6 ∨ k = 7 := by omega
    rcases hplace with rfl | rfl | rfl | rfl | rfl | rfl | rfl | rfl <;> simp <;> omega
  · rw [if_neg hk, List.getElem?_eq_none (by rw [List.length_range]; omega)]
    rfl

/-- The bit of a row of a sprite which meets a cell. -/
def strikes (x y : Nat) (data : Int) (c : Fin 2048) : Option Bool :=
  if 32 ≤ y then none else meets (64 * y + x) ((rowBits data).take (64 - x)) c

/-- **A row of a sprite is combined with the cells that it meets**, and the answer says whether there
was a hit. -/
theorem drawByte_combined (s : Screen) (x y : Nat) (data : Int) :
    ∃ b t, drawByte x y data s = .ok b t ∧ s.Combined (strikes x y data) t ∧
      (b = true ↔ s.Clash (strikes x y data)) := by
  by_cases hy : 32 ≤ y
  · have hnone : ∀ c, strikes x y data c = none := fun c => if_pos hy
    have hy' : (32 : Int) ≤ y := by omega
    refine ⟨false, s, ?_, ⟨rfl, rfl, fun _ _ => rfl, ?_⟩, ?_⟩
    · rw [drawByte, if_pos hy']
      rfl
    · intro c bit hbit
      rw [hnone] at hbit
      cases hbit
    · refine iff_of_false Bool.false_ne_true ?_
      rintro ⟨c, hc, -⟩
      rw [hnone] at hc
      cases hc
  · have hstrikes : strikes x y data = meets (64 * y + x) ((rowBits data).take (64 - x)) :=
      funext fun c => if_neg hy
    have hinside : ∀ k < ((rowBits data).take (64 - x)).length, 64 * y + x + k < 2048 := by
      intro k hk
      rw [List.length_take] at hk
      omega
    obtain ⟨b, t, hrun, ht, hb⟩ :=
      drawBits_combined ((rowBits data).take (64 - x)) s (64 * y + x) false hinside
    refine ⟨b, t, ?_, hstrikes ▸ ht, ?_⟩
    · have hwidth : ((64 : Int) - x).toNat = 64 - x := by omega
      rw [drawByte, if_neg (by omega), hwidth, ← hrun]
      rfl
    · rw [hb, hstrikes, or_iff_right Bool.false_ne_true]

end Screen

end Chip8
