import Chip8.Proofs.Machine.Cells
import Chip8.Proofs.Screen.TwoColored

/-!
# Sprites

A sprite is drawn row by row, and its rows are bytes that follow each other in memory.  No two of
them meet in a cell, so the whole sprite is combined with the screen as a single row is.

* `Combined.or`, `Combined.clash_or` — two drawings that meet in no cell are one drawing;
* `sprite` — the bit of a sprite which meets a cell; a row that memory does not have meets none;
* `sprite_succ` — a sprite is its first row and the rest of it.
-/

namespace Chip8

namespace Screen

/-! ## Drawings -/

/-- A drawing that meets no cell changes nothing. -/
theorem combined_unmet (s : Screen) {bit? : Fin 2048 → Option Bool} (h : ∀ c, bit? c = none) :
    s.Combined bit? s ∧ ¬ s.Clash bit? := by
  refine ⟨⟨rfl, rfl, fun _ _ => rfl, fun c bit hbit => ?_⟩, ?_⟩
  · rw [h] at hbit
    cases hbit
  · rintro ⟨c, hc, -⟩
    rw [h] at hc
    cases hc

/-- A cell that no bit meets is lit if it was. -/
theorem Combined.isLit {s t : Screen} {bit? : Fin 2048 → Option Bool} (h : s.Combined bit? t)
    {c : Fin 2048} (hc : bit? c = none) : t.isLit c = s.isLit c := by
  rw [Screen.isLit, h.unmet c hc, h.foreground]
  rfl

section Or

variable {s t u : Screen} {first rest : Fin 2048 → Option Bool} (hst : s.Combined first t)
  (hapart : ∀ c, first c = none ∨ rest c = none)

include hst hapart

/-- Two drawings that meet in no cell are one drawing. -/
theorem Combined.or (htu : t.Combined rest u) :
    s.Combined (fun c => (first c).or (rest c)) u := by
  refine ⟨htu.foreground.trans hst.foreground, htu.background.trans hst.background, ?_, ?_⟩
  · intro c hc
    obtain ⟨hfirst, hrest⟩ := Option.or_eq_none_iff.1 hc
    rw [htu.unmet c hrest, hst.unmet c hfirst]
  · intro c bit hc
    cases hfirst : first c with
    | none =>
      rw [hfirst, Option.none_or] at hc
      rw [htu.met c bit hc, hst.isLit hfirst, hst.foreground, hst.background]
    | some b =>
      have hrest : rest c = none := (hapart c).resolve_left (by simp [hfirst])
      rw [hfirst, Option.some_or] at hc
      rw [htu.unmet c hrest, hst.met c bit (hfirst.trans hc)]

/-- And what they hit, it hits. -/
theorem Combined.clash_or : (s.Clash fun c => (first c).or (rest c)) ↔
    s.Clash first ∨ t.Clash rest := by
  constructor
  · rintro ⟨c, hc, hlit⟩
    cases hfirst : first c with
    | none => exact .inr ⟨c, by simpa [hfirst] using hc, (hst.isLit hfirst).trans hlit⟩
    | some bit => exact .inl ⟨c, by simpa [hfirst] using hc, hlit⟩
  · rintro (⟨c, hc, hlit⟩ | ⟨c, hc, hlit⟩)
    · exact ⟨c, by simp [hc], hlit⟩
    · have hfirst : first c = none := (hapart c).resolve_right (by simp [hc])
      exact ⟨c, by simp [hfirst, hc], (hst.isLit hfirst).symm.trans hlit⟩

end Or

/-! ## Rows below each other -/

/-- A row of a sprite stays in its row of the screen. -/
theorem strikes_elsewhere {x y : Nat} (data : Int) {c : Fin 2048} (h : c.val / 64 ≠ y) :
    strikes x y data c = none := by
  rw [strikes, meets]
  split
  · rfl
  · split
    · refine List.getElem?_eq_none ?_
      rw [List.length_take]
      omega
    · rfl

/-- The bit of a sprite which meets a cell. -/
def sprite (m : Memory) (x y : Nat) (address : Int) (rows : Nat) (c : Fin 2048) : Option Bool :=
  if y ≤ c.val / 64 ∧ c.val / 64 < y + rows then
    (m.at? (address + (c.val / 64 - y : Nat))).bind fun b => strikes x (c.val / 64) b.toNat c
  else none

@[simp] theorem sprite_zero (m : Memory) (x y : Nat) (address : Int) (c : Fin 2048) :
    sprite m x y address 0 c = none := if_neg (by omega)

/-- A sprite that begins beyond the end of memory meets no cell. -/
theorem sprite_outside (m : Memory) (x y : Nat) {address : Int} (h : 4096 ≤ address) (rows : Nat)
    (c : Fin 2048) : sprite m x y address rows c = none := by
  rw [sprite, m.at?_outside (by omega)]
  exact ite_self _

variable (m : Memory) (x y : Nat) {address : Int} {a : Fin 4096} (ha : address = a.val) (rows : Nat)
  (c : Fin 2048)

/-- The first row and the rows below it meet in no cell. -/
theorem sprite_apart : strikes x y (m.get a).toNat c = none ∨
    sprite m x (y + 1) (address + 1) rows c = none := by
  by_cases h : c.val / 64 = y
  · exact .inr (if_neg (by omega))
  · exact .inl (strikes_elsewhere _ h)

include ha

/-- A sprite is its first row and the rows below it. -/
theorem sprite_succ : sprite m x y address (rows + 1) c =
    (strikes x y (m.get a).toNat c).or (sprite m x (y + 1) (address + 1) rows c) := by
  by_cases h : c.val / 64 = y
  · have hrest : sprite m x (y + 1) (address + 1) rows c = none := if_neg (by omega)
    have hfirst : address + (c.val / 64 - y : Nat) = a.val := by omega
    rw [hrest, Option.or_none, sprite, if_pos (by omega), m.at?_cell hfirst, h]
    rfl
  · rw [strikes_elsewhere _ h, Option.none_or, sprite, sprite]
    by_cases hin : y + 1 ≤ c.val / 64 ∧ c.val / 64 < y + 1 + rows
    · have hcell : address + (c.val / 64 - y : Nat) = address + 1 + (c.val / 64 - (y + 1) : Nat) := by
        omega
      rw [if_pos (by omega), if_pos hin, hcell]
    · rw [if_neg (by omega), if_neg hin]

end Screen

end Chip8
