import Chip8.Proofs.Screen.Drawing

/-!
# Screens of two colours

A pixel is lit when its cell has the foreground colour, and that is a sound way to keep a picture
only as long as every cell has one of the two colours in use.  `Screen.TwoColored` says so, and
every operation on a screen keeps it:

* `twoColored_blank`, `TwoColored.clear` — a screen with every pixel off;
* `Combined.twoColored` — drawing keeps the cells two-coloured, and `Combined.eq_withCells` that it
  keeps both colours in use;
* `TwoColored.setForeground`, `TwoColored.setBackground` — and so does a change of colours, also
  one that makes the two equal.
-/

namespace Chip8

namespace Screen

/-- Every cell has the current foreground or the current background. -/
def TwoColored (s : Screen) : Prop :=
  ∀ c, s.cell c = s.foreground ∨ s.cell c = s.background

theorem cell_blank (foreground background : Color) (c : Fin 2048) :
    (blank foreground background).cell c = background := Vector.getElem_replicate c.isLt

theorem cell_repaint (s : Screen) (old new : Color) (c : Fin 2048) :
    (s.repaint old new).cell c = if s.cell c = old then new else s.cell c :=
  Vector.getElem_map _ c.isLt

theorem twoColored_blank (foreground background : Color) :
    (blank foreground background).TwoColored := fun _ => .inr (cell_blank ..)

theorem TwoColored.clear (s : Screen) : s.clear.TwoColored := twoColored_blank _ _

/-! ## Drawing -/

theorem TwoColored.setLit {s : Screen} (h : s.TwoColored) (c : Fin 2048) (on : Bool) :
    (s.setLit c on).TwoColored := by
  intro d
  rw [cell_setLit]
  split
  · cases on
    · exact .inr rfl
    · exact .inl rfl
  · exact h d

/-- Cells that are combined with bits keep to the two colours. -/
theorem Combined.twoColored {s t : Screen} {bit? : Fin 2048 → Option Bool}
    (h : s.Combined bit? t) (hs : s.TwoColored) : t.TwoColored := by
  intro c
  rw [h.foreground, h.background]
  cases hbit : bit? c with
  | none =>
    rw [h.unmet c hbit]
    exact hs c
  | some bit =>
    rw [h.met c bit hbit]
    split
    · exact .inl rfl
    · exact .inr rfl

/-- Only cells are combined. -/
theorem Combined.eq_withCells {s t : Screen} {bit? : Fin 2048 → Option Bool}
    (h : s.Combined bit? t) : ∃ cells, t = { s with cells := cells } := by
  refine ⟨t.cells, ?_⟩
  rw [← h.foreground, ← h.background]

/-! ## Changes of colours -/

/-- The screen with another colour for its lit cells. -/
def withForeground (s : Screen) (c : Color) : Screen :=
  { s.repaint s.foreground c with foreground := c }

/-- The screen with another colour for its other cells. -/
def withBackground (s : Screen) (c : Color) : Screen :=
  { s.repaint s.background c with background := c }

theorem setForeground_eq (s : Screen) (components : List Int) :
    s.setForeground components = (Color.ofComponents components).map s.withForeground := by
  rw [setForeground]
  cases Color.ofComponents components <;> rfl

theorem setBackground_eq (s : Screen) (components : List Int) :
    s.setBackground components = (Color.ofComponents components).map s.withBackground := by
  rw [setBackground]
  cases Color.ofComponents components <;> rfl

theorem TwoColored.withForeground {s : Screen} (h : s.TwoColored) (new : Color) :
    (s.withForeground new).TwoColored := by
  intro c
  show (s.repaint s.foreground new).cell c = new ∨
    (s.repaint s.foreground new).cell c = s.background
  rw [cell_repaint]
  split
  · exact .inl rfl
  · rename_i hne
    exact .inr ((h c).resolve_left hne)

theorem TwoColored.withBackground {s : Screen} (h : s.TwoColored) (new : Color) :
    (s.withBackground new).TwoColored := by
  intro c
  show (s.repaint s.background new).cell c = s.foreground ∨
    (s.repaint s.background new).cell c = new
  rw [cell_repaint]
  split
  · exact .inr rfl
  · rename_i hne
    exact .inl ((h c).resolve_right hne)

theorem TwoColored.setForeground {s t : Screen} (h : s.TwoColored) {components : List Int}
    (hs : s.setForeground components = .ok t) : t.TwoColored := by
  rw [setForeground_eq] at hs
  cases hc : Color.ofComponents components with
  | error f => rw [hc] at hs; cases hs
  | ok new =>
    rw [hc] at hs
    cases hs
    exact h.withForeground new

theorem TwoColored.setBackground {s t : Screen} (h : s.TwoColored) {components : List Int}
    (hs : s.setBackground components = .ok t) : t.TwoColored := by
  rw [setBackground_eq] at hs
  cases hc : Color.ofComponents components with
  | error f => rw [hc] at hs; cases hs
  | ok new =>
    rw [hc] at hs
    cases hs
    exact h.withBackground new

end Screen

end Chip8
