import Mathlib.Data.List.FinRange
import Mathlib.Data.List.OfFn
import Chip8.Proofs.Config.Rgb
import Chip8.Proofs.Machine.History
import Chip8.Proofs.Screen.Palette

/-!
# The screen as a bitmap with a palette

A screen keeps a colour for each cell and nothing else, and still it stands for a bitmap and two
colours, a `Picture`, as long as the two colours differ.  Pictures know nothing of cells: they are
drawn on, cleared and recoloured by the definitions in this module alone.

* `Picture.after`, `Picture.answer` — what an `Edit` does to a picture, and what it answers;
* `Screen.Depicts` — a screen shows a picture, and `depicts_edit` says that an edit does to the one
  what it does to the other;
* `depicts_edits` — **so does every sequence of edits**, from a new screen on;
* `Depicts.toList_rgb` — the bytes of a screen are those of its picture, row by row;
* `Action.changeScreen_eq` — the machine changes the colours of its screen by the same edits.
-/

namespace Chip8

/-- The pixels of thirty-two rows and sixty-four columns that are on. -/
abbrev Bitmap := Fin 32 → Fin 64 → Bool

namespace Bitmap

/-- Every pixel is off. -/
def blank : Bitmap := fun _ _ => false

/-- Whether the row of a sprite has a pixel on at a point.  It covers eight columns of row `y`, the
first of them `x`, with the low eight bits of a number, the most significant one first. -/
def covers (x y : Nat) (data : Int) (row : Fin 32) (column : Fin 64) : Bool :=
  row.val = y && x ≤ column.val && column.val < x + 8 &&
    data / 2 ^ (7 - (column.val - x)) % 2 = 1

/-- The bitmap with the row of a sprite combined with it. -/
def draw (b : Bitmap) (x y : Nat) (data : Int) : Bitmap := fun row column =>
  b row column ^^ covers x y data row column

/-- Whether the row of a sprite turns a pixel off. -/
def hits (b : Bitmap) (x y : Nat) (data : Int) : Bool :=
  decide (∃ row column, b row column = true ∧ covers x y data row column = true)

end Bitmap

/-- What can be done with a screen. -/
inductive Edit where
  /-- Draw a row of a sprite. -/
  | draw (x y : Nat) (data : Int)
  /-- Turn every pixel off. -/
  | clear
  /-- Change the colour of lit pixels. -/
  | foreground (color : Rgb)
  /-- Change the colour of unlit pixels. -/
  | background (color : Rgb)
  deriving DecidableEq, Repr

namespace Edit

/-- Nothing speaks against an edit but a colour that the screen cannot show. -/
def Accepted : Edit → Prop
  | draw .. | clear => True
  | foreground color | background color => color.IsBytes

/-- Change the colours of a screen, or refuse to. -/
def recolor (paint : Screen → Except Fault Screen) : EStateM Fault Screen (Option Bool) := fun s =>
  match paint s with
  | .ok t => .ok none t
  | .error f => .error f s

/-- A colour is taken if its components are bytes, and else it is refused for one that is not. -/
theorem recolor_eq (paint : Screen → Except Fault Screen) {s : Screen} {color : Rgb}
    {change : Color → Screen}
    (hpaint : paint s = (Color.ofComponents color.components).map change) :
    (color.IsBytes → recolor paint s = .ok none (change color.color)) ∧
      (¬ color.IsBytes → ∃ n : Int, ¬ (0 ≤ n ∧ n ≤ 255) ∧
        recolor paint s = .error (.componentNotByte n) s) := by
  rw [recolor, hpaint]
  refine ⟨fun hbytes => ?_, fun hother => ?_⟩
  · rw [Rgb.ofComponents_of_isBytes hbytes]
    rfl
  · obtain ⟨n, -, hn, hcomponents⟩ := Rgb.ofComponents_of_not_isBytes hother
    rw [hcomponents]
    exact ⟨n, hn, rfl⟩

/-- An edit of a screen.  A refused edit leaves the screen as it was. -/
def run : Edit → EStateM Fault Screen (Option Bool)
  | draw x y data => some <$> Screen.drawByte x y data
  | clear => do
    modify Screen.clear
    return none
  | foreground color => recolor fun s => s.setForeground color.components
  | background color => recolor fun s => s.setBackground color.components

end Edit

/-- A bitmap and the colours in which it is shown. -/
structure Picture where
  bitmap : Bitmap
  foreground : Rgb
  background : Rgb

namespace Picture

/-- A picture with every pixel off. -/
def blank (foreground background : Rgb) : Picture := ⟨.blank, foreground, background⟩

/-- The picture after an edit. -/
def after (p : Picture) : Edit → Picture
  | .draw x y data => { p with bitmap := p.bitmap.draw x y data }
  | .clear => { p with bitmap := .blank }
  | .foreground color => if color.IsBytes then { p with foreground := color } else p
  | .background color => if color.IsBytes then { p with background := color } else p

/-- The picture after edits, one after the other. -/
def afterAll (p : Picture) (edits : List Edit) : Picture := edits.foldl after p

/-- What an edit answers: whether a drawing turned a pixel off. -/
def answer (p : Picture) : Edit → Option Bool
  | .draw x y data => some (p.bitmap.hits x y data)
  | _ => none

/-- The colour of a point. -/
def colorAt (p : Picture) (row : Fin 32) (column : Fin 64) : Rgb :=
  if p.bitmap row column then p.foreground else p.background

/-- The bytes in which a picture is shown, row by row. -/
def rgb (p : Picture) : List UInt8 :=
  (List.finRange 32).flatMap fun row =>
    (List.finRange 64).flatMap fun column => (p.colorAt row column).color.bytes

/-- The two colours can be shown, and told apart. -/
structure Legible (p : Picture) : Prop where
  foreground : p.foreground.IsBytes
  background : p.background.IsBytes
  differ : p.foreground ≠ p.background

/-- Edits of which none makes the two colours equal. -/
def Contrasting (p : Picture) : List Edit → Prop
  | [] => True
  | e :: edits => (p.after e).foreground ≠ (p.after e).background ∧ (p.after e).Contrasting edits

end Picture

namespace Screen

/-- The cell of a point. -/
def place (row : Fin 32) (column : Fin 64) : Fin 2048 := ⟨64 * row.val + column.val, by omega⟩

/-- A screen shows a picture. -/
structure Depicts (s : Screen) (p : Picture) : Prop where
  foreground : s.foreground = p.foreground.color
  background : s.background = p.background.color
  cell : ∀ row column, s.cell (place row column) = (p.colorAt row column).color

theorem exists_place (c : Fin 2048) : ∃ row column, c = place row column :=
  ⟨⟨c.val / 64, by omega⟩, ⟨c.val % 64, by omega⟩, Fin.ext (by simp only [place]; omega)⟩

theorem isPixelOn_place (s : Screen) (row : Fin 32) (column : Fin 64) :
    s.isPixelOn column.val row.val = .ok (s.isLit (place row column)) := by
  have hcell : pointCell column.val row.val = .ok (place row column) := by
    rw [pointCell, dif_pos (by omega)]
    exact congrArg Except.ok (Fin.ext (by simp only [place]; omega))
  rw [isPixelOn, hcell]
  rfl

theorem place_val (row : Fin 32) (column : Fin 64) :
    (place row column).val = 64 * row.val + column.val := rfl

/-- The cells of a screen are its points, row by row. -/
theorem toList_cells (s : Screen) : s.cells.toList =
    (List.finRange 32).flatMap fun row => (List.finRange 64).map fun column =>
      s.cell (place row column) := by
  have hcells : s.cells.toList = List.ofFn s.cell := by
    refine List.ext_getElem (by rw [Vector.length_toList, List.length_ofFn]) ?_
    intro k _ _
    rw [Vector.getElem_toList, List.getElem_ofFn]
    rfl
  have hrows : List.ofFn s.cell =
      (List.ofFn fun row : Fin 32 => List.ofFn fun column : Fin 64 =>
        s.cell ⟨row.val * 64 + column.val, by omega⟩).flatten :=
    List.ofFn_mul (m := 32) (n := 64) s.cell
  rw [hcells, hrows, List.ofFn_eq_map, List.flatMap_def]
  refine congrArg List.flatten (List.map_congr_left fun row _ => ?_)
  rw [List.ofFn_eq_map]
  refine List.map_congr_left fun column _ => congrArg s.cell (Fin.ext ?_)
  exact congrArg (· + column.val) (Nat.mul_comm row.val 64)

theorem size_rgb (s : Screen) : s.rgb.size = 6144 := by
  have hbytes : ∀ color ∈ s.cells.toList, color.bytes.length = 3 := fun _ _ => rfl
  rw [← Array.length_toList, toList_rgb, List.length_flatMap, List.map_congr_left hbytes,
    List.map_const', List.sum_replicate_nat, Vector.length_toList]

/-- The bit of a row of a sprite that meets the cell of a point. -/
theorem strikes_place (x y : Nat) (data : Int) (row : Fin 32) (column : Fin 64) :
    strikes x y data (place row column) =
      if row.val = y ∧ x ≤ column.val ∧ column.val < x + 8 then
        some (Bitmap.covers x y data row column) else none := by
  rw [strikes, meets, place_val, List.getElem?_take, getElem?_rowBits]
  by_cases hmet : row.val = y ∧ x ≤ column.val ∧ column.val < x + 8
  · have hplace : 64 * row.val + column.val - (64 * y + x) = column.val - x := by omega
    rw [if_pos hmet, if_neg (by omega), if_pos (by omega), hplace, if_pos (by omega),
      if_pos (by omega), Bitmap.covers, decide_eq_true hmet.1, decide_eq_true hmet.2.1,
      decide_eq_true hmet.2.2]
    rfl
  · rw [if_neg hmet]
    repeat' split
    all_goals first | rfl | omega

theorem covers_of_unmet {x y : Nat} {data : Int} {row : Fin 32} {column : Fin 64}
    (h : strikes x y data (place row column) = none) :
    Bitmap.covers x y data row column = false := by
  rw [strikes_place] at h
  have hunmet : ¬ (row.val = y ∧ x ≤ column.val ∧ column.val < x + 8) := by
    intro hmet
    rw [if_pos hmet] at h
    cases h
  rw [Bitmap.covers, Bool.and_eq_false_iff, ← Bool.not_eq_true, ← Bool.not_eq_true]
  refine .inl fun hmet => hunmet ?_
  simpa [and_assoc] using hmet

theorem covers_of_met {x y : Nat} {data : Int} {row : Fin 32} {column : Fin 64} {bit : Bool}
    (h : strikes x y data (place row column) = some bit) :
    Bitmap.covers x y data row column = bit := by
  rw [strikes_place] at h
  split at h
  · exact Option.some.inj h
  · cases h

/-! ## Screens and their pictures -/

section Depicts

variable {s : Screen} {p : Picture}

theorem Depicts.isLit (h : s.Depicts p) (hp : p.Legible) (row : Fin 32) (column : Fin 64) :
    s.isLit (place row column) = p.bitmap row column := by
  rw [Screen.isLit, h.cell, h.foreground, Picture.colorAt]
  cases p.bitmap row column with
  | true => exact beq_self_eq_true _
  | false =>
    refine beq_eq_false_iff_ne.2 fun hsame => hp.differ ?_
    exact ((Rgb.color_inj hp.background hp.foreground).1 hsame).symm

theorem depicts_blank (foreground background : Rgb) :
    (blank foreground.color background.color).Depicts (.blank foreground background) :=
  ⟨rfl, rfl, fun _ _ => cell_blank _ _ _⟩

/-- Some cell is lit and meets a set bit exactly if some pixel is turned off. -/
theorem Depicts.clash_iff (h : s.Depicts p) (hp : p.Legible) (x y : Nat) (data : Int) :
    s.Clash (strikes x y data) ↔ p.bitmap.hits x y data = true := by
  rw [Bitmap.hits, decide_eq_true_iff]
  constructor
  · rintro ⟨c, hc, hlit⟩
    obtain ⟨row, column, rfl⟩ := exists_place c
    exact ⟨row, column, (h.isLit hp row column).symm.trans hlit, covers_of_met hc⟩
  · rintro ⟨row, column, hon, hcovers⟩
    refine ⟨place row column, ?_, (h.isLit hp row column).trans hon⟩
    cases hbit : strikes x y data (place row column) with
    | none => rw [covers_of_unmet hbit] at hcovers; cases hcovers
    | some bit => rw [← covers_of_met hbit, hcovers]

/-- Drawing on a screen draws on its picture. -/
theorem Depicts.draw (h : s.Depicts p) (hp : p.Legible) (x y : Nat) (data : Int) :
    ∃ t, drawByte x y data s = .ok (p.bitmap.hits x y data) t ∧
      t.Depicts { p with bitmap := p.bitmap.draw x y data } := by
  obtain ⟨b, t, hrun, ht, hb⟩ := drawByte_combined s x y data
  have hhits : b = p.bitmap.hits x y data := Bool.eq_iff_iff.2 (hb.trans (h.clash_iff hp x y data))
  refine ⟨t, by rw [hrun, hhits], ht.foreground.trans h.foreground,
    ht.background.trans h.background, fun row column => ?_⟩
  show _ = (if (p.bitmap row column ^^ Bitmap.covers x y data row column) then p.foreground
    else p.background : Rgb).color
  cases hbit : strikes x y data (place row column) with
  | none =>
    rw [ht.unmet _ hbit, covers_of_unmet hbit, Bool.xor_false, h.cell]
    rfl
  | some bit =>
    rw [ht.met _ _ hbit, covers_of_met hbit, h.isLit hp, h.foreground, h.background]
    cases bit <;> cases p.bitmap row column <;> rfl

/-- Clearing a screen clears its picture. -/
theorem Depicts.clear (h : s.Depicts p) : s.clear.Depicts { p with bitmap := .blank } := by
  refine ⟨h.foreground, h.background, fun row column => ?_⟩
  rw [Screen.clear, cell_blank, h.background]
  rfl

/-- Another foreground repaints the lit cells, which are the pixels that are on. -/
theorem Depicts.withForeground (h : s.Depicts p) (hp : p.Legible) (color : Rgb) :
    (s.withForeground color.color).Depicts { p with foreground := color } := by
  refine ⟨rfl, h.background, fun row column => ?_⟩
  show (s.repaint s.foreground color.color).cell (place row column) =
    (if p.bitmap row column then color else p.background : Rgb).color
  have hlit := h.isLit hp row column
  rw [cell_repaint]
  cases hbit : p.bitmap row column with
  | true =>
    rw [hbit, isLit_iff] at hlit
    exact if_pos hlit
  | false =>
    have hdark : s.cell (place row column) ≠ s.foreground := by
      rw [Ne, ← isLit_iff, hlit, hbit]
      exact Bool.false_ne_true
    rw [if_neg hdark, h.cell, Picture.colorAt, hbit]
    rfl

/-- Another background repaints the other cells. -/
theorem Depicts.withBackground (h : s.Depicts p) (hp : p.Legible) (color : Rgb) :
    (s.withBackground color.color).Depicts { p with background := color } := by
  refine ⟨h.foreground, rfl, fun row column => ?_⟩
  show (s.repaint s.background color.color).cell (place row column) =
    (if p.bitmap row column then p.foreground else color : Rgb).color
  rw [cell_repaint, h.cell, h.background, Picture.colorAt]
  cases p.bitmap row column with
  | true => exact if_neg fun hsame => hp.differ ((Rgb.color_inj hp.foreground hp.background).1 hsame)
  | false => exact if_pos rfl

/-- **What an edit does to a screen, it does to its picture**: an accepted edit succeeds, answers
what it answers of the picture, and leaves a screen that shows the picture after it; a refused edit
leaves the screen exactly as it was. -/
theorem depicts_edit (h : s.Depicts p) (hp : p.Legible) (e : Edit) :
    (e.Accepted → ∃ t, e.run s = .ok (p.answer e) t ∧ t.Depicts (p.after e)) ∧
      (¬ e.Accepted → p.after e = p ∧
        ∃ n : Int, ¬ (0 ≤ n ∧ n ≤ 255) ∧ e.run s = .error (.componentNotByte n) s) := by
  cases e with
  | draw x y data =>
    refine ⟨fun _ => ?_, fun hrefused => absurd trivial hrefused⟩
    obtain ⟨t, hrun, ht⟩ := h.draw hp x y data
    refine ⟨t, ?_, ht⟩
    show EStateM.map some (drawByte x y data) s = _
    rw [EStateM.map, hrun]
    rfl
  | clear => exact ⟨fun _ => ⟨s.clear, rfl, h.clear⟩, fun hrefused => absurd trivial hrefused⟩
  | foreground color =>
    have hrecolor := Edit.recolor_eq (fun s => s.setForeground color.components)
      (setForeground_eq s color.components)
    refine ⟨fun haccepted => ?_, fun hrefused => ⟨if_neg hrefused, hrecolor.2 hrefused⟩⟩
    have hpicture : p.after (.foreground color) = { p with foreground := color } :=
      if_pos haccepted
    rw [hpicture]
    exact ⟨_, hrecolor.1 haccepted, h.withForeground hp color⟩
  | background color =>
    have hrecolor := Edit.recolor_eq (fun s => s.setBackground color.components)
      (setBackground_eq s color.components)
    refine ⟨fun haccepted => ?_, fun hrefused => ⟨if_neg hrefused, hrecolor.2 hrefused⟩⟩
    have hpicture : p.after (.background color) = { p with background := color } :=
      if_pos haccepted
    rw [hpicture]
    exact ⟨_, hrecolor.1 haccepted, h.withBackground hp color⟩

/-- **The bytes of a screen are those of its picture**, row by row. -/
theorem Depicts.toList_rgb (h : s.Depicts p) : s.rgb.toList = p.rgb := by
  rw [Screen.toList_rgb, toList_cells, List.flatMap_assoc, Picture.rgb]
  refine List.flatMap_congr fun row _ => ?_
  rw [List.flatMap_map]
  refine List.flatMap_congr fun column _ => ?_
  rw [h.cell]

end Depicts

/-! ## Sequences of edits -/

/-- The screen after an edit, whether it was accepted or refused. -/
def afterEdit (s : Screen) (e : Edit) : Screen :=
  match e.run s with
  | .ok _ t => t
  | .error _ t => t

/-- The screen after edits, one after the other. -/
def afterEdits (s : Screen) (edits : List Edit) : Screen := edits.foldl afterEdit s

theorem Depicts.afterEdit {s : Screen} {p : Picture} (h : s.Depicts p) (hp : p.Legible)
    (e : Edit) : (s.afterEdit e).Depicts (p.after e) := by
  obtain ⟨haccepted, hrefused⟩ := depicts_edit h hp e
  rw [Screen.afterEdit]
  by_cases he : e.Accepted
  · obtain ⟨t, hrun, ht⟩ := haccepted he
    rw [hrun]
    exact ht
  · obtain ⟨hsame, n, -, hrun⟩ := hrefused he
    rw [hrun, hsame]
    exact h

end Screen

/-- An edit leaves colours that can be shown. -/
theorem Picture.Legible.after {p : Picture} (hp : p.Legible) (e : Edit)
    (hdiffer : (p.after e).foreground ≠ (p.after e).background) : (p.after e).Legible := by
  cases e with
  | draw | clear => exact { hp with }
  | foreground color =>
    by_cases hcolor : color.IsBytes
    · refine ⟨?_, ?_, hdiffer⟩ <;> rw [Picture.after, if_pos hcolor]
      · exact hcolor
      · exact hp.background
    · rw [Picture.after, if_neg hcolor]
      exact hp
  | background color =>
    by_cases hcolor : color.IsBytes
    · refine ⟨?_, ?_, hdiffer⟩ <;> rw [Picture.after, if_pos hcolor]
      · exact hp.foreground
      · exact hcolor
    · rw [Picture.after, if_neg hcolor]
      exact hp

namespace Screen

/-- A sequence of edits does to a screen what it does to its picture. -/
theorem Depicts.afterEdits (edits : List Edit) : ∀ {s : Screen} {p : Picture}, s.Depicts p →
    p.Legible → p.Contrasting edits →
    (s.afterEdits edits).Depicts (p.afterAll edits) ∧ (p.afterAll edits).Legible := by
  induction edits with
  | nil => exact fun h hp _ => ⟨h, hp⟩
  | cons e edits ih =>
    intro s p h hp hcontrast
    exact ih (h.afterEdit hp e) (hp.after e hcontrast.1) hcontrast.2

/-- **The screen is a bitmap with a palette.**  A new screen takes any two different colours whose
components are bytes, and after any edits that never make the colours equal it shows the picture that
the same edits make of a blank one.

Its pixels are those of the bitmap, and its bytes are the colours of the points row by row.  The next
edit is answered as it is of the picture, and then the screen shows the picture after it; a refused
one leaves the screen exactly as it was. -/
theorem depicts_edits {foreground background : Rgb} (hforeground : foreground.IsBytes)
    (hbackground : background.IsBytes) (hdiffer : foreground ≠ background) (edits : List Edit)
    (hcontrast : (Picture.blank foreground background).Contrasting edits) :
    ∃ s, ofComponents foreground.components background.components = .ok s ∧
      let t := s.afterEdits edits
      let p := (Picture.blank foreground background).afterAll edits
      (∀ row column, t.isPixelOn column.val row.val = .ok (p.bitmap row column)) ∧
      t.rgb.size = 6144 ∧ t.rgb.toList = p.rgb ∧
      ∀ e : Edit,
        (e.Accepted → ∃ u, e.run t = .ok (p.answer e) u ∧ u.Depicts (p.after e)) ∧
        (¬ e.Accepted → p.after e = p ∧
          ∃ n : Int, ¬ (0 ≤ n ∧ n ≤ 255) ∧ e.run t = .error (.componentNotByte n) t) := by
  refine ⟨blank foreground.color background.color, ?_, ?_⟩
  · rw [ofComponents, Rgb.ofComponents_of_isBytes hforeground,
      Rgb.ofComponents_of_isBytes hbackground]
    rfl
  · intro t p
    obtain ⟨ht, hp⟩ := (depicts_blank foreground background).afterEdits edits
      ⟨hforeground, hbackground, hdiffer⟩ hcontrast
    refine ⟨?_, size_rgb t, ht.toList_rgb, depicts_edit ht hp⟩
    intro row column
    rw [isPixelOn_place, ht.isLit hp]

/-- Two rows drawn over each other in the last corner, with changes of colours in between. -/
def cornerEdits : List Edit :=
  [.draw 60 31 0x1FF, .foreground ⟨1, 2, 3⟩, .background ⟨-1, 0, 0⟩, .draw 60 31 0x80]

/-- The first pixel is turned off again, the second one is not. -/
theorem depicts_edits_corner :
    ∃ s, ofComponents [255, 255, 255] [0, 0, 0] = .ok s ∧
      (s.afterEdits cornerEdits).isPixelOn 60 31 = .ok false ∧
      (s.afterEdits cornerEdits).isPixelOn 61 31 = .ok true := by
  have hcontrast :
      (Picture.blank ⟨255, 255, 255⟩ ⟨0, 0, 0⟩).Contrasting cornerEdits :=
    ⟨by decide, by decide, by decide, by decide, trivial⟩
  obtain ⟨s, hs, hpixels, -⟩ := depicts_edits (by decide) (by decide) (by decide) cornerEdits
    hcontrast
  refine ⟨s, hs, (hpixels 31 60).trans ?_, (hpixels 31 61).trans ?_⟩
  · exact congrArg Except.ok (by decide)
  · exact congrArg Except.ok (by decide)

end Screen

/-- The machine changes the colours of its screen as an edit does, and answers nothing. -/
theorem Action.changeScreen_eq {τ : Type} (paint : Screen → Except Fault Screen) :
    (changeScreen paint : Action τ Unit) = discard (onScreen (Edit.recolor paint)) := by
  funext s
  show _ = EStateM.map (Function.const _ ()) (onScreen (Edit.recolor paint)) s
  rw [EStateM.map, onScreen, Edit.recolor]
  cases hpaint : paint s.machine.screen with
  | ok screen => exact changeScreen_of_ok hpaint
  | error f => exact changeScreen_of_error hpaint

end Chip8
