import Chip8.Proofs.Screen.TwoColored

/-!
# Changing both colours

A new foreground is painted over the old one, and then a new background over the old one, each by
the colours that the cells have by then.  So the two changes can get into each other's way: a new
foreground that is the old background turns every cell into one colour, and the second change
paints over all of them.

* `isLit_recolored` — what the picture is after both changes;
* `isLit_recolored_iff` — **the picture is kept unless the new foreground is the old background**
  and a pixel is lit;
* `shown_rgb` — the three bytes that the host is shown for a cell.
-/

namespace Chip8

namespace Screen

/-! ## The bytes of a picture -/

/-- The three bytes of a cell in a picture. -/
def shown (picture : Bytes) (c : Fin 2048) : List UInt8 :=
  (picture.extract (3 * c.val) (3 * c.val + 3)).toList

/-- Parts of three members each are found at multiples of three. -/
theorem drop_flatMap {α β : Type} {f : α → List β} (hf : ∀ a, (f a).length = 3) :
    ∀ (n : Nat) (as : List α), (as.flatMap f).drop (3 * n) = (as.drop n).flatMap f
  | 0, as => rfl
  | n + 1, [] => by simp
  | n + 1, a :: as => by
    have hlength : 3 * (n + 1) = (f a).length + 3 * n := by rw [hf]; omega
    rw [List.flatMap_cons, hlength, List.drop_length_add_append, drop_flatMap hf n as,
      List.drop_succ_cons]

theorem toList_rgb (s : Screen) : s.rgb.toList = s.cells.toList.flatMap Color.bytes := by
  rw [rgb, Array.toList_flatMap]
  rfl

/-- **The host is shown the colour of every cell.** -/
theorem shown_rgb (s : Screen) (c : Fin 2048) : shown s.rgb c = (s.cell c).bytes := by
  have hbytes : ∀ color : Color, color.bytes.length = 3 := fun _ => rfl
  have hc : c.val < s.cells.toList.length := by
    rw [Vector.length_toList]
    exact c.isLt
  rw [shown, Array.toList_extract, toList_rgb, List.extract, drop_flatMap hbytes,
    List.drop_eq_getElem_cons hc, List.flatMap_cons, Nat.add_sub_cancel_left]
  exact List.take_left' (hbytes _)

/-! ## Lit cells -/

theorem isLit_iff {s : Screen} {c : Fin 2048} : s.isLit c = true ↔ s.cell c = s.foreground :=
  beq_iff_eq

theorem TwoColored.cell_eq {s : Screen} (h : s.TwoColored) (c : Fin 2048) :
    s.cell c = if s.isLit c then s.foreground else s.background := by
  split
  · rename_i hlit
    exact isLit_iff.1 hlit
  · rename_i hdark
    exact (h c).resolve_left (mt isLit_iff.2 hdark)

/-- Every cell is at some point. -/
theorem exists_pointCell (c : Fin 2048) : ∃ x y, pointCell x y = .ok c := by
  refine ⟨c.val % 64, c.val / 64, ?_⟩
  rw [pointCell, dif_pos (by omega)]
  refine congrArg Except.ok (Fin.ext ?_)
  simp only
  omega

/-- The pixels of two screens agree if their cells do. -/
theorem isPixelOn_congr_iff {s t : Screen} :
    (∀ x y, t.isPixelOn x y = s.isPixelOn x y) ↔ ∀ c, t.isLit c = s.isLit c := by
  constructor
  · intro h c
    obtain ⟨x, y, hc⟩ := exists_pointCell c
    have hpoint := h x y
    rw [isPixelOn, isPixelOn, hc] at hpoint
    exact Except.ok.inj hpoint
  · intro h x y
    rw [isPixelOn, isPixelOn, funext h]

/-! ## Both colours -/

/-- The screen with another foreground, and then another background. -/
def recolored (s : Screen) (foreground background : Color) : Screen :=
  (s.withForeground foreground).withBackground background

section Recolored

variable {s : Screen} (foreground background : Color)

theorem TwoColored.recolored (h : s.TwoColored) :
    (s.recolored foreground background).TwoColored :=
  (h.withForeground foreground).withBackground background

/-- A lit cell becomes unlit if its new colour is painted over as the old background. -/
theorem cell_recolored (h : s.TwoColored) (hold : s.foreground ≠ s.background) (c : Fin 2048) :
    (s.recolored foreground background).cell c =
      if s.isLit c ∧ foreground ≠ s.background then foreground else background := by
  have hpaint : (s.recolored foreground background).cell c =
      if (s.withForeground foreground).cell c = s.background then background
      else (s.withForeground foreground).cell c :=
    cell_repaint (s.withForeground foreground) s.background background c
  have hlit : (s.withForeground foreground).cell c =
      if s.cell c = s.foreground then foreground else s.cell c :=
    cell_repaint s s.foreground foreground c
  rw [hpaint, hlit]
  cases hc : s.isLit c with
  | true => simp [isLit_iff.1 hc]
  | false =>
    have hdark : s.cell c = s.background := by rw [h.cell_eq, hc]; rfl
    simp [hdark, hold.symm]

theorem isLit_recolored (h : s.TwoColored) (hold : s.foreground ≠ s.background)
    (hnew : foreground ≠ background) (c : Fin 2048) :
    (s.recolored foreground background).isLit c = true ↔
      s.isLit c = true ∧ foreground ≠ s.background := by
  rw [isLit_iff, cell_recolored foreground background h hold]
  show (if _ then _ else _) = foreground ↔ _
  split
  · rename_i hlit
    exact ⟨fun _ => hlit, fun _ => rfl⟩
  · rename_i hdark
    exact ⟨fun hc => absurd hc hnew.symm, fun hlit => absurd hlit hdark⟩

/-- **The picture is kept** unless the new foreground is the old background and a pixel is lit. -/
theorem isLit_recolored_iff (h : s.TwoColored) (hold : s.foreground ≠ s.background)
    (hnew : foreground ≠ background) :
    (∀ c, (s.recolored foreground background).isLit c = s.isLit c) ↔
      (foreground ≠ s.background ∨ ∀ c, s.isLit c = false) := by
  have hpaint := isLit_recolored foreground background h hold hnew
  constructor
  · intro hkept
    by_cases hclash : foreground = s.background
    · refine .inr fun c => Bool.eq_false_iff.2 fun hlit => ?_
      rw [← hkept c, hpaint c] at hlit
      exact hlit.2 hclash
    · exact .inl hclash
  · rintro (hclear | hdark) c
    · exact Bool.eq_iff_iff.2 ((hpaint c).trans (and_iff_left hclear))
    · rw [Bool.eq_iff_iff, hpaint c, hdark c]
      simp

end Recolored

end Screen

end Chip8
