import Chip8.Proofs.Clock.Exact
import Chip8.Proofs.Config.Rgb
import Chip8.Proofs.Machine.History
import Chip8.Proofs.Screen.Palette

/-!
# Putting a configuration into effect

`Config.apply` makes its choices one after the other: the two options, the foreground, the
background.  The screen takes a colour only if every component of it is a byte (`Rgb.IsBytes`), so
a configuration with another colour is put into effect up to that colour and no further.

* `apply_of_isBytes`, `apply_foreground_refused` and `apply_background_refused` — what becomes of a
  system, in each of the three cases;
* `apply_palette` — the picture after a change of colours: it is kept unless the new foreground is
  the old background, and then nothing of it is left.
-/

namespace Chip8

section Systems

variable {τ : Type}

/-- The system with the options of a configuration. -/
def System.withOptions (s : System τ) (c : Config) : System τ :=
  { s with
    machine.registers :=
      (s.machine.registers.setShiftSecond c.shiftSecond).setDrawOnBlank c.drawOnBlank }

namespace Config

variable {c : Config}

/-- The choice of two colours. -/
def applyColors (c : Config) : Action τ Unit := do
  Action.changeScreen fun screen => screen.setForeground c.foreground.components
  Action.changeScreen fun screen => screen.setBackground c.background.components

/-- After the options come the colours. -/
theorem apply_eq (c : Config) (s : System τ) : c.apply s = c.applyColors (s.withOptions c) := rfl

theorem setForeground_of_isBytes (h : c.foreground.IsBytes) (screen : Screen) :
    screen.setForeground c.foreground.components =
      .ok (screen.withForeground c.foreground.color) := by
  rw [Screen.setForeground_eq, Rgb.ofComponents_of_isBytes h]
  rfl

theorem setBackground_of_isBytes (h : c.background.IsBytes) (screen : Screen) :
    screen.setBackground c.background.components =
      .ok (screen.withBackground c.background.color) := by
  rw [Screen.setBackground_eq, Rgb.ofComponents_of_isBytes h]
  rfl

/-- **With two colours of bytes every choice is made.** -/
theorem apply_of_isBytes (hforeground : c.foreground.IsBytes) (hbackground : c.background.IsBytes)
    (s : System τ) :
    c.apply s = .ok () ((s.withOptions c).withScreen
      (s.machine.screen.recolored c.foreground.color c.background.color)) := by
  rw [apply_eq, applyColors,
    bind_of_ok (Action.changeScreen_of_ok (setForeground_of_isBytes hforeground _))]
  exact Action.changeScreen_of_ok (setBackground_of_isBytes hbackground _)

/-- With a foreground that the screen does not take, the options are chosen all the same. -/
theorem apply_foreground_refused (hforeground : ¬ c.foreground.IsBytes) (s : System τ) :
    ∃ n ∈ c.foreground.components, ¬ (0 ≤ n ∧ n ≤ 255) ∧
      c.apply s = .error (.componentNotByte n) (s.withOptions c) := by
  obtain ⟨n, hn, hrange, hrefused⟩ := Rgb.ofComponents_of_not_isBytes hforeground
  refine ⟨n, hn, hrange, ?_⟩
  rw [apply_eq, applyColors]
  refine bind_of_error (Action.changeScreen_of_error ?_)
  rw [Screen.setForeground_eq, hrefused]
  rfl

/-- With a background that the screen does not take, the options are chosen all the same, and so is
the foreground. -/
theorem apply_background_refused (hforeground : c.foreground.IsBytes)
    (hbackground : ¬ c.background.IsBytes) (s : System τ) :
    ∃ n ∈ c.background.components, ¬ (0 ≤ n ∧ n ≤ 255) ∧
      c.apply s = .error (.componentNotByte n) ((s.withOptions c).withScreen
        (s.machine.screen.withForeground c.foreground.color)) := by
  obtain ⟨n, hn, hrange, hrefused⟩ := Rgb.ofComponents_of_not_isBytes hbackground
  refine ⟨n, hn, hrange, ?_⟩
  rw [apply_eq, applyColors,
    bind_of_ok (Action.changeScreen_of_ok (setForeground_of_isBytes hforeground _))]
  refine Action.changeScreen_of_error ?_
  rw [Screen.setBackground_eq, hrefused]
  rfl

/-- **What a change of colours does to the picture.**  Exactly the pixels that were lit are lit
afterwards, unless the new foreground is the old background: then every pixel is off, and the host
is shown the new background everywhere. -/
theorem apply_palette {s : System τ} (htwo : s.machine.screen.TwoColored)
    (hold : s.machine.screen.foreground ≠ s.machine.screen.background)
    (hforeground : c.foreground.IsBytes) (hbackground : c.background.IsBytes)
    (hnew : c.foreground ≠ c.background) :
    ∃ t, c.apply s = .ok () t ∧
      t.machine.screen.foreground = c.foreground.color ∧
      t.machine.screen.background = c.background.color ∧
      ((∀ x y, t.machine.screen.isPixelOn x y = s.machine.screen.isPixelOn x y) ↔
        (c.foreground.color ≠ s.machine.screen.background ∨
          ∀ p, s.machine.screen.isLit p = false)) ∧
      ∀ p, Screen.shown t.machine.screen.rgb p =
        if s.machine.screen.isLit p = true ∧ c.foreground.color ≠ s.machine.screen.background
        then c.foreground.color.bytes
        else c.background.color.bytes := by
  have hcolors : c.foreground.color ≠ c.background.color :=
    mt (Rgb.color_inj hforeground hbackground).1 hnew
  refine ⟨_, apply_of_isBytes hforeground hbackground s, rfl, rfl, ?_, fun p => ?_⟩
  · exact Screen.isPixelOn_congr_iff.trans (Screen.isLit_recolored_iff _ _ htwo hold hcolors)
  · rw [Screen.shown_rgb]
    show ((s.machine.screen.recolored c.foreground.color c.background.color).cell p).bytes = _
    rw [Screen.cell_recolored _ _ htwo hold]
    split <;> rfl

/-- A machine with its first pixel lit. -/
def dotted : System Rat :=
  (System.powerOn (Host.still 0 fun _ => 0)).withScreen (Screen.initial.setLit 0 true)

theorem twoColored_dotted : dotted.machine.screen.TwoColored :=
  (Screen.twoColored_blank _ _).setLit 0 true

/-- Red on blue keeps the pixel. -/
theorem apply_palette_dotted :
    ∃ t, ({ default with foreground := ⟨255, 0, 0⟩, background := ⟨0, 0, 255⟩ } : Config).apply
        dotted = .ok () t ∧
      (∀ x y, t.machine.screen.isPixelOn x y = dotted.machine.screen.isPixelOn x y) ∧
      Screen.shown t.machine.screen.rgb 0 = [255, 0, 0] := by
  obtain ⟨t, hrun, -, -, hpicture, hshown⟩ :=
    apply_palette (c := { default with foreground := ⟨255, 0, 0⟩, background := ⟨0, 0, 255⟩ })
      twoColored_dotted (by decide) (by decide) (by decide) (by decide)
  refine ⟨t, hrun, hpicture.2 (.inl (by decide)), (hshown 0).trans (if_pos ⟨?_, by decide⟩)⟩
  exact Screen.isLit_iff.2 (Screen.cell_setLit _ 0 0 true)

/-- The default colours the other way round put the pixel out. -/
theorem apply_inverted_dotted :
    let c : Config := { default with foreground := ⟨0, 0, 0⟩, background := ⟨255, 255, 255⟩ }
    dotted.machine.screen.foreground ≠ dotted.machine.screen.background ∧
      c.foreground.IsBytes ∧ c.background.IsBytes ∧ c.foreground ≠ c.background ∧
      ∃ t, c.apply dotted = .ok () t ∧ dotted.machine.screen.isPixelOn 0 0 = .ok true ∧
        t.machine.screen.isPixelOn 0 0 = .ok false ∧
        ∀ p, Screen.shown t.machine.screen.rgb p = c.background.color.bytes := by
  intro c
  have hforeground : c.foreground.IsBytes := by decide
  have hbackground : c.background.IsBytes := by decide
  have hold : dotted.machine.screen.foreground ≠ dotted.machine.screen.background := by decide
  have hnew : c.foreground.color ≠ c.background.color := by decide
  have hclash : c.foreground.color = dotted.machine.screen.background := rfl
  have hlit : dotted.machine.screen.isLit 0 = true :=
    Screen.isLit_iff.2 (Screen.cell_setLit _ 0 0 true)
  refine ⟨hold, hforeground, hbackground, by decide, _,
    apply_of_isBytes hforeground hbackground dotted, congrArg Except.ok hlit,
    congrArg Except.ok ?_, fun p => ?_⟩
  · refine Bool.eq_false_iff.2 fun h => ?_
    exact ((Screen.isLit_recolored _ _ twoColored_dotted hold hnew 0).1 h).2 hclash
  · rw [Screen.shown_rgb]
    refine congrArg Color.bytes ((Screen.cell_recolored _ _ twoColored_dotted hold p).trans ?_)
    exact if_neg fun h => h.2 hclash

end Config

end Systems

end Chip8
