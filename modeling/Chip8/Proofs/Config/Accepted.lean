import Chip8.Proofs.Config.Applying
import Chip8.Proofs.Config.Reading

/-!
# Accepted configurations

What can be said of every configuration that a document is read as, and what becomes of a machine
when it is put into effect.

* `hasSignedColor` — a colour of the document has six digits, and two of them are a minus and a
  digit;
* `ofValue_sound` — **an accepted configuration is in range and is put into effect as a whole**,
  but for those colours: they are read as numbers below zero, and the machine refuses them when the
  options are chosen already.
-/

namespace Chip8

namespace Config

/-- Whether one of the two colours of a document is a text with a sign in it. -/
def hasSignedColor : Value → Bool
  | .map data =>
    let display := entriesOf (Value.get? data "display")
    isSigned (Value.get? display "foreground") || isSigned (Value.get? display "background")
  | _ => false

/-- The components of both colours, and when they are bytes. -/
theorem ofValue_colors {v : Value} {c : Config} (h : ofValue v = .ok c) :
    (∀ n ∈ c.foreground.components ++ c.background.components, -15 ≤ n ∧ n ≤ 255) ∧
      (c.foreground.IsBytes ∧ c.background.IsBytes ↔ hasSignedColor v = false) := by
  obtain ⟨data, options, display, timing, rfl, -, hdisplay, hforeground, hbackground, -⟩ :=
    ofValue_ok h
  obtain ⟨hforegroundRange, hforegroundBytes⟩ := readOr_color (by decide) hforeground
  obtain ⟨hbackgroundRange, hbackgroundBytes⟩ := readOr_color (by decide) hbackground
  constructor
  · exact List.forall_mem_append.2 ⟨hforegroundRange, hbackgroundRange⟩
  · rw [hforegroundBytes, hbackgroundBytes, readSection_ok hdisplay, hasSignedColor,
      Bool.or_eq_false_iff]

/-- **What is accepted is in range and can be put into effect**, unless a colour has a sign.

With a sign the machine takes the options, and then either refuses the foreground, or takes the
foreground and refuses the background.  A machine that is built from the configuration is one that
it is put into effect on just after power-on, so the same holds of it. -/
theorem ofValue_sound {v : Value} {c : Config} (h : ofValue v = .ok c) :
    (0 < c.scale ∧ 0 < c.instructionsPerFrame ∧ 0 < c.frameInterval) ∧
    c.keymap.InRange ∧
    (∀ n ∈ c.foreground.components ++ c.background.components, -15 ≤ n ∧ n ≤ 255) ∧
    (c.foreground.IsBytes ∧ c.background.IsBytes ↔ hasSignedColor v = false) ∧
    ∀ {τ : Type} (s : System τ),
      (hasSignedColor v = false →
        c.apply s = .ok () ((s.withOptions c).withScreen
          (s.machine.screen.recolored c.foreground.color c.background.color))) ∧
      (hasSignedColor v = true → ∃ n < 0, ∃ screen,
        c.apply s = .error (.componentNotByte n) ((s.withOptions c).withScreen screen) ∧
          (screen = s.machine.screen ∨
            screen = s.machine.screen.withForeground c.foreground.color)) := by
  obtain ⟨hrange, hbytes⟩ := ofValue_colors h
  obtain ⟨data, options, display, timing, rfl, -, -, -, -, hscale, -, hinstructions, hinterval,
    hkeymap, -⟩ := ofValue_ok h
  have hpositive : 0 < c.scale ∧ 0 < c.instructionsPerFrame ∧ 0 < c.frameInterval :=
    ⟨readOr_positive (by decide) hscale, readOr_positive (by decide) hinstructions,
      readOr_positive (by decide) hinterval⟩
  refine ⟨hpositive, readKeymap_inRange hkeymap, hrange, hbytes, fun s => ⟨?_, ?_⟩⟩
  · intro hplain
    obtain ⟨hforeground, hbackground⟩ := hbytes.2 hplain
    exact apply_of_isBytes hforeground hbackground s
  · intro hsigned
    obtain ⟨hforegroundRange, hbackgroundRange⟩ := List.forall_mem_append.1 hrange
    by_cases hforeground : c.foreground.IsBytes
    · have hbackground : ¬ c.background.IsBytes := by
        intro hbackground
        rw [hbytes.1 ⟨hforeground, hbackground⟩] at hsigned
        cases hsigned
      obtain ⟨n, hn, hoff, hrun⟩ := apply_background_refused hforeground hbackground s
      have hnear := hbackgroundRange n hn
      exact ⟨n, by omega, _, hrun, .inr rfl⟩
    · obtain ⟨n, hn, hoff, hrun⟩ := apply_foreground_refused hforeground s
      have hnear := hforegroundRange n hn
      exact ⟨n, by omega, s.machine.screen, hrun, .inl rfl⟩

/-- A document with a green foreground. -/
def greenDocument : Value :=
  .map [(.text "display", .map [(.text "foreground", .text "#33FF66")])]

/-- A machine takes the green foreground. -/
theorem ofValue_green :
    ∃ c, ofValue greenDocument = .ok c ∧ c.foreground = ⟨0x33, 0xFF, 0x66⟩ ∧
      c.keymap.InRange ∧ ∀ s : System Rat, c.apply s = .ok () ((s.withOptions c).withScreen
        (s.machine.screen.recolored ⟨0x33, 0xFF, 0x66⟩ .black)) := by
  have haccepted :
      ofValue greenDocument = .ok { default with foreground := ⟨0x33, 0xFF, 0x66⟩ } := rfl
  obtain ⟨-, hkeymap, -, -, happly⟩ := ofValue_sound haccepted
  exact ⟨_, haccepted, rfl, hkeymap, fun s => (happly s).1 (by decide +kernel)⟩

/-- A document that lets drawings wait, and has a minus in its foreground. -/
def signedDocument : Value :=
  .map [(.text "quirks", .map [(.text "vblank_wait", .bool true)]),
    (.text "display", .map [(.text "foreground", .text "#-10000")])]

/-- It is accepted with a component below zero, and is put into effect by half. -/
theorem ofValue_signed :
    ∃ c, ofValue signedDocument = .ok c ∧ c.foreground = ⟨-1, 0, 0⟩ ∧
      let s : System Rat := System.powerOn (Host.still 0 fun _ => 0)
      ∃ t, c.apply s = .error (.componentNotByte (-1)) t ∧
        s.machine.registers.drawOnBlank = false ∧ t.machine.registers.drawOnBlank = true := by
  have haccepted : ofValue signedDocument =
      .ok { default with drawOnBlank := true, foreground := ⟨-1, 0, 0⟩ } := rfl
  exact ⟨_, haccepted, rfl, _, rfl, rfl, rfl⟩

end Config

end Chip8
