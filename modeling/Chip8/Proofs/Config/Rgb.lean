import Chip8.Config.Basic

/-!
# Colours that the screen takes

A colour of a configuration has integers for components, and the screen takes it only if each of
them is a byte (`Rgb.IsBytes`); it is refused for the first component that is not
(`ofComponents_of_not_isBytes`).  Different colours that the screen takes look different
(`color_inj`).
-/

namespace Chip8

namespace Rgb

/-- A colour that the screen takes. -/
def IsBytes (c : Rgb) : Prop := ∀ n ∈ c.components, 0 ≤ n ∧ n ≤ 255

instance : DecidablePred IsBytes := fun c =>
  inferInstanceAs (Decidable (∀ n ∈ c.components, 0 ≤ n ∧ n ≤ 255))

/-- The colour of the screen that has the given components. -/
def color (c : Rgb) : Color :=
  ⟨.ofNat c.red.toNat, .ofNat c.green.toNat, .ofNat c.blue.toNat⟩

theorem isBytes_iff {c : Rgb} :
    c.IsBytes ↔ (0 ≤ c.red ∧ c.red ≤ 255) ∧ (0 ≤ c.green ∧ c.green ≤ 255) ∧
      (0 ≤ c.blue ∧ c.blue ≤ 255) := by
  simp [IsBytes, components]

/-- The byte of a number tells the number. -/
theorem byte_inj {m n : Int} (hm : 0 ≤ m ∧ m ≤ 255) (hn : 0 ≤ n ∧ n ≤ 255)
    (h : UInt8.ofNat m.toNat = UInt8.ofNat n.toNat) : m = n := by
  have hnat := congrArg UInt8.toNat h
  rw [UInt8.toNat_ofNat', UInt8.toNat_ofNat'] at hnat
  omega

/-- Different colours look different. -/
theorem color_inj {a b : Rgb} (ha : a.IsBytes) (hb : b.IsBytes) : a.color = b.color ↔ a = b := by
  obtain ⟨hred, hgreen, hblue⟩ := isBytes_iff.1 ha
  obtain ⟨hred', hgreen', hblue'⟩ := isBytes_iff.1 hb
  constructor
  · intro h
    injection h with hr hg hbl
    cases a
    cases b
    rw [mk.injEq]
    exact ⟨byte_inj hred hred' hr, byte_inj hgreen hgreen' hg, byte_inj hblue hblue' hbl⟩
  · exact congrArg color

theorem ofComponents_of_isBytes {c : Rgb} (h : c.IsBytes) :
    Color.ofComponents c.components = .ok c.color := by
  obtain ⟨hred, hgreen, hblue⟩ := isBytes_iff.1 h
  rw [components, Color.ofComponents, Color.component, if_pos hred, Color.component, if_pos hgreen,
    Color.component, if_pos hblue]
  rfl

/-- A colour is refused for its first component that is not a byte. -/
theorem ofComponents_of_not_isBytes {c : Rgb} (h : ¬ c.IsBytes) :
    ∃ n ∈ c.components, ¬ (0 ≤ n ∧ n ≤ 255) ∧
      Color.ofComponents c.components = .error (.componentNotByte n) := by
  rw [isBytes_iff] at h
  rw [components, Color.ofComponents]
  by_cases hred : 0 ≤ c.red ∧ c.red ≤ 255
  · by_cases hgreen : 0 ≤ c.green ∧ c.green ≤ 255
    · have hblue : ¬ (0 ≤ c.blue ∧ c.blue ≤ 255) := fun hblue => h ⟨hred, hgreen, hblue⟩
      refine ⟨c.blue, by simp, hblue, ?_⟩
      rw [Color.component, if_pos hred, Color.component, if_pos hgreen, Color.component,
        if_neg hblue]
      rfl
    · refine ⟨c.green, by simp, hgreen, ?_⟩
      rw [Color.component, if_pos hred, Color.component, if_neg hgreen]
      rfl
  · refine ⟨c.red, by simp, hred, ?_⟩
    rw [Color.component, if_neg hred]
    rfl

end Rgb

end Chip8
