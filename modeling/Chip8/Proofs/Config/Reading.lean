import Chip8.Config.Reading
import Chip8.Proofs.Config.Rgb
import Chip8.Proofs.Sequence
import Chip8.Proofs.Text.Integer

/-!
# What a reader of configurations accepts

One lemma for each of the readers says what an answer of it is like, and `ofValue_ok` takes the
reader of a whole document apart into the readers of its fields.

* `readPositive_ok`, `readKeymap_inRange` — sizes and speeds are positive, and keys have codes of
  the keypad;
* `readColor_range` — a colour that was written as three integers has bytes for components, and one
  that was written as six digits has them unless there is a minus among the digits, which is read as
  a sign;
* `readSection_ok` — the entries of a section that is left out, or of one that does not count as
  true, are none.
-/

namespace Chip8

open Text

/-! ## Colours -/

namespace Rgb

/-- Whether two digits of a colour are a minus and a digit other than zero. -/
def hasSign (s : String) : Bool :=
  match (strip s.toList).dropWhile (· = '#') with
  | [a, b, c, d, e, f] => isMinusPair a b || isMinusPair c d || isMinusPair e f
  | _ => false

theorem ofHex_ok {s : String} {c : Rgb} (h : ofHex s = .ok c) :
    ∃ a b d e f g, (strip s.toList).dropWhile (· = '#') = [a, b, d, e, f, g] ∧
      readInteger 16 (String.ofList [a, b]) = .ok c.red ∧
      readInteger 16 (String.ofList [d, e]) = .ok c.green ∧
      readInteger 16 (String.ofList [f, g]) = .ok c.blue := by
  rw [ofHex] at h
  split at h
  · rename_i a b d e f g hcs
    obtain ⟨red, hred, h⟩ := Except.bind_eq_ok_iff.1 h
    obtain ⟨green, hgreen, h⟩ := Except.bind_eq_ok_iff.1 h
    obtain ⟨blue, hblue, h⟩ := Except.bind_eq_ok_iff.1 h
    cases h
    exact ⟨a, b, d, e, f, g, hcs, Except.mapError_eq_ok_iff.1 hred,
      Except.mapError_eq_ok_iff.1 hgreen, Except.mapError_eq_ok_iff.1 hblue⟩
  · cases h

/-- **The components of six digits**: bytes, unless two of the digits are a minus and a digit. -/
theorem ofHex_range {s : String} {c : Rgb} (h : ofHex s = .ok c) :
    (∀ n ∈ c.components, -15 ≤ n ∧ n ≤ 255) ∧ (c.IsBytes ↔ hasSign s = false) := by
  obtain ⟨a, b, d, e, f, g, hcs, hred, hgreen, hblue⟩ := ofHex_ok h
  obtain ⟨hredRange, hredSign⟩ := readInteger_pair hred
  obtain ⟨hgreenRange, hgreenSign⟩ := readInteger_pair hgreen
  obtain ⟨hblueRange, hblueSign⟩ := readInteger_pair hblue
  constructor
  · simp only [components, List.forall_mem_cons]
    exact ⟨hredRange, hgreenRange, hblueRange, List.forall_mem_nil _⟩
  · have hsign : hasSign s = (isMinusPair a b || isMinusPair d e || isMinusPair f g) := by
      rw [hasSign, hcs]
    rw [isBytes_iff, hsign, ← Bool.not_eq_true, Bool.or_eq_true, Bool.or_eq_true, ← hredSign,
      ← hgreenSign, ← hblueSign]
    omega

end Rgb

namespace Keymap

/-- Every name stands for a key of the keypad. -/
def InRange (m : Keymap) : Prop := ∀ e ∈ m, 0 ≤ e.2 ∧ e.2 ≤ 15

theorem inRange_nil : InRange [] := List.forall_mem_nil _

theorem inRange_default : default.InRange := by
  unfold InRange
  decide

theorem InRange.insert {m : Keymap} (h : m.InRange) {name : String} {code : Int}
    (hcode : 0 ≤ code ∧ code ≤ 15) : (m.insert name code).InRange := by
  induction m with
  | nil => exact List.forall_mem_cons.2 ⟨hcode, inRange_nil⟩
  | cons e m ih =>
    obtain ⟨hfirst, hrest⟩ := List.forall_mem_cons.1 h
    rw [Keymap.insert]
    split
    · exact List.forall_mem_cons.2 ⟨hcode, hrest⟩
    · exact List.forall_mem_cons.2 ⟨hfirst, ih hrest⟩

end Keymap

namespace Config

/-! ## Numbers and colours -/

theorem readPositive_ok {name : String} {v : Value} {n : Int} (h : readPositive name v = .ok n) :
    readInt v = .ok n ∧ 0 < n := by
  rw [readPositive] at h
  obtain ⟨m, hm, h⟩ := Except.bind_eq_ok_iff.1 h
  split at h
  · cases h
  · cases h
    exact ⟨hm, by omega⟩

/-- Whether a colour is a text with a sign in it. -/
def isSigned : Option Value → Bool
  | some (.text s) => Rgb.hasSign s
  | _ => false

/-- The components of a list are bytes, those of a text unless there is a sign. -/
theorem readColor_range {v : Value} {c : Rgb} (h : readColor v = .ok c) :
    (∀ n ∈ c.components, -15 ≤ n ∧ n ≤ 255) ∧ (c.IsBytes ↔ isSigned (some v) = false) := by
  unfold readColor at h
  split at h
  · exact Rgb.ofHex_range h
  · obtain ⟨red, -, h⟩ := Except.bind_eq_ok_iff.1 h
    obtain ⟨green, -, h⟩ := Except.bind_eq_ok_iff.1 h
    obtain ⟨blue, -, h⟩ := Except.bind_eq_ok_iff.1 h
    simp only at h
    split at h
    · rename_i hbytes
      cases h
      have hall : Rgb.IsBytes ⟨red, green, blue⟩ := by
        simpa [Rgb.IsBytes, isByte] using hbytes
      exact ⟨fun n hn => by have := hall n hn; omega, fun _ => rfl, fun _ => hall⟩
    · cases h
  · cases h

/-! ## Sections and their entries -/

/-- The entries of a section; one that is left out has none. -/
def entriesOf : Option Value → Entries
  | some (.map entries) => entries
  | _ => []

/-- A section that counts as true and is no mapping. -/
def isMisplaced : Option Value → Bool
  | none => false
  | some (.map _) => false
  | some v => v.isTruthy

/-- Any other section has entries. -/
theorem readSection_eq (v : Option Value) :
    readSection v = if isMisplaced v then .error .sectionNotMapping else .ok (entriesOf v) := by
  cases v with
  | none => rfl
  | some v =>
    cases htrue : v.isTruthy <;> cases v with
    | map entries => cases entries <;> rfl
    | _ => simp [readSection, isMisplaced, entriesOf, htrue]

theorem readSection_ok {v : Option Value} {entries : Entries} (h : readSection v = .ok entries) :
    entries = entriesOf v := by
  rw [readSection_eq] at h
  split at h
  · cases h
  · exact (Except.ok.inj h).symm

/-- What is read for an entry is its default, or comes from the reader. -/
theorem readOr_ok {α : Type} {entries : Entries} {name : String} {default a : α}
    {read : Value → Except ConfigFault α} (h : readOr entries name default read = .ok a) :
    (Value.get? entries name = none ∧ a = default) ∨
      ∃ v, Value.get? entries name = some v ∧ read v = .ok a := by
  unfold readOr at h
  split at h
  · rename_i hnone
    cases h
    exact .inl ⟨hnone, rfl⟩
  · rename_i v hsome
    exact .inr ⟨v, hsome, h⟩

theorem readOr_positive {entries : Entries} {name title : String} {default n : Int}
    (hdefault : 0 < default) (h : readOr entries name default (readPositive title) = .ok n) :
    0 < n := by
  rcases readOr_ok h with ⟨-, rfl⟩ | ⟨v, -, hread⟩
  · exact hdefault
  · exact (readPositive_ok hread).2

theorem readOr_color {entries : Entries} {name : String} {default c : Rgb}
    (hdefault : default.IsBytes) (h : readOr entries name default readColor = .ok c) :
    (∀ n ∈ c.components, -15 ≤ n ∧ n ≤ 255) ∧
      (c.IsBytes ↔ isSigned (Value.get? entries name) = false) := by
  rcases readOr_ok h with ⟨hnone, rfl⟩ | ⟨v, hsome, hread⟩
  · rw [hnone]
    exact ⟨fun n hn => by have := hdefault n hn; omega, fun _ => rfl, fun _ => hdefault⟩
  · rw [hsome]
    exact readColor_range hread

/-! ## Keys -/

/-- A key is added with a code of the keypad. -/
theorem readKeys_cons {keymap m : Keymap} {key code : Value} {entries : Entries}
    (h : readKeys keymap ((key, code) :: entries) = .ok m) :
    ∃ n, readInt code = .ok n ∧ (0 ≤ n ∧ n ≤ 15) ∧
      readKeys (keymap.insert (upper key.display) n) entries = .ok m := by
  rw [readKeys] at h
  obtain ⟨n, hn, h⟩ := Except.bind_eq_ok_iff.1 h
  split at h
  · cases h
  · rename_i hrange
    split at h
    · cases h
    · exact ⟨n, hn, by omega, h⟩

theorem readKeys_inRange {entries : Entries} : ∀ {keymap m : Keymap}, keymap.InRange →
    readKeys keymap entries = .ok m → m.InRange := by
  induction entries with
  | nil =>
    intro keymap m hkeymap h
    cases h
    exact hkeymap
  | cons e entries ih =>
    obtain ⟨key, code⟩ := e
    intro keymap m hkeymap h
    obtain ⟨n, -, hn, h⟩ := readKeys_cons h
    exact ih (hkeymap.insert hn) h

theorem readKeymap_inRange {v : Option Value} {m : Keymap} (h : readKeymap v = .ok m) :
    m.InRange := by
  unfold readKeymap at h
  split at h
  · cases h
    exact Keymap.inRange_default
  · cases h
    exact Keymap.inRange_default
  · exact readKeys_inRange Keymap.inRange_nil h
  · cases h

/-! ## Documents -/

/-- A configuration comes from a mapping, section by section. -/
theorem ofValue_ok {v : Value} {c : Config} (h : ofValue v = .ok c) :
    ∃ data options display timing, v = .map data ∧
      readSection (Value.get? data "quirks") = .ok options ∧
      readSection (Value.get? data "display") = .ok display ∧
      readOr display "foreground" default.foreground readColor = .ok c.foreground ∧
      readOr display "background" default.background readColor = .ok c.background ∧
      readOr display "scale" default.scale (readPositive "display.scale") = .ok c.scale ∧
      readSection (Value.get? data "timing") = .ok timing ∧
      readOr timing "instructions_per_frame" default.instructionsPerFrame
        (readPositive "timing.instructions_per_frame") = .ok c.instructionsPerFrame ∧
      readOr timing "frame_interval_ms" default.frameInterval
        (readPositive "timing.frame_interval_ms") = .ok c.frameInterval ∧
      readKeymap (Value.get? data "keymap") = .ok c.keymap ∧
      c.shiftSecond = readChoice options "shift_quirk" ∧
      c.drawOnBlank = readChoice options "vblank_wait" := by
  cases v with
  | map data =>
    rw [ofValue] at h
    obtain ⟨options, hoptions, h⟩ := Except.bind_eq_ok_iff.1 h
    obtain ⟨display, hdisplay, h⟩ := Except.bind_eq_ok_iff.1 h
    obtain ⟨foreground, hforeground, h⟩ := Except.bind_eq_ok_iff.1 h
    obtain ⟨background, hbackground, h⟩ := Except.bind_eq_ok_iff.1 h
    obtain ⟨scale, hscale, h⟩ := Except.bind_eq_ok_iff.1 h
    obtain ⟨timing, htiming, h⟩ := Except.bind_eq_ok_iff.1 h
    obtain ⟨instructions, hinstructions, h⟩ := Except.bind_eq_ok_iff.1 h
    obtain ⟨interval, hinterval, h⟩ := Except.bind_eq_ok_iff.1 h
    obtain ⟨keymap, hkeymap, h⟩ := Except.bind_eq_ok_iff.1 h
    cases h
    exact ⟨data, options, display, timing, rfl, hoptions, hdisplay, hforeground, hbackground,
      hscale, htiming, hinstructions, hinterval, hkeymap, rfl, rfl⟩
  | _ => cases h

end Config

end Chip8
