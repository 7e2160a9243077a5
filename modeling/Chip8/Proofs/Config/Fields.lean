import Chip8.Proofs.Config.Spelling

/-!
# The choices of a configuration

A configuration is a choice for each of eight fields (`Field`, `Config.get`).  A field has a place
in a document, values that spell a choice, and choices that may be made.  A part of a document is a
field or a section with several of them (`Part`), and `Config.reset` makes the default choice for
every field of a part: those whose places lie at the place of the part or below it
(`Part.path_prefix_iff`).
-/

namespace Chip8

namespace Config

/-! ## Fields -/

/-- The choices of a configuration. -/
inductive Field where
  | shiftSecond
  | drawOnBlank
  | foreground
  | background
  | scale
  | instructionsPerFrame
  | frameInterval
  | keymap
  deriving DecidableEq

namespace Field

/-- What is chosen. -/
def Choice : Field → Type
  | shiftSecond => Bool
  | drawOnBlank => Bool
  | foreground => Rgb
  | background => Rgb
  | scale => Int
  | instructionsPerFrame => Int
  | frameInterval => Int
  | keymap => Keymap

/-- The place of a choice in a document. -/
def path : Field → List String
  | shiftSecond => ["quirks", "shift_quirk"]
  | drawOnBlank => ["quirks", "vblank_wait"]
  | foreground => ["display", "foreground"]
  | background => ["display", "background"]
  | scale => ["display", "scale"]
  | instructionsPerFrame => ["timing", "instructions_per_frame"]
  | frameInterval => ["timing", "frame_interval_ms"]
  | keymap => ["keymap"]

/-- The values that spell a choice.  An option may be any value that counts as true or not. -/
def Spells (limits : Limits) : (f : Field) → f.Choice → Value → Prop
  | shiftSecond, b, v => v.isTruthy = b
  | drawOnBlank, b, v => v.isTruthy = b
  | foreground, c, v => SpellsColor limits c v
  | background, c, v => SpellsColor limits c v
  | scale, n, v => SpellsInt limits n v
  | instructionsPerFrame, n, v => SpellsInt limits n v
  | frameInterval, n, v => SpellsInt limits n v
  | keymap, m, v => ∃ entries, v = .map entries ∧ SpellsKeys limits m entries

/-- The choices that a configuration may make. -/
def InRange : (f : Field) → f.Choice → Prop
  | shiftSecond, _ => True
  | drawOnBlank, _ => True
  | foreground, c => Rgb.IsBytes c
  | background, c => Rgb.IsBytes c
  | scale, n => (0 : Int) < n
  | instructionsPerFrame, n => (0 : Int) < n
  | frameInterval, n => (0 : Int) < n
  | keymap, m => Keymap.InRange m

end Field

/-- The choice of a configuration. -/
def get (c : Config) : (f : Field) → f.Choice
  | .shiftSecond => c.shiftSecond
  | .drawOnBlank => c.drawOnBlank
  | .foreground => c.foreground
  | .background => c.background
  | .scale => c.scale
  | .instructionsPerFrame => c.instructionsPerFrame
  | .frameInterval => c.frameInterval
  | .keymap => c.keymap

/-- All choices of a configuration may be made. -/
def InRange (c : Config) : Prop := ∀ f : Field, f.InRange (c.get f)

theorem inRange_default : default.InRange := by
  intro f
  cases f with
  | shiftSecond => trivial
  | drawOnBlank => trivial
  | foreground => show default.foreground.IsBytes; decide
  | background => show default.background.IsBytes; decide
  | scale => show 0 < default.scale; decide
  | instructionsPerFrame => show 0 < default.instructionsPerFrame; decide
  | frameInterval => show 0 < default.frameInterval; decide
  | keymap => exact Keymap.inRange_default

/-- The configuration with the default choice. -/
def resetField (c : Config) : Field → Config
  | .shiftSecond => { c with shiftSecond := default.shiftSecond }
  | .drawOnBlank => { c with drawOnBlank := default.drawOnBlank }
  | .foreground => { c with foreground := default.foreground }
  | .background => { c with background := default.background }
  | .scale => { c with scale := default.scale }
  | .instructionsPerFrame => { c with instructionsPerFrame := default.instructionsPerFrame }
  | .frameInterval => { c with frameInterval := default.frameInterval }
  | .keymap => { c with keymap := default.keymap }

theorem get_resetField (c : Config) (f g : Field) :
    (c.resetField f).get g = if g = f then default.get g else c.get g := by
  cases f <;> cases g <;> rfl

/-! ## Parts -/

/-- What can be left out of a document. -/
inductive Part where
  | field (f : Field)
  | options
  | display
  | timing

namespace Part

/-- The place of a part in a document. -/
def path : Part → List String
  | field f => f.path
  | options => ["quirks"]
  | display => ["display"]
  | timing => ["timing"]

/-- The choices of a part. -/
def fields : Part → List Field
  | field f => [f]
  | options => [.shiftSecond, .drawOnBlank]
  | display => [.foreground, .background, .scale]
  | timing => [.instructionsPerFrame, .frameInterval]

theorem path_ne_nil (p : Part) : p.path ≠ [] := by
  cases p with
  | field f => cases f <;> exact List.cons_ne_nil _ _
  | _ => exact List.cons_ne_nil _ _

/-- The choices of a part are those that stand at its place or below it. -/
theorem path_prefix_iff (p : Part) (f : Field) : p.path <+: f.path ↔ f ∈ p.fields := by
  cases p with
  | field g => cases g <;> cases f <;> simp [path, Field.path, fields]
  | _ => cases f <;> simp [path, Field.path, fields]

/-- No choice stands above a part. -/
theorem mem_fields_of_prefix {p : Part} {f : Field} (h : f.path <+: p.path) : f ∈ p.fields := by
  cases p with
  | field g => cases g <;> cases f <;> simp_all [path, Field.path, fields]
  | _ => cases f <;> simp_all [path, Field.path]

end Part

/-- The configuration with the default choices in a part. -/
def reset (c : Config) (p : Part) : Config := p.fields.foldl resetField c

/-- The configuration with the default choices in some parts. -/
def resetAll (c : Config) (parts : List Part) : Config := parts.foldl reset c

theorem get_resetFields (fields : List Field) (f : Field) : ∀ c : Config,
    (fields.foldl resetField c).get f = if f ∈ fields then default.get f else c.get f := by
  induction fields with
  | nil => exact fun c => rfl
  | cons g fields ih =>
    intro c
    rw [List.foldl_cons, ih, get_resetField]
    by_cases hg : f = g <;> by_cases hf : f ∈ fields <;> simp [hg, hf]

theorem get_reset (c : Config) (p : Part) (f : Field) :
    (c.reset p).get f = if f ∈ p.fields then default.get f else c.get f :=
  get_resetFields p.fields f c

theorem InRange.reset {c : Config} (h : c.InRange) (p : Part) : (c.reset p).InRange := by
  intro f
  rw [get_reset]
  split
  · exact inRange_default f
  · exact h f

theorem InRange.resetAll (parts : List Part) : ∀ {c : Config}, c.InRange →
    (c.resetAll parts).InRange := by
  induction parts with
  | nil => exact fun h => h
  | cons p parts ih => exact fun h => ih (h.reset p)

end Config

end Chip8
