import Chip8.Clock
import Chip8.Registers

/-!
# The register pane

Every register, timer and stack slot as a field of digits, in groups.  A pane has no fields until
it is laid out; `RegisterPane.update` writes the values of a machine into the fields that there
are, and dims the stack slots that are not in use.
-/

namespace Chip8

open Text

/-- A value that is shown: its name, the number of its digits, and what is written. -/
structure Field where
  name : String
  width : Nat
  text : String
  /-- Whether the value counts; a stack slot that is not in use does not. -/
  lit : Bool
  deriving DecidableEq, Repr

namespace Field

/-- A field before a value is written. -/
def blank (name : String) (width : Nat) : Field :=
  ⟨name, width, "0x" ++ String.ofList (List.replicate width '0'), true⟩

/-- How a value is written into a field: the width counts the sign. -/
def write (width : Nat) (value : Int) : String := "0x" ++ (HexForm.mk "" width true).write value

/-- The colour of the text of a field. -/
def color (f : Field) : String := if f.lit then "#FFD700" else "#555555"

end Field

/-- How the fields of a group stand. -/
inductive Arrangement where
  /-- One below the other, each after its name in bold. -/
  | form
  /-- One below the other, each after its name in plain letters. -/
  | plainForm
  /-- Four in a row, without names. -/
  | grid
  deriving DecidableEq, Repr

/-- Fields that are shown together under a title. -/
structure FieldGroup where
  title : String
  arrangement : Arrangement
  fields : List Field
  deriving DecidableEq, Repr

/-- The groups of fields, from the top. -/
abbrev RegisterPane := List FieldGroup

namespace RegisterPane

/-- The name of a stack slot. -/
def slotName (slot : Fin 16) : String := "S" ++ HexForm.bare.write slot.val

/-- The fields before values are written: the registers as they are grouped, the timers, and the
stack. -/
def blank : RegisterPane :=
  (Registers.layout.map fun g =>
    ⟨g.title, .form, g.registers.map fun (name, bits) => .blank name ((bits + 3) / 4)⟩) ++
  [⟨"Timers", .plainForm, [.blank "DT" 2, .blank "ST" 2]⟩,
   ⟨"Stack", .grid, (List.finRange 16).map fun slot => .blank (slotName slot) 3⟩]

/-- All fields, in order. -/
def fields (p : RegisterPane) : List Field := p.flatMap FieldGroup.fields

/-- The values that are shown, by name. -/
def values {τ : Type} (r : Registers) (c : Clock τ) : List (String × Int) :=
  r.named ++ [("DT", (c.delay.toNat : Int)), ("ST", (c.sound.toNat : Int))] ++
    (List.finRange 16).map fun slot => (slotName slot, r.slot slot)

/-- The names of the stack slots that are not in use. -/
def unusedSlots (r : Registers) : List String :=
  ((List.finRange 16).filter fun slot => r.sp ≤ slot.val).map slotName

/-- Write the values of a machine into the fields. -/
def update {τ : Type} (r : Registers) (c : Clock τ) (p : RegisterPane) : RegisterPane :=
  let values := values r c
  let unused := unusedSlots r
  p.map fun g =>
    { g with fields := g.fields.map fun f =>
        { f with
          text := match values.lookup f.name with
            | none => f.text
            | some value => Field.write f.width value
          lit := !unused.contains f.name } }

/-- What is written in the field with a name. -/
def text? (p : RegisterPane) (name : String) : Option String :=
  (p.fields.find? fun f => f.name == name).map Field.text

end RegisterPane

end Chip8
