import Chip8.Window.Appearance
import Chip8.Window.RegisterPane
import Chip8.Window.Widget

/-!
# The layout of the window

The parts of the window, with the texts that they show at the moment: the listing and the trace
behind one another at the left, the picture in the middle, and the registers at the right.
-/

namespace Chip8.Layout

/-- Two columns as wide as their contents and one for the rest. -/
def columns (first second third : String) : List Column :=
  [⟨first, .contents⟩, ⟨second, .contents⟩, ⟨third, .rest⟩]

/-- The part with the listing. -/
def listing (fonts : FontSet) : Pane :=
  .table ⟨columns "Address" "Bytes" "Mnemonic", fonts.monospaceFont 10, true, Appearance.listing⟩

/-- The part with the trace. -/
def trace (fonts : FontSet) : Pane :=
  .table ⟨columns "Address" "Opcode" "Description", fonts.monospaceFont 10, false,
    Appearance.trace⟩

/-- The label of a value. -/
def value (family : String) (f : Field) : Label :=
  ⟨f.text, Appearance.value family f.color, true⟩

/-- The box of a group of fields. -/
def box (family : String) (g : FieldGroup) : Box :=
  ⟨g.title, Appearance.box, ⟨10, 15, 10, 10⟩,
    match g.arrangement with
    | .form => .form true <| g.fields.map fun f =>
        (⟨f.name ++ ":", Appearance.registerName, false⟩, value family f)
    | .plainForm => .form false <| g.fields.map fun f =>
        (⟨f.name ++ ":", "", false⟩, value family f)
    | .grid => .grid 4 (g.fields.map (value family))⟩

/-- The part with the registers. -/
def registers (fonts : FontSet) (p : RegisterPane) : Pane :=
  .boxes Appearance.registers ⟨5, 5, 5, 5⟩ (p.map (box fonts.monospace))

/-- The menu bar. -/
def menuBar : List Menu :=
  [⟨"File", [⟨"Load ROM...", some "Ctrl+O"⟩, ⟨"Load System Config...", none⟩]⟩]

/-- The bar with the commands, the sign of the buzzer, and what the window is doing. -/
def commandBar (buzzing : Bool) (status : String) : ButtonBar :=
  ⟨"Main Toolbar",
    [.button ⟨"Run", none⟩, .button ⟨"Stop", none⟩, .button ⟨"Step", none⟩,
     .button ⟨"Reset", none⟩, .separator,
     .label ⟨"BUZZER", Appearance.buzzer buzzing, false⟩,
     .label ⟨status, Appearance.status, false⟩]⟩

/-- The window. -/
def window (fonts : FontSet) (p : RegisterPane) (buzzing : Bool) (status : String) : Layout :=
  { title := "CHIP-8 Tracer"
    place := ⟨100, 100, 1200, 700⟩
    sheet := Appearance.window fonts.monospace
    menus := menuBar
    bar := commandBar buzzing status
    docks :=
      [⟨"Navigation", .left, .tabs [("Code", listing fonts), ("Trace", trace fonts)]⟩,
       ⟨"Status Inspector", .right, .pane (registers fonts p)⟩]
    center := .display }

end Chip8.Layout
