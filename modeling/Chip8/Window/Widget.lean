import Chip8.Window.Display
import Chip8.Window.Font

/-!
# Widgets

What a window is built of, as far as it does not change while the window is used: texts, style
sheets, and where things stand.  A toolkit that shows windows is given a `Layout` and builds it.
-/

namespace Chip8

/-- A short text with a style sheet of its own. -/
structure Label where
  text : String
  style : String := ""
  /-- Whether the text stands at the right end of its place. -/
  toRight : Bool := false
  deriving DecidableEq, Repr

/-- Free space around the inside of a widget. -/
structure Margins where
  left : Nat
  top : Nat
  right : Nat
  bottom : Nat
  deriving DecidableEq, Repr

/-- How wide a column is. -/
inductive ColumnWidth where
  /-- As wide as what stands in it. -/
  | contents
  /-- As wide as is left. -/
  | rest
  deriving DecidableEq, Repr

/-- A column of a table. -/
structure Column where
  title : String
  width : ColumnWidth
  deriving DecidableEq, Repr

/-- How a table looks.  Nothing in it can be edited, and it has no lines and no row numbers. -/
structure TableStyle where
  columns : List Column
  font : Font
  /-- Whether a click selects the whole row. -/
  selectsRows : Bool
  sheet : String
  deriving DecidableEq, Repr

/-- What stands in a box. -/
inductive BoxContents where
  /-- Names and values, one pair below the other; the names at the left end of their places and
  the pairs close together, or both as the toolkit has it. -/
  | form (close : Bool) (rows : List (Label × Label))
  /-- Values in rows of a number of columns. -/
  | grid (columns : Nat) (values : List Label)
  deriving DecidableEq, Repr

/-- A frame with a title around something. -/
structure Box where
  title : String
  sheet : String
  margins : Margins
  contents : BoxContents
  deriving DecidableEq, Repr

/-- A part of the window. -/
inductive Pane where
  /-- The picture of the machine, which takes up all the space that there is. -/
  | display
  /-- A table that fills the part. -/
  | table (style : TableStyle)
  /-- Boxes from the top, with free space below them if there are any. -/
  | boxes (sheet : String) (margins : Margins) (boxes : List Box)
  deriving DecidableEq, Repr

/-- A command in a menu or in a bar of buttons. -/
structure Button where
  text : String
  shortcut : Option String := none
  deriving DecidableEq, Repr

/-- A menu. -/
structure Menu where
  title : String
  buttons : List Button
  deriving DecidableEq, Repr

/-- Something in a bar of buttons. -/
inductive BarItem where
  | button (button : Button)
  | separator
  | label (label : Label)
  deriving DecidableEq, Repr

/-- A bar of buttons. -/
structure ButtonBar where
  title : String
  items : List BarItem
  deriving DecidableEq, Repr

/-- A side of the window. -/
inductive Side where
  | left
  | right
  deriving DecidableEq, Repr

/-- What stands at a side of the window. -/
inductive DockContents where
  /-- Parts with titles, of which one is seen at a time. -/
  | tabs (pages : List (String × Pane))
  | pane (pane : Pane)
  deriving DecidableEq, Repr

/-- A part of the window at one of its sides, which it cannot leave. -/
structure Dock where
  title : String
  side : Side
  contents : DockContents
  deriving DecidableEq, Repr

/-- A whole window. -/
structure Layout where
  title : String
  place : Rect
  sheet : String
  menus : List Menu
  bar : ButtonBar
  docks : List Dock
  center : Pane
  deriving DecidableEq, Repr

end Chip8
