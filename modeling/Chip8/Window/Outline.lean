import Chip8.Window.Widget

/-!
# Outlines

A window as it is built in a toolkit: for every widget the class that it is made of, what it is
told about itself, and what stands in it.  An `Outline` is such a description without types, to be
written out or sent elsewhere; `Outline.ofLayout` outlines a window and `Outline.ofPane` a part of
one.
-/

namespace Chip8

/-- A description made of texts, numbers and truth values. -/
inductive Outline where
  | none
  | flag (b : Bool)
  | number (n : Int)
  | text (s : String)
  | list (items : List Outline)
  | record (entries : List (String × Outline))
  deriving Inhabited

namespace Outline

/-- A widget: its class, what it is told about itself if it is told anything, and the rest. -/
def widget (kind : String) (told : List (String × List Outline))
    (rest : List (String × Outline)) : Outline :=
  let told := if told.isEmpty then []
    else [("props", record (told.map fun (name, arguments) => (name, list arguments)))]
  record (("type", text kind) :: told ++ rest)

/-- A text. -/
def ofLabel (l : Label) : Outline :=
  widget "QLabel" (if l.toRight then [("Alignment", [text "Qt.AlignRight"])] else [])
    [("text", text l.text), ("style", text l.style)]

/-- A command. -/
def ofButton (b : Button) : Outline :=
  widget "QAction" (b.shortcut.toList.map fun s => ("Shortcut", [text s])) [("text", text b.text)]

/-- Things that stand in cells, with free space around them. -/
def arranged (kind : String) (m : Margins) (told : List (String × List Outline))
    (items : List (List Nat × Outline)) : Outline :=
  widget kind (("ContentsMargins", [number m.left, number m.top, number m.right, number m.bottom])
      :: told)
    [("items", list (items.map fun (cell, item) =>
      list [list (cell.map fun (n : Nat) => number n), item]))]

/-- What stands in a box. -/
def ofContents (m : Margins) : BoxContents → Outline
  | .form close rows =>
    arranged "QFormLayout" m
      (if close then [("LabelAlignment", [text "Qt.AlignLeft"]), ("Spacing", [number 5])] else [])
      (rows.zipIdx.flatMap fun ((name, value), k) =>
        [([k, 0], ofLabel name), ([k, 1], ofLabel value)])
  | .grid columns values =>
    arranged "QGridLayout" m []
      (values.zipIdx.map fun (value, k) => ([k / columns, k % columns], ofLabel value))

/-- A box. -/
def ofBox (b : Box) : Outline :=
  widget "QGroupBox" [("StyleSheet", [text b.sheet])]
    [("title", text b.title), ("layout", ofContents b.margins b.contents)]

/-- How wide a column is. -/
def ofWidth : ColumnWidth → Outline
  | .contents => text "QHeaderView.ResizeToContents"
  | .rest => text "QHeaderView.Stretch"

/-- A table. -/
def ofTable (t : TableStyle) : Outline :=
  widget "QTableWidget"
    ([("ColumnCount", [number t.columns.length]),
      ("HorizontalHeaderLabels", [list (t.columns.map fun c => text c.title)]),
      ("EditTriggers", [text "QTableWidget.NoEditTriggers"]),
      ("Font", [list [text t.font.family, number t.font.size]]),
      ("ShowGrid", [flag false]),
      ("StyleSheet", [text t.sheet])] ++
      if t.selectsRows then [("SelectionBehavior", [text "QTableWidget.SelectRows"])] else [])
    [("header", list (t.columns.zipIdx.map fun (c, k) => list [number k, ofWidth c.width])),
     ("vertical", list [flag false])]

/-- A part of a window. -/
def ofPane : Pane → Outline
  | .display =>
    widget "QWidget" [("FocusPolicy", [text "Qt.NoFocus"]),
      ("SizePolicy", [text "QSizePolicy.Expanding", text "QSizePolicy.Expanding"])] []
  | .table t =>
    widget "QWidget" [] [("layout", arranged "QVBoxLayout" ⟨0, 0, 0, 0⟩ [] [([], ofTable t)])]
  | .boxes sheet margins boxes =>
    let items : List (List Nat × Outline) := boxes.map fun b => ([], ofBox b)
    let items := if items.isEmpty then [] else items ++ [([], none)]
    widget "QWidget" [("StyleSheet", [text sheet])]
      [("layout", arranged "QVBoxLayout" margins [] items)]

/-- A side of a window. -/
def ofSide : Side → Outline
  | .left => text "Qt.LeftDockWidgetArea"
  | .right => text "Qt.RightDockWidgetArea"

/-- What stands at a side. -/
def ofDockContents : DockContents → Outline
  | .pane p => ofPane p
  | .tabs pages =>
    widget "QTabWidget" []
      [("tabs", list (pages.map fun (title, p) => list [text title, ofPane p]))]

/-- A part at a side of a window. -/
def ofDock (d : Dock) : Outline :=
  list [ofSide d.side,
    widget "QDockWidget" [("AllowedAreas", [ofSide d.side])]
      [("title", text d.title), ("widget", ofDockContents d.contents)]]

/-- A menu, or the bar of menus. -/
def menu (title : String) (items : List Outline) : Outline :=
  widget "Menu" [] [("title", text title), ("items", list items)]

/-- Something in a bar of buttons. -/
def ofBarItem : BarItem → Outline
  | .button b => ofButton b
  | .separator => none
  | .label l => ofLabel l

/-- A bar of buttons. -/
def ofBar (b : ButtonBar) : Outline :=
  widget "QToolBar" [("FocusPolicy", [text "Qt.NoFocus"])]
    [("title", text b.title), ("items", list (b.items.map ofBarItem))]

/-- A window. -/
def ofLayout (l : Layout) : Outline :=
  widget "QMainWindow"
    [("WindowTitle", [text l.title]),
     ("Geometry", [l.place.x, l.place.y, l.place.width, l.place.height].map number),
     ("DockNestingEnabled", [flag true]), ("StyleSheet", [text l.sheet])]
    [("menus", menu "" (l.menus.map fun m => menu m.title (m.buttons.map ofButton))),
     ("toolbars", list [ofBar l.bar]), ("docks", list (l.docks.map ofDock)),
     ("central", ofPane l.center)]

end Outline

end Chip8
