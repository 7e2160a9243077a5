/-!
# The appearance of the window

The colours and style sheets of a window on a dark ground.
-/

namespace Chip8.Appearance

/-- The colours of the parts of widgets that have no style sheet. -/
def palette : List (String × String) :=
  [("Window", "#1d1d1d"), ("WindowText", "#e0e0e0"), ("Base", "#1e1e1e"),
   ("AlternateBase", "#353535"), ("Text", "#e0e0e0"), ("Button", "#353535"),
   ("ButtonText", "#e0e0e0"), ("Highlight", "#2a82da"), ("HighlightedText", "#000000")]

/-- A rule of a style sheet on one line. -/
def rule (selector body : String) : String := selector ++ " \x7b " ++ body ++ " \x7d"

/-- A rule of a style sheet with a line for every declaration. -/
def block (selector : String) (declarations : List String) : String :=
  "    " ++ selector ++ " \x7b\n" ++
    String.join (declarations.map fun d => "        " ++ d ++ "\n") ++ "    \x7d\n"

/-- The style of the whole window, whose text has one width. -/
def window (family : String) : String :=
  "\n" ++ String.join ([
    rule "QWidget" ("font-family: '" ++ family ++ "', monospace; font-size: 10pt;"),
    rule "QMainWindow, QToolBar" "background-color: #1D1D1D; border: none;",
    rule "QDockWidget::title"
      "text-align: left; background: #101010; padding: 4px; font-weight: bold;",
    rule "QTabWidget::pane" "border-top: 2px solid #2A82DA;",
    rule "QTabBar::tab" "background: #1E1E1E; padding: 8px 12px; min-width: 80px;",
    rule "QTabBar::tab:selected"
      "background: #101010; border: 1px solid #2A82DA; border-bottom-color: #101010;"].map
    fun r => "            " ++ r ++ "\n") ++ "        "

/-- The style of a box with a title in its frame. -/
def box : String :=
  "\n" ++
  block "QGroupBox" [
    "font-weight: bold;", "border: 1px solid #222;", "border-radius: 4px;", "margin-top: 20px;",
    "color: #EEE;", "background-color: #121212;"] ++
  block "QGroupBox::title" [
    "subcontrol-origin: margin;", "subcontrol-position: top left;", "padding: 0 5px;",
    "left: 10px;", "color: #00AAAA;"]

/-- The style of the listing. -/
def listing : String := "background-color: #101010; color: #BBBBBB; gridline-color: #303030;"

/-- The style of the trace. -/
def trace : String := "background-color: #101010; color: #BBBBBB;"

/-- The style of the ground on which the boxes of the registers stand. -/
def registers : String := "background-color: #121212; color: #BBBBBB;"

/-- The style of the name of a register. -/
def registerName : String := "font-weight: bold; color: #BBBBBB;"

/-- The style of a value, in a colour. -/
def value (family color : String) : String :=
  "font-family: '" ++ family ++ "', monospace; color: " ++ color ++ ";"

/-- The style of the sign that tells whether the buzzer sounds. -/
def buzzer : Bool → String
  | true => "background-color: #AA2222; color: #FFFFFF; padding: 2px 8px; font-weight: bold;"
  | false => "background-color: #1E1E1E; color: #555555; padding: 2px 8px;"

/-- The style of the text that tells what the window is doing. -/
def status : String := "padding: 0 10px; color: #AAAAAA;"

end Chip8.Appearance
