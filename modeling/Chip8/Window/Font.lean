/-!
# Fonts

Columns of digits are shown in a font whose characters all have one width.  `FontSet.monospace`
chooses its family: the first of a few well-known ones that the host has, and otherwise the one
that the host itself uses for such text.
-/

namespace Chip8

/-- The fonts of a host. -/
structure FontSet where
  /-- The families that are installed. -/
  families : List String
  /-- The family that the host uses for text of one width. -/
  fixed : String
  deriving DecidableEq, Repr

/-- A family in a size, in points. -/
structure Font where
  family : String
  size : Int
  deriving DecidableEq, Repr

namespace FontSet

/-- The families to choose from, the best one first. -/
def preferred : List String :=
  ["Consolas", "Menlo", "Monaco", "DejaVu Sans Mono", "Courier New"]

/-- The family for text of one width. -/
def monospace (f : FontSet) : String :=
  (preferred.find? fun family => f.families.contains family).getD f.fixed

/-- The font for text of one width, in a size. -/
def monospaceFont (f : FontSet) (size : Int) : Font := ⟨f.monospace, size⟩

end FontSet

end Chip8
