import Chip8.Screen

/-!
# The display

The picture of the machine, shown as large as fits.  `Display.target` is where on the display the
picture is drawn: in the middle, every pixel a square of the same whole number of points, and
never smaller than one point a pixel, even where that does not fit.
-/

namespace Chip8

/-- A width and a height. -/
structure Size where
  width : Int
  height : Int
  deriving DecidableEq, Repr

/-- The smallest size that is at least as wide and as high as both. -/
def Size.cover (a b : Size) : Size := ⟨max a.width b.width, max a.height b.height⟩

/-- A place and a size. -/
structure Rect where
  x : Int
  y : Int
  width : Int
  height : Int
  deriving DecidableEq, Repr

/-- The picture shown, the side of a pixel that was asked for, and the size. -/
structure Display where
  scale : Int
  size : Size
  picture : Bytes
  deriving DecidableEq

/-- One thing that is drawn. -/
inductive Stroke where
  /-- A rectangle in one colour. -/
  | fill (area : Rect) (color : String)
  /-- The picture, without softening its pixels. -/
  | picture (area : Rect)
  deriving DecidableEq, Repr

namespace Display

/-- The size at which a display comes up, if it may be that small. -/
def initialSize : Size := ⟨640, 480⟩

/-- The smallest size that a display may have at a scale. -/
def minimumFor (scale : Int) : Size := ⟨64 * scale, 32 * scale⟩

/-- The smallest size that the display may have. -/
def minimum (d : Display) : Size := minimumFor d.scale

/-- Change the size of the display, as far as it may be that small. -/
def resize (size : Size) (d : Display) : Display := { d with size := size.cover d.minimum }

/-- A black display at a scale. -/
def initial (scale : Int) : Display :=
  ⟨scale, initialSize.cover (minimumFor scale), (Screen.blank .white .black).rgb⟩

/-- Change the scale; the display grows if it has to, and does not shrink. -/
def setScale (scale : Int) (d : Display) : Display := { d with scale := scale }.resize d.size

/-- Show a picture, which has to have three bytes for every pixel. -/
def showPicture (picture : Bytes) (d : Display) : Except Fault Display :=
  if picture.size = 6144 then .ok { d with picture := picture }
  else .error (.pictureSize picture.size)

/-- The side of a pixel on the display. -/
def factor (d : Display) : Int := max 1 (min (d.size.width.fdiv 64) (d.size.height.fdiv 32))

/-- Where the picture is drawn. -/
def target (d : Display) : Rect :=
  let width := 64 * d.factor
  let height := 32 * d.factor
  ⟨(d.size.width - width).fdiv 2, (d.size.height - height).fdiv 2, width, height⟩

/-- What is drawn, in order: the ground and the picture on it. -/
def strokes (d : Display) : List Stroke :=
  [.fill ⟨0, 0, d.size.width, d.size.height⟩ "#101010", .picture d.target]

theorem minimum_le_resize (size : Size) (d : Display) :
    (d.resize size).minimum.width ≤ (d.resize size).size.width ∧
      (d.resize size).minimum.height ≤ (d.resize size).size.height := by
  simp only [resize, Size.cover, minimum]
  omega

end Display

end Chip8
