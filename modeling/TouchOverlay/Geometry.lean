import TouchOverlay.Numeric.Format

/-!
# Geometry

Three coordinate spaces occur. A `Placement` is a fraction of the surface, a `Point` or a `Rect` is
in pixels of the surface with the origin at the top left, and a local position is in pixels from
the top left corner of one control. All arithmetic is single precision, one rounding per operation.
-/

namespace TouchOverlay

/-- A position or a displacement in pixels. Its `==` compares numbers, so `0 == -0`. -/
structure Point where
  x : Float32
  y : Float32
deriving BEq, Inhabited

namespace Point

instance : Add Point := ⟨fun p q => ⟨p.x + q.x, p.y + q.y⟩⟩

instance : Sub Point := ⟨fun p q => ⟨p.x - q.x, p.y - q.y⟩⟩

/-- Both coordinates times a factor. -/
def scale (p : Point) (k : Float32) : Point := ⟨p.x * k, p.y * k⟩

/-- Distance from the origin: infinite if a coordinate is infinite, and otherwise the double
precision square root of the sum of squares, rounded to single precision. -/
def length (p : Point) : Float32 :=
  if p.x.isInf || p.y.isInf then Numeric.single false Numeric.binary32.infinityBits
  else
    let (x, y) := (p.x.widened, p.y.widened)
    (x * x + y * y).sqrt.narrowed

def distance (p q : Point) : Float32 := (p - q).length

end Point

/-- The size of a surface in pixels. -/
structure SurfaceSize where
  width : Float32
  height : Float32
deriving BEq, Inhabited

def SurfaceSize.center (s : SurfaceSize) : Point := ⟨s.width / 2, s.height / 2⟩

/-- A rectangle in pixels of the surface. -/
structure Rect where
  x : Float32
  y : Float32
  width : Float32
  height : Float32
deriving BEq, Inhabited

namespace Rect

/-- Whether a point lies in the rectangle, edges included. -/
def contains (r : Rect) (p : Point) : Bool :=
  r.x ≤ p.x && p.x ≤ r.x + r.width && r.y ≤ p.y && p.y ≤ r.y + r.height

def center (r : Rect) : Point := ⟨r.x + r.width / 2, r.y + r.height / 2⟩

def localCenter (r : Rect) : Point := ⟨r.width / 2, r.height / 2⟩

/-- A surface position in local coordinates. -/
def toLocal (r : Rect) (p : Point) : Point := ⟨p.x - r.x, p.y - r.y⟩

end Rect

/-- Where a control sits, as fractions of the width and height of the surface. -/
structure Placement where
  x : Float32
  y : Float32
  width : Float32
  height : Float32
deriving BEq, Inhabited

namespace Placement

/-- Whether every number is finite and the area is positive. -/
def isValid (g : Placement) : Bool :=
  g.x.isFinite && g.y.isFinite && g.width.isFinite && g.height.isFinite &&
    0 < g.width && 0 < g.height

/-- The rectangle the placement stands for on a surface of the given size. -/
def resolve (g : Placement) (s : SurfaceSize) : Rect :=
  ⟨g.x * s.width, g.y * s.height, g.width * s.width, g.height * s.height⟩

end Placement

/-- Pixels per device-independent unit. -/
structure Density where
  pixelsPerUnit : Float32 := 1
deriving BEq, Inhabited

/-- A length in device-independent units, in pixels. -/
def Density.toPixels (d : Density) (units : Float32) : Float32 := units * d.pixelsPerUnit

end TouchOverlay
