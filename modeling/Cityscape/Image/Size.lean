import Cityscape.Bounds

/-!
# Sizes and fragments

Sizes are reported in output pixels. Fragments, offsets and overlaps are given in standard units,
of which a grid cell is always sixteen wide; `scaled?` and `toPixels?` turn them into pixels. A
product or a sum that leaves its bounds has no result (`none`).
-/

namespace Cityscape.Image

/-- The number of standard units along a grid cell. -/
def unitsPerCell : Nat := 16

/-- A width and a height in pixels. -/
structure Size where
  width : Nat
  height : Nat
deriving Repr, DecidableEq

namespace Size

/-- The usual shape of a tile. -/
def square (side : Nat) : Size := ⟨side, side⟩

/-- The smallest size that holds both sizes. -/
def max (s t : Size) : Size := ⟨Nat.max s.width t.width, Nat.max s.height t.height⟩

/-- The form `WxH`. -/
def render (s : Size) : String := s!"{s.width}x{s.height}"

end Size

/-- A length in standard units as pixels, where a cell is `cellPixels` wide. -/
def toPixels? (units cellPixels : Nat) : Option Nat := do
  return (← Bounds.uint32.fitNat? (units * cellPixels)) / unitsPerCell

/-- A rectangle of pixels in an image. -/
structure PixelRect where
  x : Int
  y : Int
  width : Nat
  height : Nat
deriving Repr, DecidableEq

/-- A rectangle in standard units, relative to the origin of a tile. -/
structure Fragment where
  x : Int
  y : Int
  width : Nat
  height : Nat
deriving Repr, DecidableEq

namespace Fragment

/-- The standard cell at the origin. -/
def cell : Fragment := ⟨0, 0, unitsPerCell, unitsPerCell⟩

/-- A coordinate in pixels; what is not a whole pixel is dropped toward zero. -/
def scaleCoord (v : Int) (cellPixels : Nat) : Int := (v * cellPixels).tdiv unitsPerCell

/-- A length in pixels; the product has to fit a canvas position, and what does not fit a length
is taken modulo 2^32. -/
def scaleLength? (n cellPixels : Nat) : Option Nat := do
  let product ← Bounds.int64.fitNat? (n * cellPixels)
  return product / unitsPerCell % 4294967296

/-- The rectangle in an image whose cells are `cellPixels` wide. -/
def scaled? (f : Fragment) (cellPixels : Nat) : Option PixelRect := do
  let width ← scaleLength? f.width cellPixels
  let height ← scaleLength? f.height cellPixels
  return ⟨scaleCoord f.x cellPixels, scaleCoord f.y cellPixels, width, height⟩

end Fragment

end Cityscape.Image
