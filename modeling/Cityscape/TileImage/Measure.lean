import Cityscape.Image.Size
import Cityscape.TileImage.Selection

/-!
# Sizes and bounds of tile images

The size of an image is the distance between tiles when it is laid on the grid; its bounds also
count what a sprite draws beyond its cell. A switch or an animation is measured by its last
variant.
-/

namespace Cityscape.TileImage

open Image

/-- The distance between adjacent tiles, in pixels. -/
def size : TileImage → Size :=
  fold
    { source := fun _ basis => .square basis
      scaled := fun _ _ target => .square target
      sprite := fun _ _ child => child
      layer := fun below _ => below
      switch := fun cases => (Case.default? cases).getD (.square 0)
      animation := fun frames => (Frame.default? frames).getD (.square 0) }

/-- The bounds of a sprite whose child has the bounds `b` and cells `cellPixels` wide. -/
def spriteBounds? (window : Window) (cellPixels : Nat) (b : Size) : Option Size :=
  if window.overlapNorth = 0 ∧ window.overlapEast = 0 then some b
  else do
    let east ← toPixels? window.overlapEast cellPixels
    let width ← Bounds.uint32.fitNat? (b.width + east)
    let north ← toPixels? window.overlapNorth cellPixels
    let height ← Bounds.uint32.fitNat? (b.height + north)
    return ⟨width, height⟩

/-- The footprint in pixels; `none` if it does not fit. -/
def bounds? : TileImage → Option Size :=
  fold
    { source := fun _ basis => some (.square basis)
      scaled := fun _ _ target => some (.square target)
      sprite := fun window child b => do spriteBounds? window child.size.width (← b)
      layer := fun below above => do return (← below).max (← above)
      switch := fun cases => (Case.default? cases).getD (some (.square 0))
      animation := fun frames => (Frame.default? frames).getD (some (.square 0)) }

end Cityscape.TileImage
