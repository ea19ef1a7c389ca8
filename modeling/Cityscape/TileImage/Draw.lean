import Cityscape.Image.Overlay
import Cityscape.TileImage.Measure

/-!
# Drawing tile images

A fragment of a tree is drawn at an origin on a canvas. A sprite shifts and extends the fragment
before it hands it to its child, and lifts the origin by what it draws above the cell; a layer
draws both its images; a switch or an animation that has not been resolved draws its last variant.
A fragment that leaves a sheet, or a coordinate that leaves its bounds, is an error (`none`).
-/

namespace Cityscape.TileImage

open Image

/-- Draws a fragment at an origin on a canvas. -/
abbrev Drawing := Int × Int → Fragment → Raster → Option Raster

/-- The fragment that a sprite takes from its child. -/
def spriteFragment? (window : Window) (f : Fragment) : Option Fragment := do
  let x ← Bounds.int32.fit? (f.x + window.x)
  let row ← Bounds.int32.fit? (f.y + window.y)
  let y ← Bounds.int32.fit? (row - Bounds.int32.wrap window.overlapNorth)
  let width ← Bounds.uint32.fitNat? (f.width + window.overlapEast)
  let height ← Bounds.uint32.fitNat? (f.height + window.overlapNorth)
  return ⟨x, y, width, height⟩

/-- Draws a fragment of a sprite whose child has cells `cellPixels` wide. -/
def drawSprite (window : Window) (cellPixels : Nat) (child : Drawing) : Drawing :=
  fun origin f canvas => do
    let lift ← toPixels? window.overlapNorth cellPixels
    let inner ← spriteFragment? window f
    let top ← Bounds.int64.fit? (origin.2 - lift)
    child (origin.1, top) inner canvas

/-- Draws a fragment of a sheet with cells `basis` pixels wide, so that they become `target` pixels
wide. -/
def drawSheet (pixels : Raster) (basis target : Nat) : Drawing :=
  fun origin f canvas => do
    let rect ← f.scaled? basis
    let drawn ← f.scaled? target
    overlay? canvas origin pixels rect ⟨drawn.width, drawn.height⟩

/-- Draws a fragment of a tree. -/
def drawFragment? : TileImage → Drawing :=
  fold
    { source := fun pixels basis => drawSheet pixels basis basis
      scaled := fun pixels basis target => drawSheet pixels basis target
      sprite := fun window child draw => drawSprite window child.size.width draw
      layer := fun below above origin f canvas => do above origin f (← below origin f canvas)
      switch := fun cases => (Case.default? cases).getD fun _ _ canvas => some canvas
      animation := fun frames => (Frame.default? frames).getD fun _ _ canvas => some canvas }

/-- Draws the standard cell of a tree with its top left corner at a position. -/
def draw? (t : TileImage) (position : Int × Int) (canvas : Raster) : Option Raster :=
  t.drawFragment? position .cell canvas

end Cityscape.TileImage
