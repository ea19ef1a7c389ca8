import Cityscape.TileImage.Basic

/-!
# The text of tile images

A tree written as nested parentheses, each node by its kind and its parameters.
-/

namespace Cityscape.TileImage

open Image

/-- The dimensions of a sheet. -/
def renderSheet (pixels : Raster) : String := s!"{pixels.width}x{pixels.height}"

/-- The variants of a node, each in parentheses behind what selects it. -/
def renderVariants {α : Type} (label : α → String) (image : α → String) (variants : List α) :
    String :=
  variants.foldl (fun text v => text ++ " (" ++ label v ++ " " ++ image v ++ ")") ""

/-- The text of a tree. -/
def render : TileImage → String :=
  fold
    { source := fun pixels basis => s!"(source-image {renderSheet pixels} {basis})"
      scaled := fun pixels basis target =>
        s!"(scaled-source-image {renderSheet pixels} {basis} -> {target})"
      sprite := fun w _ child =>
        s!"(simple {child} offset {w.x},{w.y} overlap {w.overlapEast},{w.overlapNorth})"
      layer := fun below above => s!"(layered-image {below} {above})"
      switch := fun cases => "(switch" ++ renderVariants (·.condition.render) (·.image) cases ++ ")"
      animation := fun frames =>
        "(animation" ++ renderVariants (toString ·.duration) (·.image) frames ++ ")" }

end Cityscape.TileImage
