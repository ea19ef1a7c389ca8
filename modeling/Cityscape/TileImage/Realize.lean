import Cityscape.TileImage.Selection

/-!
# Realizing tile images

The tree that is drawn in a context: every switch and every animation is replaced by the variant it
shows there.
-/

namespace Cityscape.TileImage

/-- The tree without switches and animations that a context selects. -/
def realize (dc : DrawContext) : TileImage → TileImage :=
  fold
    { source := .source
      scaled := .scaled
      sprite := fun window _ child => .sprite window child
      layer := .layer
      switch := fun cases => (Case.selected? dc cases).getD (.switch [])
      animation := fun frames => (Frame.shown? dc.time frames).getD (.animation []) }

end Cityscape.TileImage
