/-!
# Rasters

Rectangular images of pixels with four channels.
-/

namespace Cityscape.Image

/-- Red, green, blue and opacity. -/
structure Pixel where
  r : UInt8
  g : UInt8
  b : UInt8
  a : UInt8
deriving Repr, DecidableEq

/-- The fully transparent pixel of an empty canvas. -/
def Pixel.clear : Pixel := ⟨0, 0, 0, 0⟩

/-- An image, stored row by row. -/
structure Raster where
  width : Nat
  height : Nat
  pixels : Vector Pixel (width * height)
deriving DecidableEq

namespace Raster

/-- The image whose pixels are given by column and row. -/
def generate (width height : Nat) (pixel : Nat → Nat → Pixel) : Raster :=
  ⟨width, height, Vector.ofFn fun i => pixel (i.val % width) (i.val / width)⟩

/-- A fully transparent image. -/
def clear (width height : Nat) : Raster := ⟨width, height, Vector.replicate _ Pixel.clear⟩

/-- The pixel of a column and row. -/
def pixel? (image : Raster) (x y : Nat) : Option Pixel :=
  if x < image.width then image.pixels[y * image.width + x]? else none

/-- The image with every pixel replaced, given its column, its row and its value. -/
def mapPixels (image : Raster) (f : Nat → Nat → Pixel → Pixel) : Raster :=
  ⟨image.width, image.height,
    image.pixels.mapIdx fun i p => f (i % image.width) (i / image.width) p⟩

/-- The pixels, row by row. -/
def rows (image : Raster) : List (List Pixel) :=
  (List.range image.height).map fun y =>
    (List.range image.width).filterMap fun x => image.pixel? x y

end Raster

end Cityscape.Image
