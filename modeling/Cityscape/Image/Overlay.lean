import Cityscape.Image.Raster
import Cityscape.Image.Size

/-!
# Overlaying images

Copying a rectangle of one image onto a canvas: the rectangle is stretched by taking the nearest
source pixel, laid down at an origin, and composited over what is there. Channels are composited
as fractions in 32-bit floating point, each operation rounded. What falls off the canvas is
dropped; a rectangle that is not inside its source is an error (`none`).
-/

namespace Cityscape.Image

/-- A channel as a fraction. -/
def fraction (channel : UInt8) : Float32 := channel.toFloat32 / 255

/-- A fraction as a channel, the rest dropped. -/
def ofFraction (f : Float32) : UInt8 := (255 * f).toUInt8

/-- `front` laid over `back`. -/
def Pixel.over (front back : Pixel) : Pixel :=
  if front.a = 0 then back
  else if front.a = 255 then front
  else
    let fa := fraction front.a
    let ba := fraction back.a
    let alpha := (ba + fa) - ba * fa
    let mix (f b : UInt8) : UInt8 :=
      ofFraction ((fraction f * fa + (fraction b * ba) * (1 - fa)) / alpha)
    ⟨mix front.r back.r, mix front.g back.g, mix front.b back.b, ofFraction alpha⟩

/-- The position, of `source` many, that the position `i` of `target` many is copied from: the
nearest one, or the same one where nothing is stretched. -/
def samplePosition (source target i : Nat) : Nat :=
  if source = target then i
  else
    let ratio := source.toFloat32 / target.toFloat32
    min ((i.toFloat32 + 0.5) * ratio).toUInt64.toNat (source - 1)

/-- Whether a rectangle lies inside an image. -/
def PixelRect.Inside (rect : PixelRect) (image : Raster) : Prop :=
  0 ≤ rect.x ∧ 0 ≤ rect.y ∧ rect.x + rect.width ≤ image.width ∧ rect.y + rect.height ≤ image.height

instance (rect : PixelRect) (image : Raster) : Decidable (rect.Inside image) :=
  inferInstanceAs (Decidable (_ ∧ _ ∧ _ ∧ _))

/-- The pixel of a stretched rectangle that comes to lie at a displacement from its top left
corner; `none` outside the rectangle. -/
def stretchedPixel? (source : Raster) (rect : PixelRect) (target : Size) (dx dy : Int) :
    Option Pixel :=
  if 0 ≤ dx ∧ dx < target.width ∧ 0 ≤ dy ∧ dy < target.height
      ∧ 0 < rect.width ∧ 0 < rect.height then
    source.pixel? (rect.x.toNat + samplePosition rect.width target.width dx.toNat)
      (rect.y.toNat + samplePosition rect.height target.height dy.toNat)
  else none

/-- The canvas with a rectangle of `source`, stretched to `target`, laid over it at an origin. -/
def overlay? (canvas : Raster) (origin : Int × Int) (source : Raster) (rect : PixelRect)
    (target : Size) : Option Raster :=
  if rect.Inside source then
    some <| canvas.mapPixels fun x y back =>
      match stretchedPixel? source rect target (x - origin.1) (y - origin.2) with
      | some front => front.over back
      | none => back
  else none

end Cityscape.Image
