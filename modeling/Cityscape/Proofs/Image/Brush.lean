import Cityscape.Bounds
import Cityscape.Proofs.Image.Overlay

/-!
# Brushes

A `Brush` says what happens to each pixel of a canvas, given its displacement from the origin and its
value, and knows nothing else of the canvas. It also says how far above the origin the drawing that it
stands for comes, because an origin that leaves its bounds on the way is an error: this is all that
can go wrong when a brush is applied (`draw?`). Overlaying is the application of a brush
(`overlay?_eq`), and brushes can be applied one after the other and be moved (`draw?_andThen`,
`draw?_raised`). What a brush makes of a pixel depends on this pixel and its place only
(`pixel?_apply_congr`).
-/

namespace Cityscape.Image

open Bounds (int64)

/-- What is done to the pixels around an origin. -/
structure Brush where
  /-- The new value of a pixel, by its displacement from the origin and its value. -/
  paint : Int → Int → Pixel → Pixel
  /-- How far the origin is raised on the way, at the most. -/
  rise : Nat

namespace Brush

/-- The brush that changes nothing. -/
def idle : Brush := ⟨fun _ _ p => p, 0⟩

/-- One brush after the other. -/
def andThen (first second : Brush) : Brush where
  paint := fun dx dy p => second.paint dx dy (first.paint dx dy p)
  rise := max first.rise second.rise

/-- The brush that paints so much higher. -/
def raised (b : Brush) (lift : Nat) : Brush where
  paint := fun dx dy p => b.paint dx (dy + lift) p
  rise := lift + b.rise

/-- The brush that lays a stretched rectangle over a canvas. -/
def stretched (source : Raster) (rect : PixelRect) (target : Size) : Brush where
  paint := fun dx dy back =>
    match stretchedPixel? source rect target dx dy with
    | some front => front.over back
    | none => back
  rise := 0

/-- The canvas after a brush was applied at an origin. -/
def apply (b : Brush) (origin : Int × Int) (canvas : Raster) : Raster :=
  canvas.mapPixels fun x y p => b.paint (x - origin.1) (y - origin.2) p

/-- Whether an origin at a height can be raised as far as the brush does. -/
def Fits (b : Brush) (height : Int) : Prop := int64.Holds (height - b.rise)

instance (b : Brush) (height : Int) : Decidable (b.Fits height) :=
  inferInstanceAs (Decidable (int64.Holds _))

/-- Applies a brush at an origin that can be raised as far as the brush does. -/
def draw? (b : Brush) (origin : Int × Int) (canvas : Raster) : Option Raster :=
  if b.Fits origin.2 then some (b.apply origin canvas) else none

variable {b : Brush} {origin : Int × Int} {canvas : Raster}

/-- A brush that fits is applied. -/
lemma draw?_of_fits (fits : b.Fits origin.2) :
    b.draw? origin canvas = some (b.apply origin canvas) := if_pos fits

/-- A brush that does not fit is not applied. -/
lemma draw?_of_not_fits (out : ¬b.Fits origin.2) : b.draw? origin canvas = none := if_neg out

/-- Overlaying is the application of a brush, where the rectangle lies inside its source. -/
lemma overlay?_eq {source : Raster} {rect : PixelRect} {target : Size} :
    overlay? canvas origin source rect target =
      if rect.Inside source then some ((stretched source rect target).apply origin canvas)
      else none := rfl

/-- The idle brush changes nothing. -/
lemma apply_idle : idle.apply origin canvas = canvas := by
  obtain ⟨width, height, pixels⟩ := canvas
  simp only [apply, Raster.mapPixels, idle]
  congr 1
  exact Vector.mapIdx_eq_iff.2 fun _ _ => rfl

/-- Applying two brushes in one is applying the first and then the second. -/
lemma apply_andThen {first second : Brush} :
    (first.andThen second).apply origin canvas =
      second.apply origin (first.apply origin canvas) := by
  simp only [apply, Raster.mapPixels, Vector.mapIdx_mapIdx]
  rfl

/-- A raised brush is applied at a higher origin. -/
lemma apply_raised {lift : Nat} :
    (b.raised lift).apply origin canvas = b.apply (origin.1, origin.2 - lift) canvas := by
  have row (y : Nat) : (y : Int) - origin.2 + lift = y - (origin.2 - lift) := by omega
  simp only [apply, raised, row]

/-- A brush that does not rise fits at every height that can be an origin. -/
lemma fits_of_rise_eq_zero {height : Int} (level : b.rise = 0) (held : int64.Holds height) :
    b.Fits height := by
  rw [Fits, level]
  simpa using held

/-- Two brushes in one fit where each of them does. -/
lemma fits_andThen {first second : Brush} {height : Int} (held : int64.Holds height) :
    (first.andThen second).Fits height ↔ first.Fits height ∧ second.Fits height := by
  simp only [Fits, andThen, Bounds.Holds] at *
  omega

/-- A raised brush fits where the brush itself fits at the higher origin. -/
lemma fits_raised {lift : Nat} {height : Int} :
    (b.raised lift).Fits height ↔ b.Fits (height - lift) := by
  simp only [Fits, raised, Int.natCast_add, Int.sub_sub]

/-- An origin that can be raised far enough for a raised brush can be raised to where the brush is. -/
lemma Fits.holds_raised {lift : Nat} {height : Int} (fits : (b.raised lift).Fits height)
    (held : int64.Holds height) : int64.Holds (height - lift) := by
  simp only [Fits, raised, Bounds.Holds] at *
  omega

/-- Drawing with the idle brush changes nothing. -/
lemma draw?_idle (held : int64.Holds origin.2) : idle.draw? origin canvas = some canvas := by
  rw [draw?_of_fits (fits_of_rise_eq_zero rfl held), apply_idle]

/-- Drawing with two brushes in one is drawing with the first and then with the second. -/
lemma draw?_andThen {first second : Brush} (held : int64.Holds origin.2) :
    (first.andThen second).draw? origin canvas =
      (first.draw? origin canvas).bind (second.draw? origin) := by
  by_cases fits : first.Fits origin.2
  case neg =>
    rw [draw?_of_not_fits fits, draw?_of_not_fits fun h => fits ((fits_andThen held).1 h).1]
    rfl
  case pos =>
    rw [draw?_of_fits fits, Option.bind_some, draw?, draw?, apply_andThen]
    simp only [fits_andThen held, fits, true_and]

/-- Drawing with a raised brush is drawing at a higher origin. -/
lemma draw?_raised {lift : Nat} :
    (b.raised lift).draw? origin canvas = b.draw? (origin.1, origin.2 - lift) canvas := by
  rw [draw?, draw?, apply_raised]
  simp only [fits_raised]

/-- A pixel under a brush is the pixel that was there, painted by its place relative to the origin.
-/
lemma pixel?_apply {x y : Nat} : (b.apply origin canvas).pixel? x y =
    (canvas.pixel? x y).map (b.paint (x - origin.1) (y - origin.2)) := Raster.pixel?_mapPixels

/-- A brush makes the same of equal pixels in the same place, wherever the canvas ends and whatever
else is on it. -/
lemma pixel?_apply_congr {origin' : Int × Int} {canvas' : Raster} {x y x' y' : Nat}
    (column : (x : Int) - origin.1 = x' - origin'.1) (row : (y : Int) - origin.2 = y' - origin'.2)
    (same : canvas.pixel? x y = canvas'.pixel? x' y') :
    (b.apply origin canvas).pixel? x y = (b.apply origin' canvas').pixel? x' y' := by
  rw [pixel?_apply, pixel?_apply, column, row, same]

end Brush

end Cityscape.Image
