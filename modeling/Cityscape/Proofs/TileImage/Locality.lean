import Cityscape.Proofs.Image.Brush
import Cityscape.TileImage.Draw

/-!
# Drawing is local

A tree and a fragment of it determine a brush, or that the fragment cannot be drawn anywhere
(`brush?`). To draw the fragment is to apply this brush (`drawFragment?_eq_brush`). Drawing on a
`Surface` moves its origin for the child of a sprite and puts it back (`paint?`); it comes to the same
as drawing at an origin (`paint?_eq`). So whether a fragment can be drawn does not depend on the
surface, as long as no origin leaves its bounds, and what becomes of a pixel depends on nothing but
its place and its value (`paint?_local`).
-/

namespace Cityscape

open Bounds (int64)

variable {α : Type}

/-- A list of cases is empty, or the same case is the last whatever is done to the images. -/
lemma Case.default?_images (cs : List (Case α)) :
    cs = [] ∨ ∃ c ∈ cs, ∀ {β : Type} (f : α → β),
      Case.default? (cs.map (Case.map f)) = some (f c.image) := by
  cases e : cs.getLast? with
  | none => exact .inl (List.getLast?_eq_none_iff.1 e)
  | some c =>
    refine .inr ⟨c, List.mem_of_getLast? e, fun f => ?_⟩
    rw [Case.default?, List.getLast?_map, e]
    rfl

/-- A list of frames is empty, or the same frame is the last whatever is done to the images. -/
lemma Frame.default?_images (fs : List (Frame α)) :
    fs = [] ∨ ∃ c ∈ fs, ∀ {β : Type} (f : α → β),
      Frame.default? (fs.map (Frame.map f)) = some (f c.image) := by
  cases e : fs.getLast? with
  | none => exact .inl (List.getLast?_eq_none_iff.1 e)
  | some c =>
    refine .inr ⟨c, List.mem_of_getLast? e, fun f => ?_⟩
    rw [Frame.default?, List.getLast?_map, e]
    rfl

namespace Image

/-! ## Surfaces -/

/-- A canvas and the origin that is drawn at. -/
structure Surface where
  canvas : Raster
  origin : Int64 × Int64

namespace Surface

/-- The position of the origin. -/
def position (s : Surface) : Int × Int := (s.origin.1.toInt, s.origin.2.toInt)

/-- Draws with the origin moved, and moves it back. -/
def translated? (dx dy : Int) (draw : Surface → Option Surface) (s : Surface) : Option Surface := do
  let x ← int64.fit? (s.position.1 + dx)
  let y ← int64.fit? (s.position.2 + dy)
  let drawn ← draw { s with origin := (.ofInt x, .ofInt y) }
  return { drawn with origin := s.origin }

/-- Lays a stretched rectangle over the canvas, at the origin. -/
def blit? (source : Raster) (rect : PixelRect) (target : Size) (s : Surface) : Option Surface := do
  return { s with canvas := ← overlay? s.canvas s.position source rect target }

/-- The surface with another canvas in place of its own, if there is one. -/
def withCanvas? (s : Surface) (canvas : Option Raster) : Option Surface :=
  canvas.map fun canvas => { s with canvas }

/-- The origin and the dimensions of the canvas are kept. -/
structure KeepsFrame (before after : Surface) : Prop where
  origin : after.origin = before.origin
  width : after.canvas.width = before.canvas.width
  height : after.canvas.height = before.canvas.height

variable {s : Surface}

/-- Without another canvas there is no surface. -/
lemma withCanvas?_none : s.withCanvas? none = none := rfl

/-- With another canvas in place of its own, a surface keeps its origin. -/
lemma withCanvas?_some {canvas : Raster} : s.withCanvas? (some canvas) = some { s with canvas } := rfl

/-- The canvas of a surface with another canvas is that canvas. -/
lemma map_canvas_withCanvas? {canvas : Option Raster} :
    (s.withCanvas? canvas).map (·.canvas) = canvas := by
  cases canvas <;> rfl

/-- The value of a 64-bit integer is one it can hold. -/
lemma holds_toInt (n : Int64) : int64.Holds n.toInt := ⟨n.minValue_le_toInt, n.toInt_le⟩

/-- A 64-bit integer has the value it is made from, if that is one it can hold. -/
lemma toInt_ofInt {v : Int} (held : int64.Holds v) : (Int64.ofInt v).toInt = v :=
  Int64.toInt_ofInt_of_le held.1 (Int.lt_add_one_of_le held.2)

/-- To draw with the origin of a surface lifted is to draw at the higher origin. -/
lemma lifted_eq {paint : Surface → Option Surface} (draw : Int × Int → Raster → Option Raster)
    (same : ∀ s, paint s = s.withCanvas? (draw s.position s.canvas)) {lift : Nat} :
    s.translated? 0 (-lift) paint = s.withCanvas?
      ((int64.fit? (s.position.2 - lift)).bind fun top => draw (s.position.1, top) s.canvas) := by
  have column : int64.Holds s.position.1 := holds_toInt s.origin.1
  rw [translated?, Int.add_zero, Bounds.fit?_of_holds column, ← Int.sub_eq_add_neg]
  by_cases held : int64.Holds (s.position.2 - lift)
  case pos =>
    have moved : position ⟨s.canvas, .ofInt s.position.1, .ofInt (s.position.2 - lift)⟩ =
        (s.position.1, s.position.2 - lift) :=
      Prod.ext (toInt_ofInt column) (toInt_ofInt held)
    simp only [Bounds.fit?_of_holds held, Option.bind_eq_bind, Option.bind_some, same, moved]
    cases draw (s.position.1, s.position.2 - lift) s.canvas <;> rfl
  case neg =>
    rw [Bounds.fit?_eq_none_iff.2 held]
    rfl

end Surface

end Image

namespace TileImage

open Image

/-! ## Drawing on a surface -/

/-- Draws a fragment on a surface, at its origin. -/
abbrev Painting := Fragment → Surface → Option Surface

/-- Draws a fragment of a sheet. -/
def paintSheet? (pixels : Raster) (basis target : Nat) : Painting := fun f s => do
  let rect ← f.scaled? basis
  let drawn ← f.scaled? target
  s.blit? pixels rect ⟨drawn.width, drawn.height⟩

/-- Draws a fragment of a sprite: its child, with the origin lifted. -/
def paintSprite? (window : Window) (cellPixels : Nat) (child : Painting) : Painting := fun f s => do
  let lift ← toPixels? window.overlapNorth cellPixels
  let inner ← spriteFragment? window f
  s.translated? 0 (-lift) (child inner)

/-- Draws a fragment of a tree. -/
def paint? : TileImage → Painting :=
  fold
    { source := fun pixels basis => paintSheet? pixels basis basis
      scaled := fun pixels basis target => paintSheet? pixels basis target
      sprite := fun window child paint => paintSprite? window child.size.width paint
      layer := fun below above f s => (below f s).bind (above f)
      switch := fun cases => (Case.default? cases).getD fun _ s => some s
      animation := fun frames => (Frame.default? frames).getD fun _ s => some s }

/-- To paint a sheet is to draw it at the position of the surface. -/
lemma paintSheet?_eq {pixels : Raster} {basis target : Nat} {f : Fragment} {s : Surface} :
    paintSheet? pixels basis target f s =
      s.withCanvas? (drawSheet pixels basis target s.position f s.canvas) := by
  rw [paintSheet?, drawSheet]
  cases f.scaled? basis with
  | none => rfl
  | some rect =>
    cases f.scaled? target with
    | none => rfl
    | some drawn => exact Option.map_eq_bind.symm

/-- To paint a sprite is to draw it at the position of the surface, if that is so for its child. -/
lemma paintSprite?_eq {window : Window} {cellPixels : Nat} {paint : Painting} {draw : Drawing}
    (child : ∀ f s, paint f s = s.withCanvas? (draw s.position f s.canvas)) {f : Fragment}
    {s : Surface} :
    paintSprite? window cellPixels paint f s =
      s.withCanvas? (drawSprite window cellPixels draw s.position f s.canvas) := by
  rw [paintSprite?, drawSprite]
  cases toPixels? window.overlapNorth cellPixels with
  | none => rfl
  | some lift =>
    cases spriteFragment? window f with
    | none => rfl
    | some inner => exact Surface.lifted_eq (draw · inner) (child inner)

/-- To draw on a surface is to draw on its canvas, at its origin. -/
theorem paint?_eq (t : TileImage) (f : Fragment) (s : Surface) :
    t.paint? f s = s.withCanvas? (t.drawFragment? s.position f s.canvas) := by
  induction t using TileImage.induction generalizing f s with
  | onSource => exact paintSheet?_eq
  | onScaled => exact paintSheet?_eq
  | onSprite window child ih => exact paintSprite?_eq ih
  | onLayer below above ihb iha =>
    show (below.paint? f s).bind (above.paint? f) =
      s.withCanvas? ((below.drawFragment? s.position f s.canvas).bind
        (above.drawFragment? s.position f))
    rw [ihb]
    cases below.drawFragment? s.position f s.canvas with
    | none => rfl
    | some canvas => exact iha f { s with canvas }
  | onSwitch cs ih =>
    rcases Case.default?_images cs with rfl | ⟨c, hc, last⟩
    · rfl
    · simp only [paint?, drawFragment?, fold_switch, last, Option.getD_some]
      exact ih c hc f s
  | onAnimation fs ih =>
    rcases Frame.default?_images fs with rfl | ⟨c, hc, last⟩
    · rfl
    · simp only [paint?, drawFragment?, fold_animation, last, Option.getD_some]
      exact ih c hc f s

/-! ## The brush of a tree -/

/-- The brush of a fragment of a sheet. -/
def sheetBrush? (pixels : Raster) (basis target : Nat) (f : Fragment) : Option Brush := do
  let rect ← f.scaled? basis
  let drawn ← f.scaled? target
  if rect.Inside pixels then some (.stretched pixels rect ⟨drawn.width, drawn.height⟩) else none

/-- The brush of a fragment of a sprite. -/
def spriteBrush? (window : Window) (cellPixels : Nat) (child : Fragment → Option Brush)
    (f : Fragment) : Option Brush := do
  let lift ← toPixels? window.overlapNorth cellPixels
  let inner ← spriteFragment? window f
  return (← child inner).raised lift

/-- The brush of a fragment of a tree, if the fragment can be drawn. -/
def brush? : TileImage → Fragment → Option Brush :=
  fold
    { source := fun pixels basis => sheetBrush? pixels basis basis
      scaled := fun pixels basis target => sheetBrush? pixels basis target
      sprite := fun window child brush => spriteBrush? window child.size.width brush
      layer := fun below above f => (below f).bind fun first => (above f).map first.andThen
      switch := fun cases => (Case.default? cases).getD fun _ => some .idle
      animation := fun frames => (Frame.default? frames).getD fun _ => some .idle }

/-- Whether no origin that drawing a fragment of a tree comes through, from one at this height on,
leaves its bounds. -/
def OriginsFit (t : TileImage) (f : Fragment) (height : Int) : Prop :=
  ∀ b, t.brush? f = some b → b.Fits height

variable {origin : Int × Int} {canvas : Raster} {f : Fragment}

/-- To draw a sheet is to draw with its brush. -/
lemma drawSheet_eq {pixels : Raster} {basis target : Nat} (held : int64.Holds origin.2) :
    drawSheet pixels basis target origin f canvas =
      (sheetBrush? pixels basis target f).bind (·.draw? origin canvas) := by
  rw [drawSheet, sheetBrush?]
  cases f.scaled? basis with
  | none => rfl
  | some rect =>
    cases f.scaled? target with
    | none => rfl
    | some drawn =>
      simp only [Option.bind_eq_bind, Option.bind_some, Brush.overlay?_eq]
      split
      case isTrue => exact (Brush.draw?_of_fits (Brush.fits_of_rise_eq_zero rfl held)).symm
      case isFalse => rfl

/-- To draw a sprite is to draw with its brush, if that is so for its child. -/
lemma drawSprite_eq {window : Window} {cellPixels : Nat} {draw : Drawing}
    {brush : Fragment → Option Brush}
    (child : ∀ {origin} f, int64.Holds origin.2 →
      draw origin f canvas = (brush f).bind (·.draw? origin canvas))
    (held : int64.Holds origin.2) :
    drawSprite window cellPixels draw origin f canvas =
      (spriteBrush? window cellPixels brush f).bind (·.draw? origin canvas) := by
  rw [drawSprite, spriteBrush?]
  cases toPixels? window.overlapNorth cellPixels with
  | none => rfl
  | some lift =>
    cases spriteFragment? window f with
    | none => rfl
    | some inner =>
      simp only [Option.bind_eq_bind, Option.bind_some]
      by_cases top : int64.Holds (origin.2 - lift)
      case pos =>
        rw [Bounds.fit?_of_holds top, Option.bind_some, child inner top]
        cases brush inner with
        | none => rfl
        | some b => exact Brush.draw?_raised.symm
      case neg =>
        rw [Bounds.fit?_eq_none_iff.2 top]
        cases brush inner with
        | none => rfl
        | some b => exact (Brush.draw?_of_not_fits fun fits => top (fits.holds_raised held)).symm

/-- To draw a fragment is to apply its brush. -/
theorem drawFragment?_eq_brush (t : TileImage) (held : int64.Holds origin.2) :
    t.drawFragment? origin f canvas = (t.brush? f).bind (·.draw? origin canvas) := by
  induction t using TileImage.induction generalizing origin canvas f with
  | onSource => exact drawSheet_eq held
  | onScaled => exact drawSheet_eq held
  | onSprite window child ih => exact drawSprite_eq (fun _ => ih) held
  | onLayer below above ihb iha =>
    show (below.drawFragment? origin f canvas).bind (above.drawFragment? origin f) =
      ((below.brush? f).bind fun first => (above.brush? f).map first.andThen).bind _
    rw [ihb held]
    cases below.brush? f with
    | none => rfl
    | some first =>
      have rest (drawn : Raster) : above.drawFragment? origin f drawn = _ := iha held
      cases e : above.brush? f with
      | none =>
        simp only [e, Option.bind_none] at rest
        simp [funext rest]
      | some second =>
        simp only [e, Option.bind_some] at rest
        simp only [Option.bind_some, Option.map_some, Brush.draw?_andThen held, funext rest]
  | onSwitch cs ih =>
    rcases Case.default?_images cs with rfl | ⟨c, hc, last⟩
    · exact (Brush.draw?_idle held).symm
    · simp only [drawFragment?, brush?, fold_switch, last, Option.getD_some]
      exact ih c hc held
  | onAnimation fs ih =>
    rcases Frame.default?_images fs with rfl | ⟨c, hc, last⟩
    · exact (Brush.draw?_idle held).symm
    · simp only [drawFragment?, brush?, fold_animation, last, Option.getD_some]
      exact ih c hc held

/-- To draw on a surface is to apply a brush to its canvas, as long as the origin stays within its
bounds. -/
lemma paint?_eq_brush (t : TileImage) {s : Surface} (fits : t.OriginsFit f s.position.2) :
    t.paint? f s = s.withCanvas? ((t.brush? f).map (·.apply s.position s.canvas)) := by
  rw [paint?_eq, drawFragment?_eq_brush t (Surface.holds_toInt s.origin.2)]
  cases e : t.brush? f with
  | none => rfl
  | some b => rw [Option.bind_some, Brush.draw?_of_fits (fits b e), Option.map_some]

/-- On a surface, a fragment is drawn on the canvas, at the origin. Whether it can be drawn does not
depend on the surface. The surface keeps its origin and its dimensions. A pixel becomes the same on two
surfaces if it was the same and lies in the same place as seen from the origin, wherever the surfaces
end. -/
theorem paint?_local (t : TileImage) (f : Fragment) {s u : Surface}
    (hs : t.OriginsFit f s.position.2) (hu : t.OriginsFit f u.position.2) :
    (t.paint? f s).map (·.canvas) = t.drawFragment? s.position f s.canvas ∧
    (t.paint? f s = none ↔ t.paint? f u = none) ∧
    ∀ s' u', t.paint? f s = some s' → t.paint? f u = some u' →
      s.KeepsFrame s' ∧ u.KeepsFrame u' ∧
      ∀ x y x' y' : Nat,
        (x : Int) - s.position.1 = x' - u.position.1 →
        (y : Int) - s.position.2 = y' - u.position.2 →
        s.canvas.pixel? x y = u.canvas.pixel? x' y' →
        s'.canvas.pixel? x y = u'.canvas.pixel? x' y' := by
  refine ⟨by rw [paint?_eq, Surface.map_canvas_withCanvas?], ?_⟩
  rw [paint?_eq_brush t hs, paint?_eq_brush t hu]
  cases t.brush? f with
  | none =>
    simp only [Option.map_none, Surface.withCanvas?_none, true_and]
    exact fun _ _ h => nomatch h
  | some b =>
    simp only [Option.map_some, Surface.withCanvas?_some, Option.some.injEq]
    refine ⟨⟨nofun, nofun⟩, ?_⟩
    rintro _ _ rfl rfl
    refine ⟨⟨rfl, rfl, rfl⟩, ⟨rfl, rfl, rfl⟩, fun x y x' y' column row same => ?_⟩
    exact Brush.pixel?_apply_congr column row same

namespace Cottage

def green : Pixel := ⟨0, 255, 0, 255⟩

def red : Pixel := ⟨255, 0, 0, 255⟩

/-- A roof of one row of pixels, which sticks out above the cell. -/
def roof : TileImage :=
  .sprite ⟨0, 8, 8, 0⟩ (.source (.generate 2 3 fun _ y => if y = 0 then red else .clear) 2)

def image : TileImage := .layer (.source (.generate 2 2 fun _ _ => green) 2) roof

/-- A surface with room for the cottage. -/
def wide : Surface := ⟨.clear 4 4, 1, 2⟩

/-- A surface that the western half of the cottage falls off. -/
def narrow : Surface := ⟨.clear 1 2, -1, 1⟩

end Cottage

/-- What is left of the cottage on the narrow surface looks as on the wide one. -/
theorem paint?_local_cottage :
    Cottage.image.OriginsFit .cell Cottage.wide.position.2 ∧
      Cottage.image.OriginsFit .cell Cottage.narrow.position.2 ∧
      ∃ drawn clipped, Cottage.image.paint? .cell Cottage.wide = some drawn ∧
        Cottage.image.paint? .cell Cottage.narrow = some clipped ∧
        Cottage.narrow.KeepsFrame clipped ∧
        drawn.canvas.pixel? 2 1 = some Cottage.red ∧
        clipped.canvas.pixel? 0 0 = some Cottage.red := by
  have fits (height : Int) (held : int64.Holds (height - 1)) :
      Cottage.image.OriginsFit .cell height := by
    rintro b ⟨⟩
    exact held
  have wide := fits Cottage.wide.position.2 (by decide)
  have narrow := fits Cottage.narrow.position.2 (by decide)
  obtain ⟨-, draws, same⟩ := paint?_local Cottage.image .cell wide narrow
  obtain ⟨drawn, hd, red⟩ : ∃ drawn, Cottage.image.paint? .cell Cottage.wide = some drawn ∧
      drawn.canvas.pixel? 2 1 = some Cottage.red := Option.bind_eq_some_iff.1 (by decide +kernel)
  obtain ⟨clipped, hc⟩ : ∃ clipped, Cottage.image.paint? .cell Cottage.narrow = some clipped :=
    Option.ne_none_iff_exists'.1 fun h => by rw [draws.2 h] at hd; cases hd
  obtain ⟨_, frame, pixels⟩ := same drawn clipped hd hc
  refine ⟨wide, narrow, drawn, clipped, hd, hc, frame, red, ?_⟩
  exact (pixels 2 1 0 0 (by decide) (by decide) (by decide +kernel)).symm.trans red

end TileImage

end Cityscape
