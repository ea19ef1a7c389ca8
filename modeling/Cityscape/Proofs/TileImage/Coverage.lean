import Cityscape.Proofs.Image.Overlay
import Cityscape.Proofs.TileImage.Bounds

/-!
# How far a drawing reaches

The bounds of a tree are meant as the footprint of its drawing. They count the overlap of each sprite
in whole pixels; drawing adds up the overlaps of all sprites along a path in standard units, and
rounds only the sum. What rounding takes off the single overlaps is counted by `lost`, in sixteenths of
a pixel. The main statement, `draw?_changesOnly`, is that a drawing stays within the bounds except for
the whole pixels in what is lost: to the right of them because of overlaps in the east, and below the
cell because of overlaps in the north. Nothing is lost in cells that are a multiple of the standard
one, so there the bounds are the footprint (`Sized.changesOnly_bounds`); `draw?_leaves_bounds` has two
nested sprites that lose half a pixel each.

The core is `Plain.changesOnly`, by induction on a tree without switches and animations, for every
origin and fragment. Other trees are drawn as their last variants.
-/

namespace Cityscape.TileImage

open Image
open Raster (ChangesOnly)

/-! ## Lost fractions of pixels -/

/-- What rounding takes off the width and the height of bounds, in sixteenths of a pixel. -/
structure Loss where
  east : Nat
  north : Nat
deriving DecidableEq

namespace Loss

def none : Loss := ⟨0, 0⟩

/-- The loss along the worse of two paths, for each side. -/
def max (l m : Loss) : Loss := ⟨Nat.max l.east m.east, Nat.max l.north m.north⟩

end Loss

/-- What is lost when a length in standard units is rounded to pixels. -/
def restOfPixel (units cellPixels : Nat) : Nat := units * cellPixels % unitsPerCell

/-- What the bounds of a tree lose to rounding. -/
def lost : TileImage → Loss :=
  fold
    { source := fun _ _ => .none
      scaled := fun _ _ _ => .none
      sprite := fun window child l =>
        ⟨restOfPixel window.overlapEast child.size.width + l.east,
          restOfPixel window.overlapNorth child.size.width + l.north⟩
      layer := .max
      switch := fun cases => (Case.default? cases).getD .none
      animation := fun frames => (Frame.default? frames).getD .none }

/-- A sprite loses what is rounded off its overlaps, on top of what its child loses. -/
lemma lost_sprite {window child} :
    lost (.sprite window child) =
      ⟨restOfPixel window.overlapEast child.size.width + child.lost.east,
        restOfPixel window.overlapNorth child.size.width + child.lost.north⟩ := rfl

/-- On each side a layer loses what the part loses that loses more there. -/
lemma lost_layer {below above} :
    lost (.layer below above) = .max below.lost above.lost := rfl

/-- A tree loses what its last variant loses. -/
lemma Sized.lost_lastVariant {t s} (h : Sized t s) : t.lastVariant.lost = t.lost := by
  refine h.fold_lastVariant ⟨fun size => ?_, ⟨_, fun _ => rfl⟩, ⟨_, fun _ => rfl⟩⟩
  dsimp only
  rw [size]

/-- Nothing is lost in cells that are a multiple of the standard one. -/
lemma Plain.lost_eq_none {t side} (h : Plain t) (sized : Sized t (.square side))
    (whole : unitsPerCell ∣ side) : t.lost = .none := by
  induction h with
  | source => rfl
  | scaled => rfl
  | sprite _ ih =>
    cases sized with | sprite sized =>
    have rest (units : Nat) : restOfPixel units side = 0 :=
      Nat.mod_eq_zero_of_dvd (Nat.dvd_mul_left_of_dvd whole units)
    rw [lost_sprite, ih sized, sized.size_eq]
    simp only [Size.square, rest]
    rfl
  | layer _ _ ihb iha =>
    cases sized with | layer hb ha =>
    rw [lost_layer, ihb hb, iha ha]
    rfl

/-- A length that is rounded after it was added to others is rounded alone, and what it loses is added
to them. -/
lemma add_div_units (a units cellPixels l : Nat) :
    ((a + units) * cellPixels + l) / unitsPerCell =
      units * cellPixels / unitsPerCell +
        (a * cellPixels + (restOfPixel units cellPixels + l)) / unitsPerCell := by
  rw [Nat.add_mul, restOfPixel, unitsPerCell]
  omega

/-! ## Drawn areas -/

/-- How far a drawing of a fragment can reach, if the tree has the bounds `b`, loses `l` and has cells
`side` pixels wide. -/
def reach (side : Nat) (b : Size) (l : Loss) (origin : Int × Int) (f : Fragment) : Area where
  left := origin.1
  right := origin.1 + b.width + ((f.width * side + l.east) / unitsPerCell : Nat) - side
  top := origin.2 + side - b.height
  bottom := origin.2 + ((f.height * side + l.north) / unitsPerCell : Nat)

/-- With larger bounds and losses, a drawing can reach farther. -/
lemma reach_within {side b b' l l' origin f} (hb : b.width ≤ b'.width ∧ b.height ≤ b'.height)
    (hl : l.east ≤ l'.east ∧ l.north ≤ l'.north) :
    (reach side b l origin f).Within (reach side b' l' origin f) := by
  have east : (f.width * side + l.east) / unitsPerCell ≤
      (f.width * side + l'.east) / unitsPerCell :=
    Nat.div_le_div_right (Nat.add_le_add_left hl.1 _)
  have north : (f.height * side + l.north) / unitsPerCell ≤
      (f.height * side + l'.north) / unitsPerCell :=
    Nat.div_le_div_right (Nat.add_le_add_left hl.2 _)
  constructor <;> simp only [reach] <;> omega

/-- What the child of a sprite can be drawn on is in reach of the sprite. -/
lemma reach_sprite {side b l origin f} {window : Window} {inner : Fragment}
    (width : inner.width = f.width + window.overlapEast)
    (height : inner.height = f.height + window.overlapNorth) :
    (reach side b l (origin.1, origin.2 - ↑(window.overlapNorth * side / unitsPerCell)) inner).Within
      (reach side
        ⟨b.width + window.overlapEast * side / unitsPerCell,
          b.height + window.overlapNorth * side / unitsPerCell⟩
        ⟨restOfPixel window.overlapEast side + l.east,
          restOfPixel window.overlapNorth side + l.north⟩ origin f) := by
  have east := add_div_units f.width window.overlapEast side l.east
  have north := add_div_units f.height window.overlapNorth side l.north
  rw [← width] at east
  rw [← height] at north
  constructor <;> simp only [reach, east, north] <;> omega

/-- A scaled length is rounded down, and wraps around at 32 bits. -/
lemma scaleLength?_inv {n cellPixels m} (h : Fragment.scaleLength? n cellPixels = some m) :
    m = n * cellPixels / unitsPerCell % 4294967296 := by
  obtain ⟨product, fits, e⟩ := Option.bind_eq_some_iff.1 h
  obtain ⟨_, rfl⟩ := Bounds.fitNat?_eq_some_iff.1 fits
  exact (Option.some.inj e).symm

/-- A scaled length is at most the length, rounded down. -/
lemma scaleLength?_le {n cellPixels m} (h : Fragment.scaleLength? n cellPixels = some m) :
    m ≤ n * cellPixels / unitsPerCell := by
  rw [scaleLength?_inv h]
  exact Nat.mod_le _ _

/-- Drawing a sheet stays inside what a drawing of the fragment can reach. -/
lemma drawSheet_changesOnly {pixels basis target origin f canvas canvas'}
    (h : drawSheet pixels basis target origin f canvas = some canvas') :
    ChangesOnly (reach target (.square target) .none origin f) canvas canvas' := by
  obtain ⟨rect, _, h⟩ := Option.bind_eq_some_iff.1 h
  obtain ⟨drawn, hd, h⟩ := Option.bind_eq_some_iff.1 h
  obtain ⟨width, hw, hd⟩ := Option.bind_eq_some_iff.1 hd
  obtain ⟨height, hh, hd⟩ := Option.bind_eq_some_iff.1 hd
  obtain rfl := Option.some.inj hd
  have hw' := scaleLength?_le hw
  have hh' := scaleLength?_le hh
  refine (overlay?_changesOnly h).mono ?_
  constructor <;> simp only [reach, Size.square, Loss.none, Nat.add_zero] <;> omega

/-- A sprite takes the fragment from its child that is moved by the offset and extended by the
overlaps; the overlap in the north comes back as a coordinate. -/
lemma spriteFragment?_inv {window f inner} (h : spriteFragment? window f = some inner) :
    inner = ⟨f.x + window.x, f.y + window.y - Bounds.int32.wrap window.overlapNorth,
      f.width + window.overlapEast, f.height + window.overlapNorth⟩ := by
  obtain ⟨x, hx, h⟩ := Option.bind_eq_some_iff.1 h
  obtain ⟨row, hr, h⟩ := Option.bind_eq_some_iff.1 h
  obtain ⟨y, hy, h⟩ := Option.bind_eq_some_iff.1 h
  obtain ⟨width, hw, h⟩ := Option.bind_eq_some_iff.1 h
  obtain ⟨height, hh, h⟩ := Option.bind_eq_some_iff.1 h
  obtain ⟨_, rfl⟩ := Bounds.fit?_eq_some_iff.1 hx
  obtain ⟨_, rfl⟩ := Bounds.fit?_eq_some_iff.1 hr
  obtain ⟨_, rfl⟩ := Bounds.fit?_eq_some_iff.1 hy
  obtain ⟨_, rfl⟩ := Bounds.fitNat?_eq_some_iff.1 hw
  obtain ⟨_, rfl⟩ := Bounds.fitNat?_eq_some_iff.1 hh
  exact (Option.some.inj h).symm

/-- Drawing a sprite is drawing a larger fragment of its child, higher up. -/
lemma drawSprite_inv {window cellPixels} {child : Drawing} {origin f canvas canvas'}
    (h : drawSprite window cellPixels child origin f canvas = some canvas') :
    ∃ inner, spriteFragment? window f = some inner ∧
      child (origin.1, origin.2 - ↑(window.overlapNorth * cellPixels / unitsPerCell)) inner canvas =
        some canvas' := by
  obtain ⟨lift, hl, h⟩ := Option.bind_eq_some_iff.1 h
  obtain ⟨inner, hi, h⟩ := Option.bind_eq_some_iff.1 h
  obtain ⟨top, ht, h⟩ := Option.bind_eq_some_iff.1 h
  obtain ⟨_, rfl⟩ := Bounds.fit?_eq_some_iff.1 ht
  obtain ⟨_, rfl⟩ := toPixels?_eq_some_iff.1 hl
  exact ⟨inner, hi, h⟩

/-- A tree without switches and animations is drawn within its bounds, up to what they lose. -/
lemma Plain.changesOnly {t side} (h : Plain t) (sized : Sized t (.square side)) {b origin f canvas
    canvas'} (measured : t.bounds? = some b)
    (drawn : t.drawFragment? origin f canvas = some canvas') :
    ChangesOnly (reach side b t.lost origin f) canvas canvas' := by
  -- A sprite draws another fragment elsewhere, so these two are left open in the induction.
  induction h generalizing b origin f canvas canvas' with
  | source =>
    cases sized
    cases measured
    exact drawSheet_changesOnly drawn
  | scaled =>
    cases sized
    cases measured
    exact drawSheet_changesOnly drawn
  | @sprite window child _ ih =>
    cases sized with | sprite sized =>
    obtain ⟨inner, hi, drawn⟩ := drawSprite_inv drawn
    obtain rfl := spriteFragment?_inv hi
    obtain ⟨bc, mc, hb⟩ := Option.bind_eq_some_iff.1 measured
    obtain ⟨_, rfl⟩ := spriteBounds?_eq_some_iff.1 hb
    have size : child.size.width = side := congrArg Size.width sized.size_eq
    rw [size] at drawn
    rw [lost_sprite, size]
    exact (ih sized mc drawn).mono (reach_sprite rfl rfl)
  | layer _ _ ihb iha =>
    cases sized with | layer hb ha =>
    obtain ⟨middle, below, above⟩ := Option.bind_eq_some_iff.1 drawn
    obtain ⟨bb, mb, measured⟩ := Option.bind_eq_some_iff.1 measured
    obtain ⟨ba, ma, measured⟩ := Option.bind_eq_some_iff.1 measured
    obtain rfl := Option.some.inj measured
    refine .trans ((ihb hb mb below).mono ?_) ((iha ha ma above).mono ?_)
    · exact reach_within ⟨Nat.le_max_left _ _, Nat.le_max_left _ _⟩
        ⟨Nat.le_max_left _ _, Nat.le_max_left _ _⟩
    · exact reach_within ⟨Nat.le_max_right _ _, Nat.le_max_right _ _⟩
        ⟨Nat.le_max_right _ _, Nat.le_max_right _ _⟩

/-- Every sized tree has square cells. -/
lemma Sized.square {t s} (h : Sized t s) : ∃ side, s = .square side := by
  induction h with
  | source => exact ⟨_, rfl⟩
  | scaled => exact ⟨_, rfl⟩
  | sprite _ ih => exact ih
  | layer _ _ ih _ => exact ih
  | switch hd _ ih =>
    obtain ⟨c, hc, _⟩ := hd.default?
    exact ih c hc
  | animation timed _ ih =>
    obtain ⟨f, hf, _⟩ := timed.default?
    exact ih f hf

/-- Drawing a whole cell of a sized tree stays inside what its bounds and losses let it reach. -/
lemma Sized.changesOnly {t side} (h : Sized t (.square side)) {b origin canvas canvas'}
    (measured : t.bounds? = some b) (drawn : t.draw? origin canvas = some canvas') :
    ChangesOnly (reach side b t.lost origin .cell) canvas canvas' := by
  rw [← h.bounds?_lastVariant] at measured
  rw [draw?, ← h.drawFragment?_lastVariant] at drawn
  rw [← h.lost_lastVariant]
  exact h.resolves_lastVariant.plain.changesOnly h.lastVariant measured drawn

/-- In cells that are a multiple of the standard one, the bounds are the footprint. -/
lemma Sized.changesOnly_bounds {t side} (h : Sized t (.square side)) (whole : unitsPerCell ∣ side)
    {b x y canvas canvas'} (measured : t.bounds? = some b)
    (drawn : t.draw? (x, y) canvas = some canvas') :
    ChangesOnly ⟨x, x + b.width, y + side - b.height, y + side⟩ canvas canvas' := by
  have exact : t.lost = .none := by
    rw [← h.lost_lastVariant]
    exact h.resolves_lastVariant.plain.lost_eq_none h.lastVariant whole
  refine (h.changesOnly measured drawn).mono ?_
  rw [exact]
  constructor <;> simp only [reach, Fragment.cell, Loss.none, unitsPerCell] <;> omega

/-- Drawing a tree changes no pixel outside its bounds, but for the whole pixels that they lose to
rounding. -/
theorem draw?_changesOnly {t : TileImage} {b : Size} {x y : Int} {canvas canvas' : Raster}
    (h : Valid t) (measured : t.bounds? = some b) (drawn : t.draw? (x, y) canvas = some canvas') :
    ChangesOnly
      { left := x
        right := x + b.width + (t.lost.east / unitsPerCell : Nat)
        top := y + t.size.height - b.height
        bottom := y + t.size.height + (t.lost.north / unitsPerCell : Nat) } canvas canvas' := by
  obtain ⟨side, size⟩ := h.sized.square
  have sized := h.sized
  rw [size] at sized
  rw [size]
  refine (sized.changesOnly measured drawn).mono ?_
  constructor <;> simp only [reach, Fragment.cell, Size.square, unitsPerCell] <;> omega

namespace Halves

/-- A red sheet that is one column wider than its cell. -/
def sheet : TileImage := .source (.generate 9 8 fun _ _ => ⟨255, 0, 0, 255⟩) 8

/-- The window of a cell that overlaps its eastern neighbour by a unit, which is half a pixel. -/
def window : Window := ⟨0, 0, 0, 1⟩

/-- A whole pixel of overlap, by halves. -/
def image : TileImage := .sprite window (.sprite window sheet)

def canvas : Raster := .clear 12 10

/-- The image of the example is valid. -/
lemma valid : Valid image := .sprite (.sprite .source)

/-- Drawing the example changes a pixel beyond its bounds. -/
lemma drawn : ∃ canvas', image.draw? (0, 0) canvas = some canvas' ∧
    canvas'.pixel? 8 0 = some ⟨255, 0, 0, 255⟩ :=
  Option.bind_eq_some_iff.1 (by decide +kernel)

end Halves

/-- The two halves make a column outside the bounds, and no more. -/
theorem draw?_changesOnly_halves :
    Valid Halves.image ∧ Halves.image.bounds? = some ⟨8, 8⟩ ∧ Halves.image.lost = ⟨16, 0⟩ ∧
      ∃ canvas', Halves.image.draw? (0, 0) Halves.canvas = some canvas' ∧
        ChangesOnly ⟨0, 9, 0, 8⟩ Halves.canvas canvas' := by
  obtain ⟨canvas', drawn, _⟩ := Halves.drawn
  exact ⟨Halves.valid, rfl, rfl, canvas', drawn, draw?_changesOnly Halves.valid rfl drawn⟩

/-- Bounds are not the footprint of a drawing where overlaps of half a pixel are nested. -/
theorem draw?_leaves_bounds :
    Valid Halves.image ∧ Halves.image.bounds? = some ⟨8, 8⟩ ∧ Halves.image.size = .square 8 ∧
      ∃ canvas', Halves.image.draw? (0, 0) Halves.canvas = some canvas' ∧
        canvas'.pixel? 8 0 ≠ Halves.canvas.pixel? 8 0 ∧
        ¬ ChangesOnly ⟨0, 8, 0, 8⟩ Halves.canvas canvas' := by
  obtain ⟨canvas', drawn, red⟩ := Halves.drawn
  have changed : canvas'.pixel? 8 0 ≠ Halves.canvas.pixel? 8 0 := by
    rw [red]
    decide +kernel
  refine ⟨Halves.valid, rfl, rfl, canvas', drawn, changed, fun inside => ?_⟩
  exact absurd (inside.pixels 8 0 changed).2.1 (by decide)

end Cityscape.TileImage
