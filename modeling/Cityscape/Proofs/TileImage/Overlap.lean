import Cityscape.Proofs.TileImage.Coverage

/-!
# The own cell of a sprite

An overlap moves the crop window of a sprite up, and the origin with it, so that the cell itself shows
what it would show without an overlap. The origin moves by the whole pixels in the overlap. The crop
window is rounded after the offset and the overlap were put together, so the two can differ: by
`Window.slip`, a row at the most (`Window.slip_bounds`) and none where cells are a multiple of the
standard one (`Window.slip_eq_zero`). `draw?_sprite_ownCell` says for sprites over sheets that the
overlap does nothing else to the cell; `draw?_sprite_slips` has a sprite of which the cell slips.

What a drawing leaves in a rectangle is said by `Shows`: the canvas with a rectangle of a sheet laid
over it, pixel by pixel.
-/

namespace Cityscape

namespace Image

/-- Inside its dimensions an image has every pixel. -/
lemma Raster.exists_pixel? {image : Raster} {x y : Nat} (hx : x < image.width)
    (hy : y < image.height) : ∃ p, image.pixel? x y = some p := by
  have inside : y * image.width + x < image.width * image.height :=
    calc y * image.width + x < y * image.width + image.width := Nat.add_lt_add_left hx _
      _ = image.width * (y + 1) := by rw [Nat.mul_succ, Nat.mul_comm]
      _ ≤ image.width * image.height := Nat.mul_le_mul_left _ hy
  rw [Raster.pixel?, if_pos hx]
  exact ⟨_, Vector.getElem?_eq_getElem inside⟩

/-- A rectangle of a sheet was laid over a canvas, with its top left corner at an origin, and nothing
over it. -/
structure Shows (sheet : Raster) (rect : PixelRect) (origin : Int × Int) (before after : Raster) :
    Prop where
  inside : rect.Inside sheet
  pixels : ∀ i < rect.width, ∀ j < rect.height, ∃ front,
    sheet.pixel? (rect.x + i).toNat (rect.y + j).toNat = some front ∧
      ∀ x y : Nat, (x : Int) = origin.1 + i → (y : Int) = origin.2 + j →
        after.pixel? x y = (before.pixel? x y).map front.over

namespace Shows

variable {sheet : Raster} {rect : PixelRect} {x y : Int} {before after after' : Raster}

/-- A rectangle that is not stretched is shown as it is. -/
lemma of_overlay? {origin : Int × Int}
    (h : overlay? before origin sheet rect ⟨rect.width, rect.height⟩ = some after) :
    Shows sheet rect origin before after := by
  rw [overlay?] at h
  split at h
  case isFalse => cases h
  case isTrue inside =>
    obtain rfl := Option.some.inj h
    refine ⟨inside, fun i hi j hj => ?_⟩
    obtain ⟨west, north, east, south⟩ := inside
    obtain ⟨front, shown⟩ : ∃ front,
        sheet.pixel? (rect.x + i).toNat (rect.y + j).toNat = some front :=
      Raster.exists_pixel? (by omega) (by omega)
    refine ⟨front, shown, fun x y hx hy => ?_⟩
    have column : (x : Int) - origin.1 = i := by omega
    have row : (y : Int) - origin.2 = j := by omega
    have atColumn : rect.x.toNat + i = (rect.x + i).toNat := by omega
    have atRow : rect.y.toNat + j = (rect.y + j).toNat := by omega
    have stretched : stretchedPixel? sheet rect ⟨rect.width, rect.height⟩ i j = some front := by
      rw [stretchedPixel?, if_pos (by dsimp only; omega)]
      simp only [samplePosition, ↓reduceIte, Int.toNat_natCast, atColumn, atRow, shown]
    rw [Raster.pixel?_mapPixels, column, row, stretched]

/-- The lower left part of what is shown. -/
lemma lowerLeft {lift width height : Nat} (h : Shows sheet rect (x, y - lift) before after)
    (hw : width ≤ rect.width) (hh : lift + height ≤ rect.height) :
    Shows sheet ⟨rect.x, rect.y + lift, width, height⟩ (x, y) before after where
  inside := by
    obtain ⟨west, north, east, south⟩ := h.inside
    simp only [PixelRect.Inside]
    omega
  pixels := by
    intro i hi j hj
    dsimp only at hi hj ⊢
    obtain ⟨front, shown, laid⟩ := h.pixels i (by omega) (lift + j) (by omega)
    rw [Int.natCast_add, ← Int.add_assoc] at shown
    exact ⟨front, shown, fun x' y' hx hy => laid x' y' hx (by dsimp only; omega)⟩

/-- The same rectangle makes the same of a canvas. -/
lemma unique (h : Shows sheet rect (x, y) before after) (h' : Shows sheet rect (x, y) before after')
    {x' y' : Nat} (covered : Area.Covers ⟨x, x + rect.width, y, y + rect.height⟩ x' y') :
    after.pixel? x' y' = after'.pixel? x' y' := by
  obtain ⟨west, east, north, south⟩ := covered
  dsimp only at west east north south
  have column : ((x' - x).toNat : Int) = x' - x := Int.toNat_of_nonneg (by omega)
  have row : ((y' - y).toNat : Int) = y' - y := Int.toNat_of_nonneg (by omega)
  obtain ⟨front, shown, laid⟩ := h.pixels (x' - x).toNat (by omega) (y' - y).toNat (by omega)
  obtain ⟨front', shown', laid'⟩ := h'.pixels (x' - x).toNat (by omega) (y' - y).toNat (by omega)
  obtain rfl := Option.some.inj (shown.symm.trans shown')
  rw [laid x' y' (by dsimp only; omega) (by dsimp only; omega),
    laid' x' y' (by dsimp only; omega) (by dsimp only; omega)]

end Shows

end Image

open Image
open Fragment (scaleCoord)
open TileImage (restOfPixel)

namespace Window

/-- The window of the cell alone. -/
def withoutOverlap (window : Window) : Window := { window with overlapNorth := 0, overlapEast := 0 }

/-- Whether the overlap in the north is kept as a coordinate, and the extended cell as lengths in
pixels. -/
structure InRange (window : Window) (cellPixels : Nat) : Prop where
  coordinate : Bounds.int32.Holds window.overlapNorth
  width : Bounds.uint32.Holds ↑(cellPixels + window.overlapEast * cellPixels / unitsPerCell)
  height : Bounds.uint32.Holds ↑(cellPixels + window.overlapNorth * cellPixels / unitsPerCell)

/-- By how many rows the crop window of the cell slips down because offset and overlap are rounded
together. -/
def slip (window : Window) (cellPixels : Nat) : Int :=
  scaleCoord (window.y - window.overlapNorth) cellPixels +
    ↑(window.overlapNorth * cellPixels / unitsPerCell) - scaleCoord window.y cellPixels

/-- The square of a sheet that belongs to the cell, so many rows below where the offset puts it. -/
def ownCell (window : Window) (cellPixels : Nat) (rows : Int) : PixelRect :=
  ⟨scaleCoord window.x cellPixels, scaleCoord window.y cellPixels + rows, cellPixels, cellPixels⟩

/-- Rounding a difference in two parts is off by one at most, in either direction. -/
lemma tdiv_sub_add_div (p : Int) (q : Nat) :
    -1 ≤ (p - q).tdiv 16 + ↑(q / 16) - p.tdiv 16 ∧ (p - q).tdiv 16 + ↑(q / 16) - p.tdiv 16 ≤ 1 := by
  rw [Int.tdiv_eq_ediv, Int.tdiv_eq_ediv, show Int.sign 16 = 1 from rfl]
  split <;> split <;> omega

variable {window : Window} {cellPixels : Nat}

/-- The slip is what becomes of the offset and the overlap, rounded together and apart. -/
lemma slip_eq : window.slip cellPixels =
    (window.y * cellPixels - ↑(window.overlapNorth * cellPixels)).tdiv unitsPerCell +
      ↑(window.overlapNorth * cellPixels / unitsPerCell) -
      (window.y * cellPixels).tdiv unitsPerCell := by
  rw [slip, scaleCoord, scaleCoord, Int.sub_mul, Int.natCast_mul]

/-- The own cell slips by no more than a row. -/
lemma slip_bounds : -1 ≤ window.slip cellPixels ∧ window.slip cellPixels ≤ 1 := by
  rw [slip_eq]
  exact tdiv_sub_add_div _ _

/-- A crop window that begins on the sheet slips up if the overlap ends with a larger fraction of a
pixel than the offset. -/
lemma slip_of_le (below : window.overlapNorth ≤ window.y) :
    window.slip cellPixels =
      if window.y * cellPixels % unitsPerCell < restOfPixel window.overlapNorth cellPixels then -1
      else 0 := by
  have le : (window.overlapNorth * cellPixels : Nat) ≤ window.y * cellPixels := by
    rw [Int.natCast_mul]
    exact Int.mul_le_mul_of_nonneg_right below (Int.natCast_nonneg _)
  rw [slip_eq, restOfPixel, Int.tdiv_eq_ediv_of_nonneg (by omega),
    Int.tdiv_eq_ediv_of_nonneg (by omega), unitsPerCell]
  split <;> omega

/-- Nothing slips where cells are a multiple of the standard one. -/
lemma slip_eq_zero (whole : unitsPerCell ∣ cellPixels) : window.slip cellPixels = 0 := by
  obtain ⟨k, rfl⟩ := whole
  have exact (v : Int) : scaleCoord v (unitsPerCell * k) = v * k := by
    rw [scaleCoord, Int.natCast_mul, Int.mul_left_comm, Int.mul_tdiv_cancel_left _ (by decide)]
  rw [slip, exact, exact, Nat.mul_left_comm, Nat.mul_div_cancel_left _ (by decide),
    Int.natCast_mul, Int.sub_mul]
  omega

/-- Without an overlap nothing slips. -/
lemma slip_withoutOverlap : window.withoutOverlap.slip cellPixels = 0 := by
  rw [slip_eq, withoutOverlap, Nat.zero_mul]
  simp

/-- The cell alone is in range with its overlaps. -/
lemma InRange.withoutOverlap (h : window.InRange cellPixels) :
    window.withoutOverlap.InRange cellPixels := by
  have fits : Bounds.uint32.Holds cellPixels :=
    ⟨Int.natCast_nonneg _, Int.le_trans (Int.ofNat_le.2 (Nat.le_add_right _ _)) h.width.2⟩
  have cell : Bounds.uint32.Holds ↑(cellPixels + 0 * cellPixels / unitsPerCell) := by
    rwa [Nat.zero_mul, Nat.zero_div, Nat.add_zero]
  exact ⟨show Bounds.int32.Holds ↑0 by decide, cell, cell⟩

end Window

namespace TileImage

section

variable {pixels : Raster} {basis : Nat} {window : Window} {x y : Int}
  {canvas canvas' : Raster}

/-- A fragment of a sheet is shown as it is, if its lengths are kept. -/
lemma drawSheet_shows {origin : Int × Int} {f : Fragment}
    (drawn : drawSheet pixels basis basis origin f canvas = some canvas')
    (width : Bounds.uint32.Holds ↑(f.width * basis / unitsPerCell))
    (height : Bounds.uint32.Holds ↑(f.height * basis / unitsPerCell)) :
    Shows pixels ⟨scaleCoord f.x basis, scaleCoord f.y basis, f.width * basis / unitsPerCell,
      f.height * basis / unitsPerCell⟩ origin canvas canvas' := by
  obtain ⟨rect, hr, drawn⟩ := Option.bind_eq_some_iff.1 drawn
  obtain ⟨_, hr', drawn⟩ := Option.bind_eq_some_iff.1 drawn
  obtain rfl := Option.some.inj (hr.symm.trans hr')
  have shown := Shows.of_overlay? drawn
  obtain ⟨w, hw, hr⟩ := Option.bind_eq_some_iff.1 hr
  obtain ⟨h, hh, hr⟩ := Option.bind_eq_some_iff.1 hr
  obtain rfl := Option.some.inj hr
  rw [scaleLength?_inv hw, scaleLength?_inv hh,
    Nat.mod_eq_of_lt (Int.ofNat_lt.1 (Int.lt_add_one_of_le width.2)),
    Nat.mod_eq_of_lt (Int.ofNat_lt.1 (Int.lt_add_one_of_le height.2))] at shown
  exact shown

/-- A cell and an overlap are a cell's pixels and those of the overlap. -/
lemma extended_cell (units : Nat) : (unitsPerCell + units) * basis / unitsPerCell =
    basis + units * basis / unitsPerCell := by
  rw [Nat.add_mul, Nat.mul_add_div (by decide)]

/-- A sprite over a sheet shows the own cell where it slips to. -/
lemma draw?_sprite_shows (inRange : window.InRange basis)
    (drawn : (sprite window (source pixels basis)).draw? (x, y) canvas = some canvas') :
    Shows pixels (window.ownCell basis (window.slip basis)) (x, y) canvas canvas' := by
  obtain ⟨inner, hi, drawn⟩ := drawSprite_inv drawn
  obtain rfl := spriteFragment?_inv hi
  obtain ⟨coordinate, width, height⟩ := inRange
  have shown := drawSheet_shows drawn (by rwa [← extended_cell] at width)
    (by rwa [← extended_cell] at height)
  simp only [Fragment.cell, Int.zero_add, Bounds.wrap_of_holds coordinate, extended_cell] at shown
  have rows : scaleCoord (window.y - window.overlapNorth) basis +
      ↑(window.overlapNorth * basis / unitsPerCell) =
      scaleCoord window.y basis + window.slip basis := by
    rw [Window.slip]
    omega
  rw [Window.ownCell, ← rows]
  exact shown.lowerLeft (Nat.le_add_right _ _) (Nat.le_of_eq (Nat.add_comm _ _))

/-- The own cell of a sprite over a sheet shows the square of the sheet that its offset leads to. An
overlap extends the sprite, and does no more to the cell than let this square slip by a row, which
depends on the fractions of a pixel in the overlap and in the offset: where it does not slip, the cell
is as without the overlap. -/
theorem draw?_sprite_ownCell {plain extended : Raster} (inRange : window.InRange basis)
    (hp : (sprite window.withoutOverlap (source pixels basis)).draw? (x, y) canvas = some plain)
    (he : (sprite window (source pixels basis)).draw? (x, y) canvas = some extended) :
    Shows pixels (window.ownCell basis 0) (x, y) canvas plain ∧
      Shows pixels (window.ownCell basis (window.slip basis)) (x, y) canvas extended ∧
      (-1 ≤ window.slip basis ∧ window.slip basis ≤ 1) ∧
      (window.overlapNorth ≤ window.y → window.slip basis =
        if window.y * basis % unitsPerCell < restOfPixel window.overlapNorth basis then -1 else 0) ∧
      (unitsPerCell ∣ basis → window.slip basis = 0) ∧
      (window.slip basis = 0 → ∀ x' y' : Nat, Area.Covers ⟨x, x + basis, y, y + basis⟩ x' y' →
        plain.pixel? x' y' = extended.pixel? x' y') := by
  have cell := draw?_sprite_shows inRange.withoutOverlap hp
  rw [Window.slip_withoutOverlap] at cell
  have slipped := draw?_sprite_shows inRange he
  refine ⟨cell, slipped, Window.slip_bounds, Window.slip_of_le, Window.slip_eq_zero,
    fun level x' y' covered => ?_⟩
  rw [level] at slipped
  exact Shows.unique cell slipped covered

end

namespace Stripes

/-- A sheet of which every row has its own colour. -/
def sheet : Raster := .generate 8 9 fun _ row => ⟨10 * .ofNat row, 255, 0, 255⟩

/-- The window of a cell that begins a pixel down the sheet and extends half a pixel above itself. -/
def window : Window := ⟨0, 2, 1, 0⟩

def canvas : Raster := .clear 8 8

/-- The window of the example keeps within the ranges. -/
lemma inRange : window.InRange 8 := ⟨by decide, by decide, by decide⟩

/-- Without the overlap, the second row of the sheet comes first. -/
lemma plain : ∃ plain,
    (sprite window.withoutOverlap (source sheet 8)).draw? (0, 0) canvas = some plain ∧
      plain.pixel? 0 0 = some ⟨10, 255, 0, 255⟩ :=
  Option.bind_eq_some_iff.1 (by decide +kernel)

/-- With the overlap, the first row does. -/
lemma extended : ∃ extended,
    (sprite window (source sheet 8)).draw? (0, 0) canvas = some extended ∧
      extended.pixel? 0 0 = some ⟨0, 255, 0, 255⟩ :=
  Option.bind_eq_some_iff.1 (by decide +kernel)

end Stripes

/-- The cell of the stripes slips up by a row, from the second to the ninth to the first to the
eighth. -/
theorem draw?_sprite_ownCell_stripes :
    Stripes.window.InRange 8 ∧ ∃ plain extended,
      (sprite Stripes.window.withoutOverlap (source Stripes.sheet 8)).draw? (0, 0) Stripes.canvas =
        some plain ∧
      (sprite Stripes.window (source Stripes.sheet 8)).draw? (0, 0) Stripes.canvas =
        some extended ∧
      Shows Stripes.sheet ⟨0, 1, 8, 8⟩ (0, 0) Stripes.canvas plain ∧
      Shows Stripes.sheet ⟨0, 0, 8, 8⟩ (0, 0) Stripes.canvas extended := by
  obtain ⟨plain, hp, _⟩ := Stripes.plain
  obtain ⟨extended, he, _⟩ := Stripes.extended
  obtain ⟨cell, slipped, _⟩ := draw?_sprite_ownCell Stripes.inRange hp he
  exact ⟨Stripes.inRange, plain, extended, hp, he, cell, slipped⟩

/-- An overlap of half a pixel changes the own cell of a sprite. -/
theorem draw?_sprite_slips :
    ∃ plain extended,
      (sprite Stripes.window.withoutOverlap (source Stripes.sheet 8)).draw? (0, 0) Stripes.canvas =
        some plain ∧
      (sprite Stripes.window (source Stripes.sheet 8)).draw? (0, 0) Stripes.canvas =
        some extended ∧
      Area.Covers ⟨0, 0 + 8, 0, 0 + 8⟩ 0 0 ∧ plain.pixel? 0 0 ≠ extended.pixel? 0 0 := by
  obtain ⟨plain, hp, second⟩ := Stripes.plain
  obtain ⟨extended, he, first⟩ := Stripes.extended
  refine ⟨plain, extended, hp, he, by simp [Area.Covers], ?_⟩
  rw [second, first]
  decide

end TileImage

end Cityscape
