import Cityscape.Proofs.TileImage.Coverage
import Cityscape.Proofs.TileImage.Locality

/-!
# Nested sprites

A sprite over a sprite is a sprite with the sum of both windows, where cells are a multiple of the
standard one: there an overlap is a whole number of pixels, so that lifts and bounds can be rounded
one by one or together (`add_pixels`). This is shown for the steps that a sprite adds to measuring and
to drawing its child (`spriteBounds?_add` and `drawSprite_add`), whatever the child is, and assembled
in `sprite_sprite`. What does not add up is what leaves its bounds on the way: the sum of two windows
may have a result where the nested ones have none, and the other way round.
-/

namespace Cityscape

open Image

namespace Window

/-- The offsets and the overlaps are added. -/
instance : Add Window where
  add v w := ⟨v.x + w.x, v.y + w.y, v.overlapNorth + w.overlapNorth, v.overlapEast + w.overlapEast⟩

variable {v w : Window}

/-- The columns of two windows add up. -/
lemma add_x : (v + w).x = v.x + w.x := rfl

/-- The rows of two windows add up. -/
lemma add_y : (v + w).y = v.y + w.y := rfl

/-- The overlaps of two windows in the north add up. -/
lemma add_overlapNorth : (v + w).overlapNorth = v.overlapNorth + w.overlapNorth := rfl

/-- The overlaps of two windows in the east add up. -/
lemma add_overlapEast : (v + w).overlapEast = v.overlapEast + w.overlapEast := rfl

end Window

namespace TileImage

variable {v w : Window} {side : Nat}

/-- Nothing is lost where cells are a multiple of the standard one, so pixels can be added. -/
lemma add_pixels (whole : unitsPerCell ∣ side) (m n : Nat) : (m + n) * side / unitsPerCell =
    m * side / unitsPerCell + n * side / unitsPerCell := by
  obtain ⟨k, rfl⟩ := whole
  have exact (units : Nat) : units * (unitsPerCell * k) / unitsPerCell = units * k := by
    rw [Nat.mul_left_comm, Nat.mul_div_cancel_left _ (by decide)]
  rw [exact, exact, exact, Nat.add_mul]

/-- The bounds that the sum of two windows gives are those that the windows give one by one. -/
lemma spriteBounds?_add (whole : unitsPerCell ∣ side) {b b' : Size}
    (h : spriteBounds? (v + w) side b = some b') :
    (spriteBounds? w side b).bind (spriteBounds? v side) = some b' := by
  obtain ⟨fits, rfl⟩ := spriteBounds?_eq_some_iff.1 h
  simp only [Window.add_overlapNorth, Window.add_overlapEast, add_pixels whole] at fits ⊢
  simp only [Nat.add_mul, Bounds.Holds, Bounds.uint32, unitsPerCell] at fits
  refine Option.bind_eq_some_iff.2 ⟨_, spriteBounds?_eq_some_iff.2 ⟨?_, rfl⟩,
    spriteBounds?_eq_some_iff.2 ⟨?_, ?_⟩⟩
  -- Each product and each sum on the way is at most what fits in the end.
  · simp only [Bounds.Holds, Bounds.uint32, unitsPerCell]
    omega
  · simp only [Bounds.Holds, Bounds.uint32, unitsPerCell]
    omega
  · rw [Size.mk.injEq]
    dsimp only
    omega

/-- Both windows take the fragment from the child that their sum takes. -/
lemma spriteFragment?_add (north : Bounds.int32.Holds ↑(v.overlapNorth + w.overlapNorth))
    {f outer inner inner' : Fragment} (hv : spriteFragment? v f = some outer)
    (hw : spriteFragment? w outer = some inner) (h : spriteFragment? (v + w) f = some inner') :
    inner' = inner := by
  have coordinates : Bounds.int32.Holds v.overlapNorth ∧ Bounds.int32.Holds w.overlapNorth := by
    simp only [Bounds.Holds, Bounds.int32] at *
    omega
  obtain rfl := spriteFragment?_inv hv
  obtain rfl := spriteFragment?_inv hw
  obtain rfl := spriteFragment?_inv h
  rw [Window.add_x, Window.add_y, Window.add_overlapNorth, Window.add_overlapEast,
    Bounds.wrap_of_holds north, Bounds.wrap_of_holds coordinates.1,
    Bounds.wrap_of_holds coordinates.2, Fragment.mk.injEq]
  dsimp only
  omega

/-- Two sprites draw what a sprite with the sum of their windows draws. -/
lemma drawSprite_add (whole : unitsPerCell ∣ side)
    (north : Bounds.int32.Holds ↑(v.overlapNorth + w.overlapNorth)) {child : Drawing}
    {origin f canvas nested single}
    (hn : drawSprite v side (drawSprite w side child) origin f canvas = some nested)
    (hs : drawSprite (v + w) side child origin f canvas = some single) : nested = single := by
  obtain ⟨outer, hv, hn⟩ := drawSprite_inv hn
  obtain ⟨inner, hw, hn⟩ := drawSprite_inv hn
  obtain ⟨inner', h, hs⟩ := drawSprite_inv hs
  obtain rfl := spriteFragment?_add north hv hw h
  rw [Window.add_overlapNorth, add_pixels whole, Int.natCast_add, ← Int.sub_sub] at hs
  exact Option.some.inj (hn.symm.trans hs)

/-- A sprite over a sprite is the sprite with the sum of their windows, over cells that are a multiple
of the standard one and as long as the sum of the overlaps in the north is a coordinate: it has the
same size, bounds that the nested sprites have too, and leaves the same surface behind wherever both
can be drawn. -/
theorem sprite_sprite {s : TileImage} (whole : unitsPerCell ∣ s.size.width)
    (north : Bounds.int32.Holds ↑(v.overlapNorth + w.overlapNorth)) :
    (sprite v (sprite w s)).size = (sprite (v + w) s).size ∧
      (∀ b, (sprite (v + w) s).bounds? = some b → (sprite v (sprite w s)).bounds? = some b) ∧
      ∀ f surface nested single, (sprite v (sprite w s)).paint? f surface = some nested →
        (sprite (v + w) s).paint? f surface = some single → nested = single := by
  refine ⟨rfl, fun b h => ?_, fun f surface nested single hn hs => ?_⟩
  · obtain ⟨inner, (measured : s.bounds? = some inner), h⟩ := Option.bind_eq_some_iff.1 h
    show (s.bounds?.bind (spriteBounds? w s.size.width)).bind (spriteBounds? v s.size.width) = some b
    rw [measured]
    exact spriteBounds?_add whole h
  · rw [paint?_eq] at hn hs
    obtain ⟨canvas, dn, rfl⟩ := Option.map_eq_some_iff.1 hn
    obtain ⟨canvas', ds, rfl⟩ := Option.map_eq_some_iff.1 hs
    rw [drawSprite_add whole north dn ds]

namespace Tower

/-- A sheet with cells 16 pixels wide, from which one pixel and its overlaps can be drawn. -/
def sheet : TileImage :=
  .source (.generate 2 3 fun column row => ⟨.ofNat column, .ofNat row, 0, 255⟩) 16

def outer : Window := ⟨1, 1, 1, 0⟩

def inner : Window := ⟨-1, 1, 1, 1⟩

/-- The pixel in the corner of a cell. -/
def corner : Fragment := ⟨0, 0, 1, 1⟩

def surface : Surface := ⟨.clear 2 3, 0, 2⟩

end Tower

/-- Two overlaps of a pixel each are drawn and measured as one of two pixels. -/
theorem sprite_sprite_tower :
    unitsPerCell ∣ Tower.sheet.size.width ∧
      Bounds.int32.Holds ↑(Tower.outer.overlapNorth + Tower.inner.overlapNorth) ∧
      (sprite Tower.outer (sprite Tower.inner Tower.sheet)).bounds? = some ⟨17, 18⟩ ∧
      ∃ drawn,
        (sprite Tower.outer (sprite Tower.inner Tower.sheet)).paint? Tower.corner Tower.surface =
          some drawn ∧
        (sprite (Tower.outer + Tower.inner) Tower.sheet).paint? Tower.corner Tower.surface =
          some drawn ∧
        drawn.canvas.pixel? 1 2 = some ⟨1, 2, 0, 255⟩ := by
  have whole : unitsPerCell ∣ Tower.sheet.size.width := by decide
  have north : Bounds.int32.Holds ↑(Tower.outer.overlapNorth + Tower.inner.overlapNorth) := by decide
  obtain ⟨-, bounds, same⟩ := sprite_sprite whole north
  obtain ⟨nested, hn, shown⟩ : ∃ drawn,
      (sprite Tower.outer (sprite Tower.inner Tower.sheet)).paint? Tower.corner Tower.surface =
        some drawn ∧ drawn.canvas.pixel? 1 2 = some ⟨1, 2, 0, 255⟩ :=
    Option.bind_eq_some_iff.1 (by decide +kernel)
  obtain ⟨single, hs⟩ : ∃ drawn,
      (sprite (Tower.outer + Tower.inner) Tower.sheet).paint? Tower.corner Tower.surface =
        some drawn := Option.isSome_iff_exists.1 (by decide +kernel)
  obtain rfl := same _ _ _ _ hn hs
  exact ⟨whole, north, bounds _ (by decide), nested, hn, hs, shown⟩

end TileImage

end Cityscape
