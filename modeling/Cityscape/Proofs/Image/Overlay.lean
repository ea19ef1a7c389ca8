import Mathlib.Tactic.Common
import Cityscape.Image.Overlay

/-!
# What overlaying changes

`Raster.ChangesOnly area before after` says that a step on a canvas keeps its dimensions and every
pixel outside an area. The relation is transitive and monotone in the area, so what is
known of single steps adds up over a sequence of them. The one step that touches pixels is
overlaying, and it stays inside the rectangle that is pasted (`overlay?_changesOnly`).
-/

namespace Cityscape.Image

/-- A rectangle on a canvas; its right and its lower edge do not belong to it. -/
structure Area where
  left : Int
  right : Int
  top : Int
  bottom : Int

namespace Area

/-- Whether a position lies in the area. -/
def Covers (area : Area) (x y : Int) : Prop :=
  area.left ≤ x ∧ x < area.right ∧ area.top ≤ y ∧ y < area.bottom

/-- Whether each edge of the area lies inside another area. -/
structure Within (area outer : Area) : Prop where
  left : outer.left ≤ area.left
  right : area.right ≤ outer.right
  top : outer.top ≤ area.top
  bottom : area.bottom ≤ outer.bottom

/-- An area covers what the areas within it cover. -/
lemma Within.covers {area outer : Area} (h : area.Within outer) {x y} (c : area.Covers x y) :
    outer.Covers x y := by
  obtain ⟨left, right, top, bottom⟩ := c
  refine ⟨?_, ?_, ?_, ?_⟩
  · exact Int.le_trans h.left left
  · exact Int.lt_of_lt_of_le right h.right
  · exact Int.le_trans h.top top
  · exact Int.lt_of_lt_of_le bottom h.bottom

end Area

namespace Raster

/-- A pixel of a changed image is the pixel that was there, changed. -/
lemma pixel?_mapPixels {image : Raster} {f : Nat → Nat → Pixel → Pixel} {x y : Nat} :
    (image.mapPixels f).pixel? x y = (image.pixel? x y).map (f x y) := by
  show (if x < image.width then (image.pixels.mapIdx _)[y * image.width + x]? else none) = _
  rw [pixel?]
  split
  case isTrue h =>
    have column : (y * image.width + x) % image.width = x := by
      rw [Nat.mul_comm, Nat.mul_add_mod, Nat.mod_eq_of_lt h]
    have row : (y * image.width + x) / image.width = y := by
      rw [Nat.mul_comm, Nat.mul_add_div (by omega), Nat.div_eq_of_lt h, Nat.add_zero]
    rw [Vector.getElem?_mapIdx, column, row]
  case isFalse => rfl

/-- The dimensions are kept, and so is every pixel outside an area. -/
structure ChangesOnly (area : Area) (before after : Raster) : Prop where
  width : after.width = before.width
  height : after.height = before.height
  pixels : ∀ x y : Nat, after.pixel? x y ≠ before.pixel? x y → area.Covers x y

namespace ChangesOnly

variable {area outer : Area} {a b c : Raster}

/-- Two steps that stay inside one area stay inside it together. -/
lemma trans (h : ChangesOnly area a b) (h' : ChangesOnly area b c) : ChangesOnly area a c where
  width := h'.width.trans h.width
  height := h'.height.trans h.height
  pixels := by
    intro x y changed
    by_cases e : c.pixel? x y = b.pixel? x y
    · exact h.pixels x y fun e' => changed (e.trans e')
    · exact h'.pixels x y e

/-- A step that stays inside an area stays inside every larger one. -/
lemma mono (h : ChangesOnly area a b) (w : area.Within outer) : ChangesOnly outer a b :=
  ⟨h.width, h.height, fun x y changed => w.covers (h.pixels x y changed)⟩

end ChangesOnly

end Raster

/-- Only inside the target is there a pixel of the stretched rectangle. -/
lemma stretchedPixel?_of_some {source rect target dx dy pixel}
    (h : stretchedPixel? source rect target dx dy = some pixel) :
    0 ≤ dx ∧ dx < target.width ∧ 0 ≤ dy ∧ dy < target.height := by
  rw [stretchedPixel?] at h
  split at h
  case isTrue inside =>
    obtain ⟨west, east, north, south, _⟩ := inside
    exact ⟨west, east, north, south⟩
  case isFalse => cases h

/-- Overlaying touches nothing outside the rectangle that is pasted. -/
lemma overlay?_changesOnly {canvas origin source rect target canvas'}
    (h : overlay? canvas origin source rect target = some canvas') :
    Raster.ChangesOnly ⟨origin.1, origin.1 + target.width, origin.2, origin.2 + target.height⟩
      canvas canvas' := by
  rw [overlay?] at h
  split at h
  case isFalse => cases h
  case isTrue =>
    obtain rfl := Option.some.inj h
    refine ⟨rfl, rfl, fun x y changed => ?_⟩
    rw [Raster.pixel?_mapPixels] at changed
    cases e : stretchedPixel? source rect target (x - origin.1) (y - origin.2) with
    | some front =>
      obtain ⟨west, east, north, south⟩ := stretchedPixel?_of_some e
      simp only [Area.Covers]
      omega
    | none =>
      simp only [e] at changed
      exact absurd Option.map_id' changed

end Cityscape.Image
