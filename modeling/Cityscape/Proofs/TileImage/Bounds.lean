import Cityscape.Proofs.TileImage.LastVariant

/-!
# When bounds fit

Bounds are measured in 32 bits: the product of an overlap and a cell has to fit, and so has the sum of
the overlap and what it extends (`toPixels?_eq_some_iff` and `spriteBounds?_eq_some_iff`). A tree is
`Flat` if its sprites show nothing but sheets, so that overlaps are never added to one another. With
standard cells it has bounds if and only if each window that it is measured by is narrow enough on its
own (`Flat.bounds?_isSome_iff`).
-/

namespace Cityscape

open Image

namespace Image

/-- A length in pixels is a product rounded down, if that fits 32 bits. -/
lemma toPixels?_eq_some_iff {units cellPixels n : Nat} :
    toPixels? units cellPixels = some n ↔
      Bounds.uint32.Holds ↑(units * cellPixels) ∧ n = units * cellPixels / unitsPerCell := by
  simp only [toPixels?, Option.bind_eq_bind, Option.bind_eq_some_iff, Bounds.fitNat?_eq_some_iff]
  constructor
  · rintro ⟨_, ⟨fits, rfl⟩, e⟩
    exact ⟨fits, (Option.some.inj e).symm⟩
  · rintro ⟨fits, rfl⟩
    exact ⟨_, ⟨fits, rfl⟩, rfl⟩

end Image

namespace TileImage

/-- The bounds of a layer are the larger ones of its two parts, in width and in height. -/
lemma bounds?_layer {below above} :
    bounds? (.layer below above) =
      below.bounds?.bind fun b => above.bounds?.bind fun a => some (b.max a) := rfl

/-- Overlaps extend the bounds by whole pixels, if every product and every sum fits. -/
lemma spriteBounds?_eq_some_iff {window : Window} {cellPixels : Nat} {b b' : Size} :
    spriteBounds? window cellPixels b = some b' ↔
      (window.overlapNorth = 0 ∧ window.overlapEast = 0 ∨
        Bounds.uint32.Holds ↑(window.overlapEast * cellPixels) ∧
        Bounds.uint32.Holds ↑(b.width + window.overlapEast * cellPixels / unitsPerCell) ∧
        Bounds.uint32.Holds ↑(window.overlapNorth * cellPixels) ∧
        Bounds.uint32.Holds ↑(b.height + window.overlapNorth * cellPixels / unitsPerCell)) ∧
      b' = ⟨b.width + window.overlapEast * cellPixels / unitsPerCell,
        b.height + window.overlapNorth * cellPixels / unitsPerCell⟩ := by
  rw [spriteBounds?]
  split
  case isTrue none =>
    simp only [none, Nat.zero_mul, Nat.zero_div, Nat.add_zero, and_self, true_or, true_and,
      Option.some.injEq]
    exact eq_comm
  case isFalse some =>
    simp only [some, false_or, Option.bind_eq_bind, Option.bind_eq_some_iff,
      Bounds.fitNat?_eq_some_iff, toPixels?_eq_some_iff]
    constructor
    · rintro ⟨_, ⟨he, rfl⟩, _, ⟨hw, rfl⟩, _, ⟨hn, rfl⟩, _, ⟨hh, rfl⟩, e⟩
      exact ⟨⟨he, hw, hn, hh⟩, (Option.some.inj e).symm⟩
    · rintro ⟨⟨he, hw, hn, hh⟩, rfl⟩
      exact ⟨_, ⟨he, rfl⟩, _, ⟨hw, rfl⟩, _, ⟨hn, rfl⟩, _, ⟨hh, rfl⟩, rfl⟩

/-! ## Flat trees -/

/-- A tree of which the sprites show nothing but sheets with cells `basis` pixels wide. -/
inductive Flat (basis : Nat) : TileImage → Prop where
  | sprite {window pixels} :
    Flat basis (.sprite window (.source pixels basis))
  | layer {below above} :
    Flat basis below →
    Flat basis above →
    Flat basis (.layer below above)
  | switch {cs} :
    (∀ c ∈ cs, Flat basis c.image) →
    Flat basis (.switch cs)
  | animation {fs} :
    (∀ f ∈ fs, Flat basis f.image) →
    Flat basis (.animation fs)

/-- A variant of a flat tree is flat. -/
lemma Resolves.flat {t u basis} (h : Resolves t u) (ht : Flat basis t) : Flat basis u := by
  induction h with
  | source => exact ht
  | scaled => exact ht
  | sprite hc _ =>
    cases ht with | sprite =>
    cases hc with | source => exact .sprite
  | layer _ _ ihb iha =>
    cases ht with | layer hb ha => exact .layer (ihb hb) (iha ha)
  | switch hc _ ih =>
    cases ht with | switch ht => exact ih (ht _ hc)
  | animation hf _ ih =>
    cases ht with | animation ht => exact ih (ht _ hf)

/-- The windows that a tree is measured by: those of its last variant. -/
def measuredWindows : TileImage → List Window :=
  fold
    { source := fun _ _ => []
      scaled := fun _ _ _ => []
      sprite := fun window _ inner => window :: inner
      layer := fun below above => below ++ above
      switch := fun cases => (Case.default? cases).getD []
      animation := fun frames => (Frame.default? frames).getD [] }

/-- A layer is measured by the windows of both of its parts. -/
lemma measuredWindows_layer {below above} :
    measuredWindows (.layer below above) = measuredWindows below ++ measuredWindows above := rfl

/-- A tree is measured by the windows of its last variant. -/
lemma Sized.measuredWindows_lastVariant {t s} (h : Sized t s) :
    t.lastVariant.measuredWindows = t.measuredWindows :=
  h.fold_lastVariant ⟨fun _ => rfl, ⟨_, fun _ => rfl⟩, ⟨_, fun _ => rfl⟩⟩

end TileImage

/-- The product of each overlap and a standard cell fits 32 bits: both are shorter than 2^28 units. -/
def Window.Narrow (window : Window) : Prop :=
  Bounds.uint32.Holds ↑(window.overlapNorth * unitsPerCell) ∧
    Bounds.uint32.Holds ↑(window.overlapEast * unitsPerCell)

instance (window : Window) : Decidable window.Narrow := inferInstanceAs (Decidable (_ ∧ _))

namespace TileImage

/-- Over a standard cell, narrow windows are those that have bounds. -/
lemma spriteBounds?_isSome_iff {window : Window} :
    (spriteBounds? window unitsPerCell (.square unitsPerCell)).isSome = true ↔ window.Narrow := by
  rw [Option.isSome_iff_exists]
  simp only [spriteBounds?_eq_some_iff, exists_and_left, exists_eq, and_true, Bounds.Holds,
    Bounds.uint32, unitsPerCell, Size.square, Window.Narrow]
  omega

/-- Without switches and animations, a flat tree has bounds if and only if the windows that it is
measured by are narrow. -/
lemma Plain.bounds?_isSome_iff {t} (h : Plain t) (flat : Flat unitsPerCell t) :
    t.bounds?.isSome = true ↔ ∀ window ∈ t.measuredWindows, window.Narrow := by
  induction flat with
  | @sprite window pixels =>
    show (spriteBounds? window unitsPerCell (.square unitsPerCell)).isSome = true ↔ _
    rw [spriteBounds?_isSome_iff]
    exact (List.forall_mem_singleton (p := Window.Narrow)).symm
  | @layer below above _ _ ihb iha =>
    cases h with | layer hb ha =>
    -- The larger of two bounds needs no room of its own.
    rw [bounds?_layer, measuredWindows_layer, List.forall_mem_append, ← ihb hb, ← iha ha]
    cases below.bounds? with
    | none => simp
    | some => cases above.bounds? <;> simp
  | switch => cases h
  | animation => cases h

/-- With standard cells, a flat tree has bounds if and only if all the windows that it is measured by
are narrow. -/
lemma Flat.bounds?_isSome_iff {t s} (h : Flat unitsPerCell t) (sized : Sized t s) :
    t.bounds?.isSome = true ↔ ∀ window ∈ t.measuredWindows, window.Narrow := by
  have last := sized.resolves_lastVariant
  rw [← sized.bounds?_lastVariant, ← sized.measuredWindows_lastVariant]
  exact last.plain.bounds?_isSome_iff (last.flat h)

end TileImage

end Cityscape
