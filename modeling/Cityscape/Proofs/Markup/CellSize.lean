import Cityscape.Proofs.Markup.Validity

/-!
# Everything read with sheets has one size

All sheets are drawn with cells of one width (`Sheets.cellWidth`), so every tree that is read with
them is as large as one such cell, and so is every part of it (`read_with_sheets_square`). Trees of
one size can always be layered and switched between; where they cannot be animated, the durations are
too long. So all other complaints about a composition never come up: none of the images in a document,
and none of the parts of a frame in short form, differ in size.
-/

namespace Cityscape

open Image Markup
open TileImage (Sized)

/-! ## Composing trees of one size -/

section
variable {s : Size} {allowed : ComposeError → Prop}

/-- Two trees of one size are layered without an error. -/
lemma ensures_layer?_sized {below above} (hb : Sized below s) (ha : Sized above s) :
    Ensures allowed (Sized · s) (TileImage.layer? below above) := by
  have layered := Sized.layer hb ha
  rw [layered.layer?_eq]
  exact layered

/-- Cases and a default of one size are made into a switch without an error. -/
lemma ensures_switchOr?_sized {cs default} (hc : ∀ c ∈ cs, Sized c.image s)
    (hd : Sized default s) : Ensures allowed (Sized · s) (TileImage.switchOr? cs default) := by
  have total : Case.HasDefault (cs ++ [⟨.always, default⟩]) := .append .last
  have switched := Sized.switch total (forall_mem_concat hc hd)
  rw [TileImage.switchOr?, switched.switch?_eq]
  exact switched

/-- Trees of one size can be animated, unless they are shown for too long. -/
lemma ensures_animation?_sized {fs} (nonempty : fs ≠ [])
    (hf : ∀ f ∈ fs, 1 ≤ f.duration ∧ Sized f.image s) :
    Ensures (· = .periodOverflow) (Sized · s) (TileImage.animation? fs) := by
  by_cases fits : Bounds.uint64.Holds (Frame.period fs)
  · have timed : Frame.Timed fs := ⟨nonempty, fun f hm => (hf f hm).1, fits⟩
    have animated := Sized.animation timed fun f hm => (hf f hm).2
    rw [animated.animation?_eq]
    exact animated
  · have some : ¬fs.isEmpty = true := fun empty => nonempty (List.isEmpty_iff.1 empty)
    rw [TileImage.animation?, if_neg some, if_neg fits]
    exact rfl

end

/-! ## Sheets -/

namespace Sheets

variable {s : Sheets}

/-- The width of a cell of the sheets when it is drawn. -/
def cellWidth (s : Sheets) : Nat := s.target.getD s.basis

/-- A sheet has the size of its cells. -/
lemma sized_image (pixels : Raster) : Sized (s.image pixels) (.square s.cellWidth) := by
  rw [image, cellWidth]
  cases s.target with
  | none => exact .source
  | some target =>
    dsimp only [Option.getD_some]
    split
    case isTrue same =>
      rw [same]
      exact .source
    case isFalse => exact .scaled

/-- A sprite over a sheet has square cells of the width that the sheets ask for. -/
lemma sized_sprite (window : Window) (pixels : Raster) :
    Sized (.sprite window (s.image pixels)) (.square s.cellWidth) := .sprite (sized_image pixels)

/-- To have the size of a cell is inherited by all that is read with sheets. -/
lemma inherited_sized :
    Inherited s.resolver (· = .periodOverflow) (Sized · (.square s.cellWidth)) := by
  apply inherited sized_sprite
  case layer => exact ensures_layer?_sized
  case switch => exact ensures_switchOr?_sized
  case animation => exact ensures_animation?_sized

/-- The parts of a frame in short form can always be layered. -/
lemma ensures_frameSpec_sized {spec} :
    Ensures (Refusal fun _ => False) (Sized · (.square s.cellWidth)) (s.frameSpec spec) :=
  ensures_frameSpec sized_sprite ensures_layer?_sized

end Sheets

namespace Markup

/-- Whatever a document is read as with sheets, every tree and all its parts have the size of a cell.
So if a tree cannot be composed, it is because an animation is too long, and no frame in short form
is refused for a difference in size. -/
theorem read_with_sheets_square (s : Sheets) (document : List Token) :
    (∀ image, readImage s.resolver document = .ok image →
      ∀ u, TileImage.Subtree u image → u.size = .square s.cellWidth) ∧
    (∀ set, readTileSet s.resolver document = .ok set →
      ∀ entry ∈ set.entries, ∀ u, TileImage.Subtree u entry.2 → u.size = .square s.cellWidth) ∧
    (∀ tag cause,
      readImage s.resolver document = .error (.compose tag cause) ∨
        readTileSet s.resolver document = .error (.compose tag cause) →
      cause = .periodOverflow) ∧
    ∀ text spec cause, s.frameSpec text ≠ .error (.invalidFrameSpec spec (.layers cause)) := by
  have image := s.inherited_sized.readImage document
  have tiles := s.inherited_sized.readTileSet document
  -- Sheets have no composition errors of their own.
  have reported {tag cause} (h : Due s.resolver (· = .periodOverflow) (.compose tag cause)) :
      cause = .periodOverflow := by
    rcases h with raised | composed
    · exact absurd raised Sheets.not_raises_compose
    · exact composed tag cause rfl
  refine ⟨?_, ?_, ?_, ?_⟩
  · intro t read u part
    have sized : Sized t (.square s.cellWidth) := image.of_ok read
    exact (sized.subtree part).size_eq
  · intro set read entry he u part
    have sized : Sized entry.2 (.square s.cellWidth) := tiles.of_ok read entry he
    exact (sized.subtree part).size_eq
  · rintro tag cause (refused | refused)
    · exact reported (image.of_error refused)
    · exact reported (tiles.of_error refused)
  · intro text spec cause refused
    exact (Sheets.ensures_frameSpec_sized.of_error refused).2 spec cause rfl

/-- The sheet of the junction, drawn at half its width. -/
def Junction.halved : Sheets := { Junction.sheets with target := some 8 }

/-- All parts of the junction are eight pixels wide. If its frames are shown for too long, that is
the only complaint. -/
theorem read_with_sheets_square_junction :
    (∃ set, readTileSet Junction.halved.resolver (Junction.document "1").tokens = .ok set ∧
      set.size = 1 ∧
      ∀ entry ∈ set.entries, ∀ u, TileImage.Subtree u entry.2 → u.size = .square 8) ∧
    ∃ cause, readTileSet Junction.halved.resolver
        (Junction.document "18446744073709551615").tokens = .error (.compose "animation" cause) ∧
      cause = .periodOverflow := by
  obtain ⟨_, square, _, _⟩ :=
    read_with_sheets_square Junction.halved (Junction.document "1").tokens
  obtain ⟨_, _, reported, _⟩ :=
    read_with_sheets_square Junction.halved (Junction.document "18446744073709551615").tokens
  exact ⟨⟨_, rfl, rfl, square _ rfl⟩, _, rfl, reported "animation" _ (.inr rfl)⟩

end Markup

end Cityscape
