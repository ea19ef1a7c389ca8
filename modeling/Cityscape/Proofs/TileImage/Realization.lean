import Cityscape.Proofs.TileImage.Preservation

/-!
# Realization of normal forms

The main statement is `realize_normalForm`: a valid tree and its normal form are realized as the
same tree in every context. Its core is `Sized.selects_normalForm`, by induction on the tree: the
alternatives of the normal form, tried in order, select what the tree is realized as. On
alternatives every rule of the normal form is a nesting of cases, so the step is `Selects.nest`
each time, with the default of the outer cases as the reason that there is a first match at all.
-/

namespace Cityscape.TileImage

open Case (Selects)

/-- The alternatives of the normal form select what the tree is realized as. -/
lemma Sized.selects_normalForm {t s} (h : Sized t s) (dc : DrawContext) :
    Selects dc t.normalForm.alternatives (t.realize dc) := by
  induction h with
  | source => exact rfl
  | scaled => exact rfl
  | sprite _ ih =>
    rw [alternatives_normalForm_sprite, realize_sprite]
    exact ih.map _
  | layer _ _ ihb iha =>
    rw [alternatives_normalForm_layer, realize_layer]
    exact ihb.nest (iha.map _)
  | switch hd _ ih =>
    obtain ⟨t, ht⟩ := hd.selects dc
    obtain ⟨c, hc, rfl⟩ := ht.mem
    rw [alternatives_normalForm_switch, realize_switch ht]
    exact ht.nest (ih c hc)
  | animation timed _ ih =>
    obtain ⟨t, shows, ht, f, hf, rfl⟩ := Frame.selects_asCases timed.pos dc
    rw [alternatives_normalForm_animation, realize_animation shows]
    exact ht.nest (ih f hf)

/-- Normal forms are realized as the trees that they come from. -/
theorem realize_normalForm {t : TileImage} (h : Valid t) (dc : DrawContext) :
    t.normalForm.realize dc = t.realize dc := by
  have tree : Selects dc t.normalForm.alternatives (t.realize dc) :=
    h.sized.selects_normalForm dc
  have form : Selects dc t.normalForm.normalForm.alternatives (t.normalForm.realize dc) :=
    h.sized.normalForm.selects_normalForm dc
  rw [normalForm_normalForm] at form
  exact form.unique tree

/-- In the rush hour, the crossing and its normal form are both realized as the second frame of the
traffic with the lamp above it. -/
theorem realize_normalForm_crossing :
    Valid Crossing.image ∧
      Crossing.image.normalForm.realize Crossing.rushHour =
        Crossing.image.realize Crossing.rushHour ∧
      Crossing.image.realize Crossing.rushHour =
        .layer (Crossing.tile 2) (.sprite ⟨0, 8, 4, 0⟩ (Crossing.tile 4)) :=
  ⟨Crossing.valid, realize_normalForm Crossing.valid Crossing.rushHour, rfl⟩

end Cityscape.TileImage
