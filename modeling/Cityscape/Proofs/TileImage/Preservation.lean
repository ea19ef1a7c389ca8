import Cityscape.Proofs.TileImage.NormalForm
import Cityscape.TileImage.Realize

/-!
# Preservation of sizes

The judgment `Sized t s` is kept by normalization (`Sized.normalForm`), at the same size. It is a
structural one (`sized_structural`): it asks that cases end in a default and that frames can be timed,
and nested cases end in a default if all of them do.

`Resolves t u` relates a tree to every tree in which each of its switches and animations is replaced
by one of its variants. Such a tree is plain and keeps the size (`Resolves.plain` and
`Resolves.sized`), and realization is one way to get there (`Sized.resolves_realize`).
-/

namespace Cityscape.TileImage

open Case (nest Selects)

/-! ## Normalization -/

/-- To have a size is a structural property. -/
lemma sized_structural (s : Image.Size) : Structural (Sized · s) Case.HasDefault Frame.Timed where
  sprite := by
    refine ⟨fun h => ?_, .sprite⟩
    cases h with | sprite h => exact h
  layer := by
    refine ⟨fun h => ?_, fun h => .layer h.1 h.2⟩
    cases h with | layer hb ha => exact ⟨hb, ha⟩
  switch := by
    refine ⟨fun h => ?_, fun h => .switch h.1 h.2⟩
    cases h with | switch hd hs => exact ⟨hd, hs⟩
  animation := by
    refine ⟨fun h => ?_, fun h => .animation h.1 h.2⟩
    cases h with | animation ht hs => exact ⟨ht, hs⟩
  certain _ := .last
  changed f _ h := h.map f
  nested := .nest
  changedFrames f _ h := h.map f
  asCases := Frame.Timed.hasDefault_asCases

/-- The alternatives of a sized tree have a default. -/
lemma Sized.hasDefault_alternatives {t s} (h : Sized t s) : Case.HasDefault t.alternatives :=
  ((sized_structural s).alternatives h).1

/-- The alternatives of a tree have its size. -/
lemma Sized.alternatives {t s} (h : Sized t s) {c} (hc : c ∈ t.alternatives) :
    Sized c.image s := ((sized_structural s).alternatives h).2 c hc

/-- The normal form of a tree has its size. -/
lemma Sized.normalForm {t s} (h : Sized t s) : Sized t.normalForm s :=
  (sized_structural s).normalForm h

/-! ## Resolution -/

/-- A tree in which every switch and every animation is replaced by one of its variants. -/
inductive Resolves : TileImage → TileImage → Prop where
  | source {pixels basis} :
    Resolves (.source pixels basis) (.source pixels basis)
  | scaled {pixels basis target} :
    Resolves (.scaled pixels basis target) (.scaled pixels basis target)
  | sprite {window child u} :
    Resolves child u →
    Resolves (.sprite window child) (.sprite window u)
  | layer {below above u v} :
    Resolves below u →
    Resolves above v →
    Resolves (.layer below above) (.layer u v)
  | switch {cs c u} :
    c ∈ cs →
    Resolves c.image u →
    Resolves (.switch cs) u
  | animation {fs f u} :
    f ∈ fs →
    Resolves f.image u →
    Resolves (.animation fs) u

/-- A resolved tree has no switch and no animation. -/
lemma Resolves.plain {t u} (h : Resolves t u) : Plain u := by
  induction h with
  | source => exact .source
  | scaled => exact .scaled
  | sprite _ ih => exact .sprite ih
  | layer _ _ ihb iha => exact .layer ihb iha
  | switch _ _ ih => exact ih
  | animation _ _ ih => exact ih

/-- A resolved tree has the size of the tree. -/
lemma Resolves.sized {t u s} (h : Resolves t u) (hs : Sized t s) : Sized u s := by
  induction h with
  | source => exact hs
  | scaled => exact hs
  | sprite _ ih =>
    cases hs with
    | sprite hs => exact .sprite (ih hs)
  | layer _ _ ihb iha =>
    cases hs with
    | layer hb ha => exact .layer (ihb hb) (iha ha)
  | switch hc _ ih =>
    cases hs with
    | switch _ hs => exact ih (hs _ hc)
  | animation hf _ ih =>
    cases hs with
    | animation _ hs => exact ih (hs _ hf)

/-- A sprite is realized in its child. -/
lemma realize_sprite {dc window child} :
    realize dc (.sprite window child) = .sprite window (realize dc child) := rfl

/-- A layer is realized in both of its parts. -/
lemma realize_layer {dc below above} :
    realize dc (.layer below above) = .layer (realize dc below) (realize dc above) := rfl

/-- A switch is realized as the image that is selected. -/
lemma realize_switch {dc cs t} (h : Selects dc cs t) : realize dc (.switch cs) = realize dc t := by
  rw [realize, fold_switch]
  show (Case.selected? dc (cs.map (Case.map (realize dc)))).getD _ = _
  rw [(h.map (realize dc)).selected?]
  rfl

/-- An animation is realized as the image that is shown. -/
lemma realize_animation {dc fs t} (h : Frame.shown? dc.time fs = some t) :
    realize dc (.animation fs) = realize dc t := by
  rw [realize, fold_animation]
  show (Frame.shown? dc.time (fs.map (Frame.map (realize dc)))).getD _ = _
  rw [Frame.shown?_map, h]
  rfl

/-- To realize a sized tree is to resolve it. -/
lemma Sized.resolves_realize {t s} (h : Sized t s) (dc : DrawContext) :
    Resolves t (t.realize dc) := by
  induction h with
  | source => exact .source
  | scaled => exact .scaled
  | sprite _ ih => exact .sprite ih
  | layer _ _ ihb iha => exact .layer ihb iha
  | switch hd _ ih =>
    obtain ⟨t, ht⟩ := hd.selects dc
    obtain ⟨c, hc, rfl⟩ := ht.mem
    rw [realize_switch ht]
    exact .switch hc (ih c hc)
  | animation timed _ ih =>
    obtain ⟨t, shows, _, f, hf, rfl⟩ := Frame.shown timed.pos dc
    rw [realize_animation shows]
    exact .animation hf (ih f hf)

end Cityscape.TileImage
