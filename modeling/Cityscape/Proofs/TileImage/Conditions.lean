import Cityscape.Proofs.Case.Conditions
import Cityscape.Proofs.TileImage.Enumeration

/-!
# Conditions throughout a tree

`Throughout P` says that every condition in a tree, at whatever depth, is of the kind `P`. The normal
form and the enumeration of variants take the conditions of a tree, and the windows of its animations,
and join and negate them on the way to the root. Where the kind is closed under this, the judgment is a
structural one (`throughout_structural`), so the normal form keeps it (`Throughout.normalForm`), and the
conditions of all variants are of the kind (`Throughout.variants`). `conditions` lists what a tree is
made with, and `throughout_iff` says the same of a tree by its list.
-/

namespace Cityscape.TileImage

open Case (Every)
open Condition (Closed)

variable {P : Condition → Prop}

/-- Every condition in a tree is of one kind. With an animation there come the windows of its frames,
so the kind has to admit them. -/
inductive Throughout (P : Condition → Prop) : TileImage → Prop where
  | source {pixels basis} :
    Throughout P (.source pixels basis)
  | scaled {pixels basis target} :
    Throughout P (.scaled pixels basis target)
  | sprite {window child} :
    Throughout P child →
    Throughout P (.sprite window child)
  | layer {below above} :
    Throughout P below →
    Throughout P above →
    Throughout P (.layer below above)
  | switch {cs} :
    Every P cs →
    (∀ c ∈ cs, Throughout P c.image) →
    Throughout P (.switch cs)
  | animation {fs} :
    (∀ period start stop, P (.frame period start stop)) →
    (∀ f ∈ fs, Throughout P f.image) →
    Throughout P (.animation fs)

/-- The conditions of all cases in a tree, at whatever depth. -/
def conditions : TileImage → List Condition :=
  fold
    { source := fun _ _ => []
      scaled := fun _ _ _ => []
      sprite := fun _ _ child => child
      layer := fun below above => below ++ above
      switch := fun cases => cases.flatMap fun c => c.condition :: c.image
      animation := fun frames => frames.flatMap (·.image) }

/-- The conditions of a switch are those of its cases, each before the ones in its image. -/
lemma conditions_switch {cs} :
    conditions (.switch cs) = cs.flatMap fun c => c.condition :: c.image.conditions := by
  rw [conditions, fold_switch]
  show (cs.map (Case.map conditions)).flatMap (fun c => c.condition :: c.image) = _
  rw [List.flatMap_map]
  rfl

/-- The conditions of an animation are those in its frames. -/
lemma conditions_animation {fs} :
    conditions (.animation fs) = fs.flatMap (·.image.conditions) := by
  rw [conditions, fold_animation]
  show (fs.map (Frame.map conditions)).flatMap (·.image) = _
  rw [List.flatMap_map]
  rfl

/-- Where windows are admitted anyway, only the conditions of the cases matter. -/
lemma throughout_iff (window : ∀ period start stop, P (.frame period start stop)) {t} :
    Throughout P t ↔ ∀ c ∈ t.conditions, P c := by
  constructor
  · intro h
    induction h with
    | source => exact List.forall_mem_nil _
    | scaled => exact List.forall_mem_nil _
    | sprite _ ih => exact ih
    | layer _ _ ihb iha => exact List.forall_mem_append.2 ⟨ihb, iha⟩
    | switch every _ ih =>
      rw [conditions_switch, List.forall_mem_flatMap]
      exact fun c hc => List.forall_mem_cons.2 ⟨every c hc, ih c hc⟩
    | animation _ _ ih =>
      rw [conditions_animation, List.forall_mem_flatMap]
      exact ih
  · intro h
    induction t using TileImage.induction with
    | onSource => exact .source
    | onScaled => exact .scaled
    | onSprite _ _ ih => exact .sprite (ih h)
    | onLayer _ _ ihb iha =>
      obtain ⟨hb, ha⟩ := List.forall_mem_append.1 h
      exact .layer (ihb hb) (iha ha)
    | onSwitch cs ih =>
      rw [conditions_switch, List.forall_mem_flatMap] at h
      exact .switch (fun c hc => (List.forall_mem_cons.1 (h c hc)).1)
        fun c hc => ih c hc (List.forall_mem_cons.1 (h c hc)).2
    | onAnimation fs ih =>
      rw [conditions_animation, List.forall_mem_flatMap] at h
      exact .animation window fun f hf => ih f hf (h f hf)

/-- Throughout a tree, a closed kind of conditions is a structural property. -/
lemma throughout_structural (closed : Closed P) :
    Structural (Throughout P) (Every P) fun _ => ∀ period start stop, P (.frame period start stop) where
  sprite := by
    refine ⟨fun h => ?_, .sprite⟩
    cases h with | sprite h => exact h
  layer := by
    refine ⟨fun h => ?_, fun h => .layer h.1 h.2⟩
    cases h with | layer hb ha => exact ⟨hb, ha⟩
  switch := by
    refine ⟨fun h => ?_, fun h => .switch h.1 h.2⟩
    cases h with | switch every hs => exact ⟨every, hs⟩
  animation := by
    refine ⟨fun h => ?_, fun h => .animation h.1 h.2⟩
    cases h with | animation window hs => exact ⟨window, hs⟩
  certain _ := List.forall_mem_singleton.2 closed.always
  changed f _ h := h.map f
  nested h hi := h.nest closed.conj hi
  changedFrames _ _ window := window
  asCases window := Frame.every_asCases window closed.always _

namespace Throughout

variable (closed : Closed P)
include closed

/-- The normal form has conditions of a closed kind only, if the tree has. -/
lemma normalForm {t} (h : Throughout P t) : Throughout P t.normalForm :=
  (throughout_structural closed).normalForm h

/-- The variants have conditions of a closed kind only, if the tree has. -/
lemma variants {t} (h : Throughout P t) : Every P t.variants.toList := by
  induction h with
  | source => exact List.forall_mem_singleton.2 closed.always
  | scaled => exact List.forall_mem_singleton.2 closed.always
  | sprite _ ih =>
    rw [variants_sprite]
    exact ih.map _
  | layer _ _ ihb iha =>
    rw [variants_layer]
    exact ihb.nest closed.conj fun _ _ => iha.map _
  | switch every _ ih =>
    rw [variants_switch]
    apply (every.exclusive closed closed.always).nest closed.conj
    intro c hc
    obtain ⟨d, hd, e⟩ := Case.mem_exclusive hc
    exact e ▸ ih d hd
  | @animation fs window _ ih =>
    rw [variants_animation]
    apply (Frame.every_windows window closed.always fs).nest closed.conj
    intro c hc
    obtain ⟨f, hf, e⟩ := Frame.mem_windows hc
    exact e ▸ ih f hf

end Throughout

end Cityscape.TileImage
