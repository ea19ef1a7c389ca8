import Cityscape.Proofs.TileImage.Kind
import Cityscape.TileImage.Draw

/-!
# The last variant

A tree that has not been realized is drawn and measured as if only the last variant of each switch and
of each animation were there. `lastVariant` is the tree of these variants. Rules that look at nothing
else (`Algebra.LastOnly`) give one result for a tree and for its last variant, and the rules for sizes,
bounds and drawing are of this kind.

Normalization and enumeration choose the same variant by other means. The last case of nested cases is
found by two last cases, one after the other (`Case.default?_nest`), so by induction on the tree the
last alternative of its normal form (`Sized.default?_normalForm`) and the last of its variants
(`Sized.default?_variants`) are both the last variant. The main statement, `lastVariant_agrees`, puts
all of this together.
-/

namespace Cityscape

variable {α β : Type}

/-! ## The last of nested cases -/

namespace Case

/-- The default is the last of the images. -/
lemma default?_eq {cs : List (Case α)} : default? cs = (cs.map (·.image)).getLast? :=
  List.getLast?_map.symm

/-- Of changed cases the default is the default, changed. -/
lemma default?_map {f : α → β} {cs : List (Case α)} :
    default? (cs.map (Case.map f)) = (default? cs).map f := by
  rw [default?, default?, List.getLast?_map, Option.map_map, Option.map_map]
  rfl

/-- Cases with a default have the image of one of them as default. -/
lemma HasDefault.default? {cs : List (Case α)} (h : HasDefault cs) :
    ∃ c ∈ cs, default? cs = some c.image := by
  obtain ⟨last, e, _⟩ := hasDefault_iff.1 h
  exact ⟨last, List.mem_of_getLast? e, by rw [Case.default?, e]; rfl⟩

/-- The last of nested cases is the last one inside the last case. -/
lemma default?_nest {cs : List (Case α)} {inner : α → List (Case β)} {a b}
    (h : default? cs = some a) (h' : default? (inner a) = some b) :
    default? (nest cs inner) = some b := by
  obtain ⟨c, hc, rfl⟩ := Option.map_eq_some_iff.1 h
  obtain ⟨d, hd, rfl⟩ := Option.map_eq_some_iff.1 h'
  obtain ⟨front, rfl⟩ := List.getLast?_eq_some_iff.1 hc
  rw [default?, nest, List.flatMap_append, List.flatMap_singleton, List.getLast?_append,
    List.getLast?_map, hd]
  rfl

/-- Making cases exclusive keeps the default. -/
lemma default?_exclusive {e : Condition} {cs : List (Case α)} :
    default? (exclusive e cs) = default? cs := by
  rw [default?_eq, images_exclusive, ← default?_eq]

end Case

namespace Frame

/-- Of changed frames the default is the default, changed. -/
lemma default?_map {f : α → β} {fs : List (Frame α)} :
    default? (fs.map (Frame.map f)) = (default? fs).map f := by
  rw [default?, default?, List.getLast?_map, Option.map_map, Option.map_map]
  rfl

/-- The windows of frames have the default of the frames. -/
lemma default?_windows {fs : List (Frame α)} : Case.default? (windows fs) = default? fs := by
  rw [Case.default?_eq, images_windows, List.getLast?_map]
  rfl

/-- The cases of frames have the default of the frames. -/
lemma default?_asCases {fs : List (Frame α)} : Case.default? (asCases fs) = default? fs := by
  rw [Case.default?_eq, images_asCases, List.getLast?_map]
  rfl

/-- Frames that an animation can repeat have the image of one of them as default. -/
lemma Timed.default? {fs : List (Frame α)} (h : Timed fs) :
    ∃ f ∈ fs, default? fs = some f.image := by
  have e := List.getLast?_eq_some_getLast h.nonempty
  exact ⟨_, List.mem_of_getLast? e, by rw [Frame.default?, e]; rfl⟩

end Frame

namespace TileImage

open Case (nest exclusive)

/-! ## The tree of last variants -/

/-- The last variant of the root. -/
def defaultImage? : TileImage → Option TileImage
  | switch cases => Case.default? cases
  | animation frames => Frame.default? frames
  | _ => none

/-- The tree with the last variant in place of every switch and of every animation. -/
def lastVariant : TileImage → TileImage :=
  fold
    { source := .source
      scaled := .scaled
      sprite := fun window _ child => .sprite window child
      layer := .layer
      switch := fun cases => (Case.default? cases).getD (.switch [])
      animation := fun frames => (Frame.default? frames).getD (.animation []) }

/-- Rules that look at the last variant of a switch or an animation only, and at the size of the child
of a sprite. -/
structure Algebra.LastOnly (rules : Algebra α) : Prop where
  sprite : ∀ {window child child' a}, child.size = child'.size →
    rules.sprite window child a = rules.sprite window child' a
  switch : ∃ none, ∀ cs, rules.switch cs = (Case.default? cs).getD none
  animation : ∃ none, ∀ fs, rules.animation fs = (Frame.default? fs).getD none

section
variable {rules : Algebra α} (hr : rules.LastOnly)
include hr

/-- Such rules fold a switch like its default. -/
lemma Algebra.LastOnly.fold_switch {cs t} (h : Case.default? cs = some t) :
    fold rules (.switch cs) = fold rules t := by
  obtain ⟨none, last⟩ := hr.switch
  rw [TileImage.fold_switch, last, Case.default?_map, h]
  rfl

/-- Such rules fold an animation like its default. -/
lemma Algebra.LastOnly.fold_animation {fs t} (h : Frame.default? fs = some t) :
    fold rules (.animation fs) = fold rules t := by
  obtain ⟨none, last⟩ := hr.animation
  rw [TileImage.fold_animation, last, Frame.default?_map, h]
  rfl

end

/-- The last variant of a switch is that of its default. -/
lemma lastVariant_switch {cs t} (h : Case.default? cs = some t) :
    lastVariant (.switch cs) = lastVariant t :=
  Algebra.LastOnly.fold_switch ⟨fun _ => rfl, ⟨_, fun _ => rfl⟩, ⟨_, fun _ => rfl⟩⟩ h

/-- The last variant of an animation is that of its default. -/
lemma lastVariant_animation {fs t} (h : Frame.default? fs = some t) :
    lastVariant (.animation fs) = lastVariant t :=
  Algebra.LastOnly.fold_animation ⟨fun _ => rfl, ⟨_, fun _ => rfl⟩, ⟨_, fun _ => rfl⟩⟩ h

/-- The last variant resolves the tree. -/
lemma Sized.resolves_lastVariant {t s} (h : Sized t s) : Resolves t t.lastVariant := by
  induction h with
  | source => exact .source
  | scaled => exact .scaled
  | sprite _ ih => exact .sprite ih
  | layer _ _ ihb iha => exact .layer ihb iha
  | switch hd _ ih =>
    obtain ⟨c, hc, e⟩ := hd.default?
    rw [lastVariant_switch e]
    exact .switch hc (ih c hc)
  | animation timed _ ih =>
    obtain ⟨f, hf, e⟩ := timed.default?
    rw [lastVariant_animation e]
    exact .animation hf (ih f hf)

/-- The last variant of a tree has its size. -/
lemma Sized.lastVariant {t s} (h : Sized t s) : Sized t.lastVariant s :=
  h.resolves_lastVariant.sized h

/-- Rules that look at the last variant only have one result for a tree and its last variant. -/
lemma Sized.fold_lastVariant {rules : Algebra α} (hr : rules.LastOnly) {t s} (h : Sized t s) :
    fold rules t.lastVariant = fold rules t := by
  induction h with
  | source => rfl
  | scaled => rfl
  | @sprite window child s hc ih =>
    show rules.sprite window child.lastVariant (fold rules child.lastVariant) =
      rules.sprite window child (fold rules child)
    rw [ih]
    exact hr.sprite (hc.lastVariant.size_eq.trans hc.size_eq.symm)
  | layer _ _ ihb iha => exact congrArg₂ rules.layer ihb iha
  | switch hd _ ih =>
    obtain ⟨c, hc, e⟩ := hd.default?
    rw [lastVariant_switch e, hr.fold_switch e]
    exact ih c hc
  | animation timed _ ih =>
    obtain ⟨f, hf, e⟩ := timed.default?
    rw [lastVariant_animation e, hr.fold_animation e]
    exact ih f hf

/-! ## Normal forms and variants -/

/-- The last alternative of the normal form is the last variant of the tree. -/
lemma Sized.default?_normalForm {t s} (h : Sized t s) :
    Case.default? t.normalForm.alternatives = some t.lastVariant := by
  induction h with
  | source => rfl
  | scaled => rfl
  | sprite _ ih =>
    rw [alternatives_normalForm_sprite, Case.default?_map, ih]
    rfl
  | layer _ _ ihb iha =>
    rw [alternatives_normalForm_layer]
    refine Case.default?_nest ihb ?_
    rw [Case.default?_map, iha]
    rfl
  | switch hd _ ih =>
    obtain ⟨c, hc, e⟩ := hd.default?
    rw [alternatives_normalForm_switch, lastVariant_switch e]
    exact Case.default?_nest e (ih c hc)
  | animation timed _ ih =>
    obtain ⟨f, hf, e⟩ := timed.default?
    rw [alternatives_normalForm_animation, lastVariant_animation e]
    exact Case.default?_nest (Frame.default?_asCases.trans e) (ih f hf)

/-- The last variant that is enumerated is the last variant of the tree. -/
lemma Sized.default?_variants {t s} (h : Sized t s) :
    Case.default? t.variants.toList = some t.lastVariant := by
  induction h with
  | source => rfl
  | scaled => rfl
  | sprite _ ih =>
    rw [variants_sprite, Case.default?_map, ih]
    rfl
  | layer _ _ ihb iha =>
    rw [variants_layer]
    refine Case.default?_nest ihb ?_
    rw [Case.default?_map, iha]
    rfl
  | switch hd _ ih =>
    obtain ⟨c, hc, e⟩ := hd.default?
    rw [variants_switch, lastVariant_switch e]
    exact Case.default?_nest (Case.default?_exclusive.trans e) (ih c hc)
  | animation timed _ ih =>
    obtain ⟨f, hf, e⟩ := timed.default?
    rw [variants_animation, lastVariant_animation e]
    exact Case.default?_nest (Frame.default?_windows.trans e) (ih f hf)

/-- The last variant of the normal form is that of the tree. -/
lemma Sized.lastVariant_normalForm {t s} (h : Sized t s) :
    t.normalForm.lastVariant = t.lastVariant := by
  have tree := h.default?_normalForm
  have form := h.normalForm.default?_normalForm
  rw [normalForm_normalForm] at form
  exact Option.some.inj (form.symm.trans tree)

/-- The default of a conditional root is its last alternative. -/
lemma defaultImage?_eq {t : TileImage} (h : t.isConditional = true) :
    t.defaultImage? = Case.default? t.alternatives := by
  cases t with
  | switch cs => rfl
  | animation fs => exact Frame.default?_asCases.symm
  | _ => cases h

/-! ## Drawing and measuring -/

/-- A tree has the bounds of its last variant. -/
lemma Sized.bounds?_lastVariant {t s} (h : Sized t s) : t.lastVariant.bounds? = t.bounds? := by
  refine h.fold_lastVariant ⟨fun size => ?_, ⟨_, fun _ => rfl⟩, ⟨_, fun _ => rfl⟩⟩
  dsimp only
  rw [size]

/-- A tree has the bounds of its normal form. -/
lemma Sized.bounds?_normalForm {t s} (h : Sized t s) : t.normalForm.bounds? = t.bounds? := by
  rw [← h.bounds?_lastVariant, ← h.normalForm.bounds?_lastVariant, h.lastVariant_normalForm]

/-- A tree is drawn as its last variant. -/
lemma Sized.drawFragment?_lastVariant {t s} (h : Sized t s) :
    t.lastVariant.drawFragment? = t.drawFragment? := by
  refine h.fold_lastVariant ⟨fun size => ?_, ⟨_, fun _ => rfl⟩, ⟨_, fun _ => rfl⟩⟩
  dsimp only
  rw [size]

/-- A tree is drawn as its normal form. -/
lemma Sized.drawFragment?_normalForm {t s} (h : Sized t s) :
    t.normalForm.drawFragment? = t.drawFragment? := by
  rw [← h.drawFragment?_lastVariant, ← h.normalForm.drawFragment?_lastVariant,
    h.lastVariant_normalForm]

/-- A tree, its normal form and its last variant are drawn and measured alike, and the last variant,
which has no switch and no animation, is what normalization and enumeration end in: it is the normal
form of a tree without switches and animations, and else the last variant at the root of the normal
form; and it is the image of the last of all variants. -/
theorem lastVariant_agrees {t : TileImage} (h : Valid t) :
    t.lastVariant.containsConditional = false ∧
    (t.containsConditional = false → t.normalForm = t.lastVariant) ∧
    (t.containsConditional = true → t.normalForm.defaultImage? = some t.lastVariant) ∧
    t.variants.toList.getLast?.map (·.image) = some t.lastVariant ∧
    (t.normalForm.size = t.size ∧ t.lastVariant.size = t.size) ∧
    (t.normalForm.bounds? = t.bounds? ∧ t.lastVariant.bounds? = t.bounds?) ∧
    ∀ origin fragment canvas,
      t.normalForm.drawFragment? origin fragment canvas = t.drawFragment? origin fragment canvas ∧
      t.lastVariant.drawFragment? origin fragment canvas = t.drawFragment? origin fragment canvas := by
  have sized := h.sized
  refine ⟨plain_iff.1 sized.resolves_lastVariant.plain, fun plain => ?_, fun conditional => ?_,
    sized.default?_variants, ⟨sized.normalForm.size_eq, sized.lastVariant.size_eq⟩, ?_, ?_⟩
  · -- The only alternative of a plain tree is the tree itself.
    have last := sized.default?_normalForm
    rw [(plain_iff.2 plain).normalForm_eq, (plain_iff.2 plain).alternatives_eq] at last
    rw [(plain_iff.2 plain).normalForm_eq]
    exact Option.some.inj last
  · rw [defaultImage?_eq (isConditional_normalForm conditional)]
    exact sized.default?_normalForm
  · exact ⟨sized.bounds?_normalForm, sized.bounds?_lastVariant⟩
  · intro origin fragment canvas
    rw [sized.drawFragment?_normalForm, sized.drawFragment?_lastVariant]
    exact ⟨rfl, rfl⟩

/-- The crossing ends in its last road below the last frame of its light. A tile of it has one variant
only, which is its normal form. -/
theorem lastVariant_agrees_crossing :
    Valid Crossing.image ∧
      Crossing.image.lastVariant =
        .layer (Crossing.tile 3) (.sprite ⟨0, 8, 4, 0⟩ (Crossing.tile 6)) ∧
      Crossing.image.normalForm.defaultImage? = some Crossing.image.lastVariant ∧
      Crossing.image.variants.toList.getLast?.map (·.image) = some Crossing.image.lastVariant ∧
      Crossing.image.normalForm.bounds? = some ⟨16, 20⟩ ∧
      (∀ origin fragment canvas,
        Crossing.image.normalForm.drawFragment? origin fragment canvas =
          Crossing.image.drawFragment? origin fragment canvas) ∧
      (Crossing.tile 3).normalForm = (Crossing.tile 3).lastVariant := by
  obtain ⟨_, _, conditional, variants, _, ⟨bounds, _⟩, draw⟩ := lastVariant_agrees Crossing.valid
  obtain ⟨_, plain, _⟩ := lastVariant_agrees (.sprite .source : Valid (Crossing.tile 3))
  refine ⟨Crossing.valid, rfl, conditional rfl, variants, bounds.trans rfl, ?_, plain rfl⟩
  exact fun origin fragment canvas => (draw origin fragment canvas).1

end TileImage

end Cityscape
