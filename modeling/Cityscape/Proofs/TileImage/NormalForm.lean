import Cityscape.Proofs.TileImage.Validity
import Cityscape.TileImage.NormalForm

/-!
# The shape of normal forms

`alternatives` lists the cases that a tree selects from at its root, with one certain case for a
tree that does not select. The rules of the normal form differ from node to node, but on
alternatives each of them is a nesting of cases: `alternatives_normalForm_sprite` and the three
lemmas after it. Nothing else is needed to follow selection and enumeration through a normal form.

A judgment on trees is `Structural` if it is made node by node, and what it asks of the cases of a
switch is kept by nesting. Such a judgment is kept by each of the rules, and so by the normal form
(`Structural.normalForm`).

`Plain` trees have no switch and no animation, and `Normal` trees have them at most at the root,
with plain variants. Every normal form is normal (`normal_normalForm`), and a normal tree is its own
normal form (`Normal.normalForm_eq`), so normalizing twice is normalizing once
(`normalForm_normalForm`).
-/

namespace Cityscape.TileImage

open Case (nest under)

/-- The cases that a tree selects from at its root. -/
def alternatives (t : TileImage) : List (Case TileImage) := t.cases?.getD [⟨.always, t⟩]

/-- A tree without switches and animations. -/
inductive Plain : TileImage → Prop where
  | source {pixels basis} :
    Plain (.source pixels basis)
  | scaled {pixels basis target} :
    Plain (.scaled pixels basis target)
  | sprite {window child} :
    Plain child →
    Plain (.sprite window child)
  | layer {below above} :
    Plain below →
    Plain above →
    Plain (.layer below above)

/-- A tree with a switch or an animation at most at the root. -/
inductive Normal : TileImage → Prop where
  | plain {t} :
    Plain t →
    Normal t
  | switch {cs} :
    (∀ c ∈ cs, Plain c.image) →
    Normal (.switch cs)
  | animation {fs} :
    (∀ f ∈ fs, Plain f.image) →
    Normal (.animation fs)

/-! ## Nodes as nested cases -/

/-- The alternatives of a root that selects are its cases. -/
lemma alternatives_of_cases? {t : TileImage} {cs} (h : t.cases? = some cs) : t.alternatives = cs := by
  rw [alternatives, h]
  rfl

/-- A root that does not select has one certain alternative, itself. -/
lemma alternatives_of_none {t : TileImage} (h : t.cases? = none) : t.alternatives = [⟨.always, t⟩] := by
  rw [alternatives, h]
  rfl

/-- Splicing nests the alternatives of the images in the cases. -/
lemma splice_eq_nest {cs} : splice cs = nest cs alternatives := by
  have key : ∀ c, spliceCase c = c.image.alternatives.map (under c.condition) := by
    intro c
    rw [spliceCase]
    split
    case h_1 inner h =>
      rw [alternatives_of_cases? h]
      rfl
    case h_2 h =>
      rw [alternatives_of_none h, List.map_singleton, under, Case.conj_always]
  exact congrArg (List.flatMap · cs) (funext key)

/-- Crossing nests the minor cases in the major ones. -/
lemma cross_eq_nest {wrap majors minors} :
    cross wrap majors minors = nest majors fun t => minors.map (Case.map (wrap t)) := by
  refine congrArg (List.flatMap · majors) (funext fun m => ?_)
  rw [List.map_map]
  rfl

/-- Hoisting changes the alternatives one by one. -/
lemma alternatives_hoist {wrap : TileImage → TileImage} {t} (hw : ∀ u, (wrap u).cases? = none) :
    (hoist wrap t).alternatives = t.alternatives.map (Case.map wrap) := by
  cases t with
  | switch cs => rfl
  | animation fs => exact Frame.asCases_map
  | _ => exact alternatives_of_none (hw _)

/-- Hoisting a pair nests the alternatives of one tree in those of the other. -/
lemma alternatives_hoistPair {wrap : TileImage → TileImage → TileImage} {major minor}
    (hw : ∀ t u, (wrap t u).cases? = none) :
    (hoistPair wrap major minor).alternatives =
      nest major.alternatives fun t => minor.alternatives.map (Case.map (wrap t)) := by
  rw [hoistPair]
  -- Where one of the trees does not select, one level of the nest has a single certain case.
  split
  case h_1 majors minors hM hm =>
    rw [alternatives_of_cases? hM, alternatives_of_cases? hm]
    exact cross_eq_nest
  case h_2 majors hM hm =>
    rw [alternatives_hoist fun t => hw t minor, alternatives_of_none hm]
    exact Case.nest_always.symm
  case h_3 minors hM hm =>
    rw [alternatives_hoist fun u => hw major u, alternatives_of_none hM, Case.always_nest]
  case h_4 hM hm =>
    rw [alternatives_of_none (hw major minor), alternatives_of_none hM, alternatives_of_none hm]
    exact Case.always_nest.symm

/-- A root that is not conditional has no cases. -/
lemma cases?_of_isConditional {t : TileImage} (h : t.isConditional = false) : t.cases? = none := by
  cases t <;> first | rfl | cases h

/-- If no frame is conditional, then each has only itself to be selected. -/
lemma cases?_of_not_any {fs : List (Frame TileImage)}
    (h : ¬(fs.any fun f => f.image.isConditional) = true) {f} (hf : f ∈ fs) :
    f.image.cases? = none := by
  apply cases?_of_isConditional
  rw [Bool.eq_false_iff]
  intro hi
  exact h (List.any_eq_true.2 ⟨f, hf, hi⟩)

/-- An animation has its frames as alternatives, with those of conditional frames spliced in. -/
lemma alternatives_animate {fs} :
    (animate fs).alternatives = nest (Frame.asCases fs) alternatives := by
  rw [animate]
  split
  case isTrue => exact splice_eq_nest
  case isFalse h =>
    have plain : ∀ c ∈ Frame.asCases fs, c.image.alternatives = [⟨.always, c.image⟩] := by
      intro c hc
      obtain ⟨f, hf, e⟩ := Frame.mem_asCases hc
      rw [← e]
      exact alternatives_of_none (cases?_of_not_any h hf)
    exact (Case.nest_eq_self plain).symm

/-- The normal form of a sprite is hoisted from that of its child. -/
lemma normalForm_sprite {window child} :
    normalForm (.sprite window child) = hoist (.sprite window) child.normalForm := rfl

/-- The normal form of a layer is hoisted from those of its two parts. -/
lemma normalForm_layer {below above} :
    normalForm (.layer below above) = hoistPair .layer below.normalForm above.normalForm := rfl

/-- The normal form of a switch is spliced together from those of its cases. -/
lemma normalForm_switch {cs} :
    normalForm (.switch cs) = .switch (splice (cs.map (Case.map normalForm))) := fold_switch _ _

/-- The normal form of an animation is made from those of its frames. -/
lemma normalForm_animation {fs} :
    normalForm (.animation fs) = animate (fs.map (Frame.map normalForm)) := fold_animation _ _

/-- In normal form, a sprite selects among the alternatives of its child, through the window. -/
lemma alternatives_normalForm_sprite {window child} :
    (normalForm (.sprite window child)).alternatives =
      child.normalForm.alternatives.map (Case.map (.sprite window)) :=
  alternatives_hoist fun _ => rfl

/-- In normal form, a layer selects among all pairs of an alternative below and one above. -/
lemma alternatives_normalForm_layer {below above} :
    (normalForm (.layer below above)).alternatives =
      nest below.normalForm.alternatives fun t =>
        above.normalForm.alternatives.map (Case.map (.layer t)) :=
  alternatives_hoistPair fun _ _ => rfl

/-- In normal form, a switch selects among the alternatives of its images, nested in the cases. -/
lemma alternatives_normalForm_switch {cs} :
    (normalForm (.switch cs)).alternatives = nest cs fun t => t.normalForm.alternatives := by
  rw [normalForm_switch, alternatives_of_cases? rfl, splice_eq_nest]
  exact Case.nest_map

/-- In normal form, an animation selects among the alternatives of its images, nested in the cases of
its frames. -/
lemma alternatives_normalForm_animation {fs} :
    (normalForm (.animation fs)).alternatives =
      nest (Frame.asCases fs) fun t => t.normalForm.alternatives := by
  rw [normalForm_animation, alternatives_animate, Frame.asCases_map]
  exact Case.nest_map

/-! ## What the rules keep -/

/-- A judgment on trees that is made node by node. It asks something of the cases of every switch and
of the frames of every animation. What it asks of cases is kept where they are changed or nested, and
frames that it accepts make cases that it accepts. -/
structure Structural (J : TileImage → Prop) (S : List (Case TileImage) → Prop)
    (A : List (Frame TileImage) → Prop) : Prop where
  sprite {window child} : J (.sprite window child) ↔ J child
  layer {below above} : J (.layer below above) ↔ J below ∧ J above
  switch {cs} : J (.switch cs) ↔ S cs ∧ ∀ c ∈ cs, J c.image
  animation {fs} : J (.animation fs) ↔ A fs ∧ ∀ f ∈ fs, J f.image
  certain (t : TileImage) : S [⟨.always, t⟩]
  changed (f : TileImage → TileImage) {cs} : S cs → S (cs.map (Case.map f))
  nested {cs inner} : S cs → (∀ c ∈ cs, S (inner c.image)) → S (nest cs inner)
  changedFrames (f : TileImage → TileImage) {fs} : A fs → A (fs.map (Frame.map f))
  asCases {fs} : A fs → S (Frame.asCases fs)

namespace Structural

variable {J : TileImage → Prop} {S : List (Case TileImage) → Prop} {A : List (Frame TileImage) → Prop}
  (k : Structural J S A)
include k

/-- What a tree selects between is judged as the tree is. -/
lemma alternatives {t} (h : J t) : S t.alternatives ∧ ∀ c ∈ t.alternatives, J c.image := by
  cases e : t.cases? with
  | none =>
    rw [alternatives_of_none e]
    exact ⟨k.certain t, List.forall_mem_singleton.2 h⟩
  | some cs =>
    rw [alternatives_of_cases? e]
    cases t with
    | switch cs =>
      cases e
      exact k.switch.1 h
    | animation fs =>
      cases e
      obtain ⟨frames, trees⟩ := k.animation.1 h
      refine ⟨k.asCases frames, fun c hc => ?_⟩
      obtain ⟨f, hf, e⟩ := Frame.mem_asCases hc
      exact e ▸ trees f hf
    | _ => cases e

/-- Hoisting keeps the judgment if what is wrapped around the variants does. -/
lemma hoist {wrap t} (hw : ∀ u, J u → J (wrap u)) (h : J t) : J (TileImage.hoist wrap t) := by
  cases t with
  | switch cs =>
    obtain ⟨cases', trees⟩ := k.switch.1 h
    refine k.switch.2 ⟨k.changed wrap cases', fun _ hm => ?_⟩
    obtain ⟨c, hc, rfl⟩ := List.mem_map.1 hm
    exact hw _ (trees c hc)
  | animation fs =>
    obtain ⟨frames, trees⟩ := k.animation.1 h
    refine k.animation.2 ⟨k.changedFrames wrap frames, fun _ hm => ?_⟩
    obtain ⟨f, hf, rfl⟩ := List.mem_map.1 hm
    exact hw _ (trees f hf)
  | _ => exact hw _ h

/-- Nested cases make a switch of the kind of what is nested. -/
lemma switch_nest {cs inner} (outer : S cs) (within : ∀ c ∈ cs, S (inner c.image))
    (trees : ∀ c ∈ cs, ∀ d ∈ inner c.image, J d.image) : J (.switch (nest cs inner)) := by
  refine k.switch.2 ⟨k.nested outer within, fun d hm => ?_⟩
  obtain ⟨c, hc, e, he, eq⟩ := Case.mem_nest hm
  exact eq ▸ trees c hc e he

/-- Hoisting a pair keeps the judgment if what is wrapped around the variants does. -/
lemma hoistPair {wrap major minor} (hw : ∀ t u, J t → J u → J (wrap t u)) (hM : J major)
    (hm : J minor) : J (TileImage.hoistPair wrap major minor) := by
  rw [TileImage.hoistPair]
  split
  -- Only here is a switch made that neither of the trees had.
  case h_1 majors minors eM em =>
    obtain rfl := alternatives_of_cases? eM
    obtain rfl := alternatives_of_cases? em
    obtain ⟨casesM, treesM⟩ := k.alternatives hM
    obtain ⟨casesm, treesm⟩ := k.alternatives hm
    rw [cross_eq_nest]
    refine k.switch_nest casesM (fun _ _ => k.changed _ casesm) fun c hc _ hd' => ?_
    obtain ⟨d, hd, rfl⟩ := List.mem_map.1 hd'
    exact hw _ _ (treesM c hc) (treesm d hd)
  case h_2 => exact k.hoist (fun t ht => hw t minor ht hm) hM
  case h_3 => exact k.hoist (fun u hu => hw major u hM hu) hm
  case h_4 => exact hw _ _ hM hm

/-- Splicing keeps the judgment. -/
lemma splice {cs} (outer : S cs) (trees : ∀ c ∈ cs, J c.image) :
    J (.switch (TileImage.splice cs)) := by
  rw [splice_eq_nest]
  apply k.switch_nest outer
  · exact fun c hc => (k.alternatives (trees c hc)).1
  · exact fun c hc => (k.alternatives (trees c hc)).2

/-- Making an image of frames keeps the judgment. -/
lemma animate {fs} (frames : A fs) (trees : ∀ f ∈ fs, J f.image) : J (TileImage.animate fs) := by
  rw [TileImage.animate]
  split
  case isTrue =>
    refine k.splice (k.asCases frames) fun c hc => ?_
    obtain ⟨f, hf, e⟩ := Frame.mem_asCases hc
    exact e ▸ trees f hf
  case isFalse => exact k.animation.2 ⟨frames, trees⟩

/-- The normal form is judged as the tree is. -/
lemma normalForm {t} (h : J t) : J t.normalForm := by
  induction t using TileImage.induction with
  | onSource => exact h
  | onScaled => exact h
  | onSprite _ _ ih => exact k.hoist (fun _ => k.sprite.2) (ih (k.sprite.1 h))
  | onLayer _ _ ihb iha =>
    obtain ⟨hb, ha⟩ := k.layer.1 h
    exact k.hoistPair (fun _ _ ht hu => k.layer.2 ⟨ht, hu⟩) (ihb hb) (iha ha)
  | onSwitch cs ih =>
    obtain ⟨outer, trees⟩ := k.switch.1 h
    rw [normalForm_switch]
    refine k.splice (k.changed _ outer) fun _ hm => ?_
    obtain ⟨c, hc, rfl⟩ := List.mem_map.1 hm
    exact ih c hc (trees c hc)
  | onAnimation fs ih =>
    obtain ⟨frames, trees⟩ := k.animation.1 h
    rw [normalForm_animation]
    refine k.animate (k.changedFrames _ frames) fun _ hm => ?_
    obtain ⟨f, hf, rfl⟩ := List.mem_map.1 hm
    exact ih f hf (trees f hf)

end Structural

/-! ## Normal trees -/

/-- A switch contains something conditional. -/
lemma containsConditional_switch {cs} : (switch cs).containsConditional = true := by
  rw [containsConditional, fold_switch]

/-- An animation contains something conditional. -/
lemma containsConditional_animation {fs} : (animation fs).containsConditional = true := by
  rw [containsConditional, fold_animation]

/-- The plain trees are those that contain nothing conditional. -/
lemma plain_iff {t} : Plain t ↔ t.containsConditional = false := by
  constructor
  · intro h
    induction h with
    | source => rfl
    | scaled => rfl
    | sprite _ ih => exact ih
    | layer _ _ ihb iha => exact (congrArg₂ or ihb iha :)
  · intro h
    induction t using TileImage.induction with
    | onSource => exact .source
    | onScaled => exact .scaled
    | onSprite _ _ ih => exact .sprite (ih h)
    | onLayer _ _ ihb iha =>
      obtain ⟨hb, ha⟩ := Bool.or_eq_false_iff.1 h
      exact .layer (ihb hb) (iha ha)
    | onSwitch cs _ =>
      rw [containsConditional_switch] at h
      cases h
    | onAnimation fs _ =>
      rw [containsConditional_animation] at h
      cases h

/-- The root of a plain tree is not conditional. -/
lemma Plain.isConditional_eq {t} (h : Plain t) : t.isConditional = false := by
  cases h <;> rfl

/-- A plain tree has no cases. -/
lemma Plain.cases?_eq {t} (h : Plain t) : t.cases? = none :=
  cases?_of_isConditional h.isConditional_eq

/-- A plain tree has one certain alternative, itself. -/
lemma Plain.alternatives_eq {t} (h : Plain t) : t.alternatives = [⟨.always, t⟩] :=
  alternatives_of_none h.cases?_eq

/-- Nothing is hoisted from a plain tree. -/
lemma Plain.hoist_eq {wrap t} (h : Plain t) : hoist wrap t = wrap t := by
  cases h <;> rfl

/-- A plain tree is its own normal form. -/
lemma Plain.normalForm_eq {t} (h : Plain t) : t.normalForm = t := by
  induction h with
  | source => rfl
  | scaled => rfl
  | @sprite window child h ih => rw [normalForm_sprite, ih, h.hoist_eq]
  | @layer below above hb ha ihb iha =>
    rw [normalForm_layer, ihb, iha, hoistPair, hb.cases?_eq, ha.cases?_eq]

/-- The alternatives of a tree in normal form are plain. -/
lemma Normal.alternatives {t} (h : Normal t) {c} (hc : c ∈ t.alternatives) : Plain c.image := by
  cases h with
  | plain h =>
    rw [h.alternatives_eq] at hc
    obtain rfl := List.mem_singleton.1 hc
    exact h
  | switch h => exact h c hc
  | animation h =>
    obtain ⟨f, hf, e⟩ := Frame.mem_asCases hc
    exact e ▸ h f hf

/-- Hoisting leads from normal form to normal form. -/
lemma Normal.hoist {wrap t} (hw : ∀ u, Plain u → Plain (wrap u)) (h : Normal t) :
    Normal (TileImage.hoist wrap t) := by
  cases h with
  | plain h => exact .plain (h.hoist_eq ▸ hw _ h)
  | switch h =>
    refine .switch fun _ hm => ?_
    obtain ⟨c, hc, rfl⟩ := List.mem_map.1 hm
    exact hw _ (h c hc)
  | animation h =>
    refine .animation fun _ hm => ?_
    obtain ⟨f, hf, rfl⟩ := List.mem_map.1 hm
    exact hw _ (h f hf)

/-- A tree in normal form is plain if its root does not select. -/
lemma plain_of_cases? {t : TileImage} (h : Normal t) (e : t.cases? = none) : Plain t := by
  cases h with
  | plain h => exact h
  | switch => cases e
  | animation => cases e

/-- Hoisting a pair leads from normal form to normal form. -/
lemma Normal.hoistPair {wrap major minor}
    (hw : ∀ t u, Plain t → Plain u → Plain (wrap t u))
    (hM : Normal major) (hm : Normal minor) :
    Normal (TileImage.hoistPair wrap major minor) := by
  rw [TileImage.hoistPair]
  split
  case h_1 majors minors eM em =>
    refine .switch fun d hd => ?_
    rw [cross_eq_nest] at hd
    obtain ⟨c, hc, _, hm', eq⟩ := Case.mem_nest hd
    obtain ⟨e, he, rfl⟩ := List.mem_map.1 hm'
    rw [← alternatives_of_cases? eM] at hc
    rw [← alternatives_of_cases? em] at he
    exact eq ▸ hw _ _ (hM.alternatives hc) (hm.alternatives he)
  case h_2 majors eM em =>
    exact hM.hoist fun t ht => hw t minor ht (plain_of_cases? hm em)
  case h_3 minors eM em =>
    exact hm.hoist fun u hu => hw major u (plain_of_cases? hM eM) hu
  case h_4 eM em =>
    exact .plain (hw _ _ (plain_of_cases? hM eM) (plain_of_cases? hm em))

/-- A switch is in normal form when the cases of its images have been spliced in. -/
lemma Normal.splice {cs} (h : ∀ c ∈ cs, Normal c.image) :
    Normal (.switch (TileImage.splice cs)) := by
  refine .switch fun d hd => ?_
  rw [splice_eq_nest] at hd
  obtain ⟨c, hc, e, he, eq⟩ := Case.mem_nest hd
  exact eq ▸ (h c hc).alternatives he

/-- The image of frames is in normal form if their images are. -/
lemma Normal.animate {fs} (h : ∀ f ∈ fs, Normal f.image) : Normal (TileImage.animate fs) := by
  rw [TileImage.animate]
  split
  case isTrue =>
    refine .splice fun c hc => ?_
    obtain ⟨f, hf, e⟩ := Frame.mem_asCases hc
    exact e ▸ h f hf
  case isFalse hn =>
    refine .animation fun f hf => ?_
    exact plain_of_cases? (h f hf) (cases?_of_not_any hn hf)

/-- The normal form of a tree is in normal form. -/
lemma normal_normalForm (t : TileImage) : Normal t.normalForm := by
  induction t using TileImage.induction with
  | onSource => exact .plain .source
  | onScaled => exact .plain .scaled
  | onSprite window child ih => exact ih.hoist fun _ => .sprite
  | onLayer below above ihb iha => exact ihb.hoistPair (fun _ _ => .layer) iha
  | onSwitch cs ih =>
    rw [normalForm_switch]
    refine .splice fun _ hm => ?_
    obtain ⟨c, hc, rfl⟩ := List.mem_map.1 hm
    exact ih c hc
  | onAnimation fs ih =>
    rw [normalForm_animation]
    refine .animate fun _ hm => ?_
    obtain ⟨f, hf, rfl⟩ := List.mem_map.1 hm
    exact ih f hf

/-- A tree in normal form is its own normal form. -/
lemma Normal.normalForm_eq {t} (h : Normal t) : t.normalForm = t := by
  cases h with
  | plain h => exact h.normalForm_eq
  | @switch cs h =>
    have same : cs.map (Case.map normalForm) = cs :=
      Case.map_eq_self fun c hc => (h c hc).normalForm_eq
    have plain : TileImage.splice cs = cs := by
      rw [splice_eq_nest]
      exact Case.nest_eq_self fun c hc => (h c hc).alternatives_eq
    rw [normalForm_switch, same, plain]
  | @animation fs h =>
    have same : fs.map (Frame.map normalForm) = fs :=
      Frame.map_eq_self fun f hf => (h f hf).normalForm_eq
    have plain : ¬(fs.any fun f => f.image.isConditional) = true := by
      intro any
      obtain ⟨f, hf, hi⟩ := List.any_eq_true.1 any
      rw [(h f hf).isConditional_eq] at hi
      cases hi
    rw [normalForm_animation, same, TileImage.animate, if_neg plain]

/-- To normalize twice is to normalize once. -/
lemma normalForm_normalForm (t : TileImage) : t.normalForm.normalForm = t.normalForm :=
  (normal_normalForm t).normalForm_eq

end Cityscape.TileImage
