import Cityscape.Proofs.TileImage.Enumeration
import Cityscape.Proofs.TileImage.Sharing
import Mathlib.Algebra.GroupWithZero.Nat

/-!
# Kinds and counts

What a tree becomes in normal form can be told without normalizing it. `kind` says whether there will
be a switch or an animation at the root, and `count` between how many variants it will select.

The main statement, `normalForm_root`, compares both with the root of the normal form (`rootKind`,
`rootCount`) and with the enumeration of variants, and says that below its root a normal form has no
switch and no animation. Numbers of alternatives and numbers of variants obey one set of rules, and
there is only one way to do so (`Counts.eq_count`).
-/

namespace Cityscape

/-- How a tree selects between variants. -/
inductive Kind where
  | plain
  | switch
  | animation
deriving Repr, DecidableEq

/-- The kind of two trees together: two that select become a switch. -/
def Kind.join : Kind → Kind → Kind
  | plain, k => k
  | k, plain => k
  | _, _ => switch

/-- A plain tree adds nothing to the kind of another one behind it. -/
lemma Kind.plain_join {k : Kind} : join plain k = k := rfl

/-- A plain tree adds nothing to the kind of another one before it. -/
lemma Kind.join_plain {k : Kind} : k.join plain = k := by
  cases k <;> rfl

/-- Two trees that select become a switch together. -/
lemma Kind.join_of_ne {k l : Kind} (hk : k ≠ plain) (hl : l ≠ plain) : k.join l = switch := by
  cases k <;> cases l <;> first | rfl | contradiction

/-- Together two trees are plain only if both are. -/
lemma Kind.join_eq_plain_iff {k l : Kind} : k.join l = plain ↔ k = plain ∧ l = plain := by
  cases k <;> cases l <;> decide

namespace TileImage

open Case (nest exclusive)

/-- The kind of the root alone. -/
def rootKind : TileImage → Kind
  | switch _ => .switch
  | animation _ => .animation
  | _ => .plain

/-- The kind of the root once everything that selects is there. -/
def kind : TileImage → Kind :=
  fold
    { source := fun _ _ => .plain
      scaled := fun _ _ _ => .plain
      sprite := fun _ _ child => child
      layer := Kind.join
      switch := fun _ => .switch
      animation := fun frames =>
        if frames.all fun f => f.image = .plain then .animation else .switch }

/-- The number of variants of the root, of which a root that does not select has one. -/
def rootCount : TileImage → Nat
  | switch cases => cases.length
  | animation frames => frames.length
  | _ => 1

/-- The number of variants of a tree. -/
def count : TileImage → Nat :=
  fold
    { source := fun _ _ => 1
      scaled := fun _ _ _ => 1
      sprite := fun _ _ child => child
      layer := (· * ·)
      switch := fun cases => (cases.map (·.image)).sum
      animation := fun frames => (frames.map (·.image)).sum }

/-! ## Kinds -/

/-- A root is plain if and only if it does not select. -/
lemma rootKind_eq_plain_iff {t : TileImage} : t.rootKind = .plain ↔ t.cases? = none := by
  cases t <;> simp [rootKind, cases?]

/-- A root is not conditional if and only if it is plain. -/
lemma isConditional_eq_false_iff {t : TileImage} : t.isConditional = false ↔ t.rootKind = .plain := by
  cases t <;> simp [rootKind, isConditional]

/-- The roots of the kind of animations are the animations. -/
lemma rootKind_eq_animation_iff {t : TileImage} :
    t.rootKind = .animation ↔ ∃ fs, t = .animation fs := by
  cases t <;> simp [rootKind]

/-- A root that selects is not plain. -/
lemma rootKind_ne_plain {t : TileImage} {cs} (h : t.cases? = some cs) : t.rootKind ≠ .plain := by
  intro plain
  rw [rootKind_eq_plain_iff, h] at plain
  cases plain

/-- Hoisting keeps the kind of the root. -/
lemma rootKind_hoist {wrap : TileImage → TileImage} {t} (hw : ∀ u, (wrap u).cases? = none) :
    (hoist wrap t).rootKind = t.rootKind := by
  cases t with
  | switch cs => rfl
  | animation fs => rfl
  | _ => exact rootKind_eq_plain_iff.2 (hw _)

/-- Hoisting a pair joins the kinds of the two roots. -/
lemma rootKind_hoistPair {wrap : TileImage → TileImage → TileImage} {major minor}
    (hw : ∀ t u, (wrap t u).cases? = none) :
    (hoistPair wrap major minor).rootKind = major.rootKind.join minor.rootKind := by
  rw [hoistPair]
  split
  case h_1 majors minors hM hm =>
    exact (Kind.join_of_ne (rootKind_ne_plain hM) (rootKind_ne_plain hm)).symm
  case h_2 majors hM hm =>
    rw [rootKind_hoist fun t => hw t minor, rootKind_eq_plain_iff.2 hm, Kind.join_plain]
  case h_3 minors hM hm =>
    rw [rootKind_hoist fun u => hw major u, rootKind_eq_plain_iff.2 hM, Kind.plain_join]
  case h_4 hM hm =>
    rw [rootKind_eq_plain_iff.2 hM, rootKind_eq_plain_iff.2 hm]
    exact rootKind_eq_plain_iff.2 (hw major minor)

/-- Frames become an animation if all their images are plain, and a switch otherwise. -/
lemma rootKind_animate {fs} :
    (animate fs).rootKind =
      if fs.all fun f => f.image.rootKind = .plain then .animation else .switch := by
  have all : (fs.all fun f => f.image.rootKind = .plain) = !fs.any fun f => f.image.isConditional := by
    simp [← isConditional_eq_false_iff, List.not_any_eq_all_not]
  rw [animate, all]
  cases fs.any fun f => f.image.isConditional <;> rfl

/-- The kind of a switch is that of switches. -/
lemma kind_switch {cs} : kind (.switch cs) = .switch := by
  rw [kind, fold_switch]

/-- The kind of an animation is that of animations if all its images are plain, and that of switches
otherwise. -/
lemma kind_animation {fs} :
    kind (.animation fs) = if fs.all fun f => f.image.kind = .plain then .animation else .switch := by
  refine (fold_animation _ _).trans ?_
  dsimp only
  rw [List.all_map]
  rfl

/-- The kind of a tree is the kind of the root of its normal form. -/
lemma rootKind_normalForm (t : TileImage) : t.normalForm.rootKind = t.kind := by
  induction t using TileImage.induction with
  | onSource => rfl
  | onScaled => rfl
  | onSprite window child ih => exact (rootKind_hoist fun _ => rfl).trans ih
  | onLayer below above ihb iha =>
    rw [normalForm_layer, rootKind_hoistPair fun _ _ => rfl, ihb, iha]
    rfl
  | onSwitch cs _ =>
    rw [normalForm_switch, kind_switch]
    rfl
  | onAnimation fs ih =>
    -- The frames are looked at in normal form, where their roots tell their kinds.
    have frames : ((fs.map (Frame.map normalForm)).all fun f => f.image.rootKind = .plain) =
        fs.all fun f => f.image.kind = .plain := by
      rw [List.all_map]
      apply Bool.eq_iff_iff.2
      rw [List.all_eq_true, List.all_eq_true]
      refine forall₂_congr fun f hf => ?_
      show decide (f.image.normalForm.rootKind = .plain) = true ↔ _
      rw [ih f hf]
    rw [normalForm_animation, rootKind_animate, frames, kind_animation]

/-- The trees of plain kind are those that contain nothing conditional. -/
lemma kind_eq_plain_iff {t : TileImage} : t.kind = .plain ↔ t.containsConditional = false := by
  induction t using TileImage.induction with
  | onSource => exact ⟨fun _ => rfl, fun _ => rfl⟩
  | onScaled => exact ⟨fun _ => rfl, fun _ => rfl⟩
  | onSprite window child ih => exact ih
  | onLayer below above ihb iha =>
    show below.kind.join above.kind = .plain ↔
      (below.containsConditional || above.containsConditional) = false
    rw [Kind.join_eq_plain_iff, ihb, iha, Bool.or_eq_false_iff]
  | onSwitch cs _ =>
    rw [kind_switch, containsConditional_switch]
    decide
  | onAnimation fs _ =>
    rw [kind_animation, containsConditional_animation]
    split <;> decide

/-- If anything conditional is contained, the root of the normal form is conditional. -/
lemma isConditional_normalForm {t : TileImage} (h : t.containsConditional = true) :
    t.normalForm.isConditional = true := by
  rw [← Bool.not_eq_false, isConditional_eq_false_iff, rootKind_normalForm, kind_eq_plain_iff, h]
  intro none
  cases none

/-- A conditional root is something conditional that is contained. -/
lemma containsConditional_of_isConditional {t : TileImage} (h : t.isConditional = true) :
    t.containsConditional = true := by
  cases t with
  | switch cs => exact containsConditional_switch
  | animation fs => exact containsConditional_animation
  | _ => cases h

/-- The normal form contains something conditional if and only if the tree does. -/
lemma containsConditional_normalForm (t : TileImage) :
    t.normalForm.containsConditional = t.containsConditional := by
  cases h : t.containsConditional with
  | true => exact containsConditional_of_isConditional (isConditional_normalForm h)
  | false => rwa [(plain_iff.2 h).normalForm_eq]

/-! ## Counts -/

/-- Numbers that obey the rules of counting. -/
structure Counts (n : TileImage → Nat) : Prop where
  source : ∀ pixels basis, n (.source pixels basis) = 1
  scaled : ∀ pixels basis target, n (.scaled pixels basis target) = 1
  sprite : ∀ window child, n (.sprite window child) = n child
  layer : ∀ below above, n (.layer below above) = n below * n above
  switch : ∀ cs, n (.switch cs) = ((cs.map (·.image)).map n).sum
  animation : ∀ fs, n (.animation fs) = ((fs.map (·.image)).map n).sum

/-- The number of variants obeys the rules of counting. -/
lemma counts_count : Counts count where
  source _ _ := rfl
  scaled _ _ _ := rfl
  sprite _ _ := rfl
  layer _ _ := rfl
  switch cs := by
    refine (fold_switch _ _).trans ?_
    dsimp only
    rw [List.map_map, List.map_map]
    rfl
  animation fs := by
    refine (fold_animation _ _).trans ?_
    dsimp only
    rw [List.map_map, List.map_map]
    rfl

/-- There is only one way to count. -/
lemma Counts.eq_count {n : TileImage → Nat} (h : Counts n) (t : TileImage) : n t = t.count := by
  induction t using TileImage.induction with
  | onSource => exact h.source _ _
  | onScaled => exact h.scaled _ _ _
  | onSprite window child ih => rw [h.sprite, ih, counts_count.sprite]
  | onLayer below above ihb iha => rw [h.layer, ihb, iha, counts_count.layer]
  | onSwitch cs ih =>
    have same : (cs.map (·.image)).map n = (cs.map (·.image)).map count :=
      List.map_congr_left (List.forall_mem_map.2 ih)
    rw [h.switch, same, counts_count.switch]
  | onAnimation fs ih =>
    have same : (fs.map (·.image)).map n = (fs.map (·.image)).map count :=
      List.map_congr_left (List.forall_mem_map.2 ih)
    rw [h.animation, same, counts_count.animation]

/-- Nested cases are as many as there are inside the images, taken together. -/
lemma length_nest {α β : Type} {cs : List (Case α)} {inner : α → List (Case β)} :
    (nest cs inner).length = ((cs.map (·.image)).map fun a => (inner a).length).sum := by
  rw [nest, List.length_flatMap, List.map_map]
  simp only [List.length_map]
  rfl

/-- Inside each image the same number of cases: the numbers are multiplied. -/
lemma length_nest_map {α β γ : Type} {cs : List (Case α)} {ds : List (Case β)} {f : α → β → γ} :
    (nest cs fun a => ds.map (Case.map (f a))).length = cs.length * ds.length := by
  rw [length_nest]
  simp only [List.length_map, List.map_const', List.sum_replicate_nat]

/-- There are as many alternatives as variants of the root. -/
lemma length_alternatives (t : TileImage) : t.alternatives.length = t.rootCount := by
  cases t with
  | animation fs =>
    show (Frame.asCases fs).length = fs.length
    rw [← List.length_map, Frame.images_asCases, List.length_map]
  | _ => rfl

/-- The variants of the root of the normal form obey the rules of counting. -/
lemma counts_normalForm : Counts fun t => t.normalForm.rootCount := by
  simp only [← length_alternatives]
  constructor
  · exact fun _ _ => rfl
  · exact fun _ _ _ => rfl
  · intro window child
    rw [alternatives_normalForm_sprite, List.length_map]
  · intro below above
    rw [alternatives_normalForm_layer, length_nest_map]
  · intro cs
    rw [alternatives_normalForm_switch, length_nest]
  · intro fs
    rw [alternatives_normalForm_animation, length_nest, Frame.images_asCases]

/-- The variants that are enumerated obey the rules of counting. -/
lemma counts_variants : Counts fun t => t.variants.length := by
  simp only [LazySeq.length_eq]
  constructor
  · exact fun _ _ => rfl
  · exact fun _ _ _ => rfl
  · intro window child
    rw [variants_sprite, List.length_map]
  · intro below above
    rw [variants_layer, length_nest_map]
  · intro cs
    rw [variants_switch, length_nest, Case.images_exclusive]
  · intro fs
    rw [variants_animation, length_nest, Frame.images_windows]

/-! ## The root of a normal form -/

/-- A normal tree that contains something conditional has it at the root, over plain images. -/
lemma Normal.root {t} (h : Normal t) (conditional : t.containsConditional = true) :
    (∃ cs, t = .switch cs ∧ ∀ c ∈ cs, c.image.containsConditional = false) ∨
    (∃ fs, t = .animation fs ∧ ∀ f ∈ fs, f.image.containsConditional = false) := by
  cases h with
  | plain h =>
    rw [plain_iff.1 h] at conditional
    cases conditional
  | @switch cs h => exact .inl ⟨cs, rfl, fun c hc => plain_iff.1 (h c hc)⟩
  | @animation fs h => exact .inr ⟨fs, rfl, fun f hf => plain_iff.1 (h f hf)⟩

/-- A normal form is its own normal form, and has a switch or an animation at most at its root, if
there is one in the tree at all. The root is of the kind of the tree, and selects between as many
variants as the tree has. Normalization hands the tree back if it is its own normal form. -/
theorem normalForm_root (t : TileImage) :
    t.normalForm.normalForm = t.normalForm ∧
    t.normalForm.containsConditional = t.containsConditional ∧
    (t.containsConditional = true →
      (∃ cs, t.normalForm = .switch cs ∧ ∀ c ∈ cs, c.image.containsConditional = false) ∨
      (∃ fs, t.normalForm = .animation fs ∧ ∀ f ∈ fs, f.image.containsConditional = false)) ∧
    ((∃ fs, t.normalForm = .animation fs) ↔ t.kind = .animation) ∧
    (t.normalForm.rootKind = t.kind ∧ (t.kind = .plain ↔ t.containsConditional = false)) ∧
    (t.normalForm.rootCount = t.count ∧ t.variants.length = t.count) ∧
    t.normalization = ⟨t, t.normalForm, decide (t.normalForm = t)⟩ := by
  refine ⟨normalForm_normalForm t, containsConditional_normalForm t, fun conditional => ?_, ?_,
    ⟨rootKind_normalForm t, kind_eq_plain_iff⟩,
    ⟨counts_normalForm.eq_count t, counts_variants.eq_count t⟩, normalization_eq t⟩
  · apply (normal_normalForm t).root
    rw [containsConditional_normalForm]
    exact conditional
  · rw [← rootKind_eq_animation_iff, rootKind_normalForm]

/-- The light is animated before its frames are looked into, and the crossing is a switch between the
variants of the road and those of the light. -/
example : (animation Crossing.traffic).kind = .animation ∧ Crossing.image.kind = .switch ∧
    Crossing.image.count = 9 := by
  decide

end TileImage

end Cityscape
