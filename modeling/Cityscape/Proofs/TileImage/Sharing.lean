import Cityscape.Proofs.TileImage.Preservation
import Cityscape.TileImage.Equality

/-!
# Trees that are handed back

Where an operation changes nothing it hands the tree itself back, so that no node is built for it.
`realization` and `normalization` are the two operations with this decision made at every node, from
what was made of the children; `Remade` is what becomes of a tree that way.

The main statement of the first part is `realize_retraction`: realization leads to trees without
switches and animations, changes none of these, and hands back exactly these. The second part says of
normalization that the trees it hands back are exactly the normal ones (`normalization_eq`).
-/

namespace Cityscape

namespace TileImage

/-- What an operation makes of a tree, and whether that is the tree itself. -/
structure Remade where
  original : TileImage
  result : TileImage
  kept : Bool

/-- The tree itself if it is to be kept, and else another one in its place. -/
def Remade.of (keep : Bool) (original result : TileImage) : Remade :=
  if keep then ⟨original, original, true⟩ else ⟨original, result, false⟩

/-- A tree is only kept where the other one would be the same. -/
lemma Remade.of_eq {keep : Bool} {original result : TileImage}
    (same : keep = true → result = original) :
    Remade.of keep original result = ⟨original, result, keep⟩ := by
  cases keep with
  | true => rw [Remade.of, if_pos rfl, same rfl]
  | false => rfl

/-- If the tree is kept exactly where the other one would be the same. -/
lemma Remade.of_eq_decide {keep : Bool} {original result : TileImage}
    (same : keep = true ↔ result = original) :
    Remade.of keep original result = ⟨original, result, decide (result = original)⟩ := by
  obtain rfl : keep = decide (result = original) := by
    rw [Bool.eq_iff_iff, decide_eq_true_iff]
    exact same
  exact of_eq of_decide_eq_true

section
variable {operation : TileImage → Remade} {f : TileImage → TileImage}

/-- What an operation keeps of the images of cases and what it makes of them, where each is remade as
`f` says. -/
lemma Remade.of_cases {cs : List (Case TileImage)}
    (remade : ∀ c ∈ cs, ∃ kept, operation c.image = ⟨c.image, f c.image, kept⟩) :
    cs.map (Case.map fun t => (operation t).original) = cs ∧
      cs.map (Case.map fun t => (operation t).result) = cs.map (Case.map f) := by
  constructor
  · apply Case.map_eq_self
    intro c hc
    obtain ⟨_, e⟩ := remade c hc
    rw [e]
  · apply Case.map_congr
    intro c hc
    obtain ⟨_, e⟩ := remade c hc
    rw [e]

/-- What an operation keeps of the images of frames and what it makes of them, where each is remade
as `f` says. -/
lemma Remade.of_frames {fs : List (Frame TileImage)}
    (remade : ∀ c ∈ fs, ∃ kept, operation c.image = ⟨c.image, f c.image, kept⟩) :
    fs.map (Frame.map fun t => (operation t).original) = fs ∧
      fs.map (Frame.map fun t => (operation t).result) = fs.map (Frame.map f) := by
  constructor
  · apply Frame.map_eq_self
    intro c hc
    obtain ⟨_, e⟩ := remade c hc
    rw [e]
  · apply Frame.map_congr
    intro c hc
    obtain ⟨_, e⟩ := remade c hc
    rw [e]

end

/-! ## Realization -/

/-- Realization that keeps sprites and layers of which the children are kept. -/
def realization (dc : DrawContext) : TileImage → Remade :=
  fold
    { source := fun pixels basis => ⟨.source pixels basis, .source pixels basis, true⟩
      scaled := fun pixels basis target =>
        ⟨.scaled pixels basis target, .scaled pixels basis target, true⟩
      sprite := fun window _ child =>
        .of child.kept (.sprite window child.original) (.sprite window child.result)
      layer := fun below above =>
        .of (below.kept && above.kept) (.layer below.original above.original)
          (.layer below.result above.result)
      switch := fun cases =>
        .of false (.switch (cases.map (Case.map Remade.original)))
          (((Case.selected? dc cases).map Remade.result).getD (.switch []))
      animation := fun frames =>
        .of false (.animation (frames.map (Frame.map Remade.original)))
          (((Frame.shown? dc.time frames).map Remade.result).getD (.animation [])) }

/-- A tree without switches and animations is realized as itself. -/
lemma Plain.realize_eq {t} (h : Plain t) (dc : DrawContext) : t.realize dc = t := by
  induction h with
  | source => rfl
  | scaled => rfl
  | sprite _ ih => rw [realize_sprite, ih]
  | layer _ _ ihb iha => rw [realize_layer, ihb, iha]

/-- A sprite is kept by realization if its child is. -/
lemma realization_sprite {dc window child} :
    realization dc (.sprite window child) =
      .of (realization dc child).kept (.sprite window (realization dc child).original)
        (.sprite window (realization dc child).result) := rfl

/-- A layer is kept by realization if both of its parts are. -/
lemma realization_layer {dc below above} :
    realization dc (.layer below above) =
      .of ((realization dc below).kept && (realization dc above).kept)
        (.layer (realization dc below).original (realization dc above).original)
        (.layer (realization dc below).result (realization dc above).result) := rfl

/-- A switch is never kept by realization; the selected image takes its place. -/
lemma realization_switch {dc cs} :
    realization dc (.switch cs) =
      .of false (.switch (cs.map (Case.map fun t => (realization dc t).original)))
        ((Case.selected? dc (cs.map (Case.map fun t => (realization dc t).result))).getD
          (.switch [])) := by
  refine (fold_switch _ _).trans ?_
  show Remade.of false (.switch ((cs.map (Case.map (realization dc))).map (Case.map Remade.original)))
    (((Case.selected? dc (cs.map (Case.map (realization dc)))).map Remade.result).getD _) = _
  rw [Case.map_map, ← Case.selected?_map, Case.map_map]

/-- An animation is never kept by realization; the image that is shown takes its place. -/
lemma realization_animation {dc fs} :
    realization dc (.animation fs) =
      .of false (.animation (fs.map (Frame.map fun t => (realization dc t).original)))
        ((Frame.shown? dc.time (fs.map (Frame.map fun t => (realization dc t).result))).getD
          (.animation [])) := by
  refine (fold_animation _ _).trans ?_
  show Remade.of false
    (.animation ((fs.map (Frame.map (realization dc))).map (Frame.map Remade.original)))
    (((Frame.shown? dc.time (fs.map (Frame.map (realization dc)))).map Remade.result).getD _) = _
  rw [Frame.map_map, ← Frame.shown?_map, Frame.map_map]

/-- Where nothing conditional is contained, the tree is plain. -/
lemma Plain.of_not {t : TileImage} (h : (!t.containsConditional) = true) : Plain t :=
  plain_iff.2 (by simpa using h)

/-- Realization keeps the trees that contain nothing conditional. -/
lemma realization_eq (t : TileImage) (dc : DrawContext) :
    t.realization dc = ⟨t, t.realize dc, !t.containsConditional⟩ := by
  induction t using TileImage.induction with
  | onSource => rfl
  | onScaled => rfl
  | onSprite window child ih =>
    rw [realization_sprite, ih]
    exact Remade.of_eq fun keep => congrArg (sprite window) ((Plain.of_not keep).realize_eq dc)
  | onLayer below above ihb iha =>
    have both : (!(layer below above).containsConditional) =
        (!below.containsConditional && !above.containsConditional) := Bool.not_or _ _
    rw [realization_layer, ihb, iha, both]
    refine Remade.of_eq fun keep => ?_
    obtain ⟨hb, ha⟩ := Bool.and_eq_true_iff.1 keep
    exact congrArg₂ layer ((Plain.of_not hb).realize_eq dc) ((Plain.of_not ha).realize_eq dc)
  | onSwitch cs ih =>
    obtain ⟨originals, results⟩ := Remade.of_cases fun c hc => ⟨_, ih c hc⟩
    rw [realization_switch, originals, results, realize, fold_switch,
      containsConditional_switch]
    rfl
  | onAnimation fs ih =>
    obtain ⟨originals, results⟩ := Remade.of_frames fun c hc => ⟨_, ih c hc⟩
    rw [realization_animation, originals, results, realize, fold_animation,
      containsConditional_animation]
    rfl

/-- What a valid tree is realized as contains nothing conditional and is realized as itself, in every
context. A tree is realized as itself only if it contains nothing conditional, and exactly then it is
handed back. -/
theorem realize_retraction {t : TileImage} (h : Valid t) (dc dc' : DrawContext) :
    (t.realize dc).containsConditional = false ∧
      (t.realize dc = t ↔ t.containsConditional = false) ∧
      (t.realize dc).realize dc' = t.realize dc ∧
      t.realization dc = ⟨t, t.realize dc, !t.containsConditional⟩ := by
  have plain : Plain (t.realize dc) := (h.sized.resolves_realize dc).plain
  refine ⟨plain_iff.1 plain, ⟨fun same => ?_, fun none => ?_⟩, plain.realize_eq dc',
    realization_eq t dc⟩
  · rw [same] at plain
    exact plain_iff.1 plain
  · exact (plain_iff.2 none).realize_eq dc

/-- In the rush hour the crossing is not realized as itself, and what it is realized as then stays the
same in every other context. -/
theorem realize_retraction_crossing :
    Valid Crossing.image ∧ Crossing.image.realize Crossing.rushHour ≠ Crossing.image ∧
      (∀ dc', (Crossing.image.realize Crossing.rushHour).realize dc' =
        Crossing.image.realize Crossing.rushHour) ∧
      (Crossing.image.realization Crossing.rushHour).kept = false := by
  obtain ⟨-, same, -, remade⟩ :=
    realize_retraction Crossing.valid Crossing.rushHour Crossing.rushHour
  refine ⟨Crossing.valid, (fun e => nomatch same.1 e), fun dc' => ?_, by rw [remade]; rfl⟩
  exact (realize_retraction Crossing.valid Crossing.rushHour dc').2.2.1

/-! ## Normalization -/

/-- Normalization that keeps a sprite or a layer over children that are kept and do not select, a
switch if splicing leads to the same cases, and an animation of frames that are kept and do not
select. -/
def normalization : TileImage → Remade :=
  fold
    { source := fun pixels basis => ⟨.source pixels basis, .source pixels basis, true⟩
      scaled := fun pixels basis target =>
        ⟨.scaled pixels basis target, .scaled pixels basis target, true⟩
      sprite := fun window _ child =>
        .of (child.kept && !child.result.isConditional) (.sprite window child.original)
          (hoist (.sprite window) child.result)
      layer := fun below above =>
        .of (below.kept && above.kept && !below.result.isConditional && !above.result.isConditional)
          (.layer below.original above.original) (hoistPair .layer below.result above.result)
      switch := fun cases =>
        .of (splice (cases.map (Case.map Remade.result)) = cases.map (Case.map Remade.original))
          (.switch (cases.map (Case.map Remade.original)))
          (.switch (splice (cases.map (Case.map Remade.result))))
      animation := fun frames =>
        .of (frames.all fun f => f.image.kept && !f.image.result.isConditional)
          (.animation (frames.map (Frame.map Remade.original)))
          (animate (frames.map (Frame.map Remade.result))) }

/-- A sprite is kept by normalization if its child is and does not select. -/
lemma normalization_sprite {window child} :
    normalization (.sprite window child) =
      .of ((normalization child).kept && !(normalization child).result.isConditional)
        (.sprite window (normalization child).original)
        (hoist (.sprite window) (normalization child).result) := rfl

/-- A layer is kept by normalization if both of its parts are and neither selects. -/
lemma normalization_layer {below above} :
    normalization (.layer below above) =
      .of ((normalization below).kept && (normalization above).kept &&
          !(normalization below).result.isConditional && !(normalization above).result.isConditional)
        (.layer (normalization below).original (normalization above).original)
        (hoistPair .layer (normalization below).result (normalization above).result) := rfl

/-- A switch is kept by normalization if splicing its normalized cases gives the cases back. -/
lemma normalization_switch {cs} :
    normalization (.switch cs) =
      .of (splice (cs.map (Case.map fun t => (normalization t).result)) =
          cs.map (Case.map fun t => (normalization t).original))
        (.switch (cs.map (Case.map fun t => (normalization t).original)))
        (.switch (splice (cs.map (Case.map fun t => (normalization t).result)))) := by
  refine (fold_switch _ _).trans ?_
  dsimp only
  rw [Case.map_map, Case.map_map]
  rfl

/-- An animation is kept by normalization if all of its images are and none selects. -/
lemma normalization_animation {fs} :
    normalization (.animation fs) =
      .of (fs.all fun f => (normalization f.image).kept && !(normalization f.image).result.isConditional)
        (.animation (fs.map (Frame.map fun t => (normalization t).original)))
        (animate (fs.map (Frame.map fun t => (normalization t).result))) := by
  refine (fold_animation _ _).trans ?_
  dsimp only
  rw [Frame.map_map, Frame.map_map, List.all_map]
  rfl

/-- Plain trees are those that normalization leaves as they are, and that select nothing. -/
lemma plain_iff_normalForm {t : TileImage} :
    Plain t ↔ t.normalForm = t ∧ t.normalForm.isConditional = false := by
  constructor
  · intro h
    rw [h.normalForm_eq]
    exact ⟨rfl, h.isConditional_eq⟩
  · rintro ⟨same, root⟩
    exact same ▸ plain_of_cases? (normal_normalForm t) (cases?_of_isConditional root)

/-- The trees in normal form are those that are their own normal form. -/
lemma normalForm_eq_self_iff {t : TileImage} : t.normalForm = t ↔ Normal t :=
  ⟨fun h => h ▸ normal_normalForm t, Normal.normalForm_eq⟩

/-- Where a tree is made of plain images, its normal form is the tree itself. -/
lemma normalForm_sprite_eq_iff {window child} :
    (sprite window child).normalForm = .sprite window child ↔ Plain child := by
  rw [normalForm_eq_self_iff]
  constructor
  · intro h
    cases plain_of_cases? h rfl with
    | sprite h => exact h
  · exact fun h => .plain (.sprite h)

/-- A layer is its own normal form if and only if both of its parts are plain. -/
lemma normalForm_layer_eq_iff {below above} :
    (layer below above).normalForm = .layer below above ↔ Plain below ∧ Plain above := by
  rw [normalForm_eq_self_iff]
  constructor
  · intro h
    cases plain_of_cases? h rfl with
    | layer hb ha => exact ⟨hb, ha⟩
  · exact fun ⟨hb, ha⟩ => .plain (.layer hb ha)

/-- An animation is its own normal form if and only if all of its images are plain. -/
lemma normalForm_animation_eq_iff {fs} :
    (animation fs).normalForm = .animation fs ↔ ∀ f ∈ fs, Plain f.image := by
  rw [normalForm_eq_self_iff]
  constructor
  · rintro (⟨⟨⟩⟩ | _ | h)
    exact h
  · exact .animation

/-- Normalization keeps the trees that are their own normal form. -/
lemma normalization_eq (t : TileImage) :
    t.normalization = ⟨t, t.normalForm, decide (t.normalForm = t)⟩ := by
  induction t using TileImage.induction with
  | onSource => exact congrArg (Remade.mk _ _) (decide_eq_true rfl).symm
  | onScaled => exact congrArg (Remade.mk _ _) (decide_eq_true rfl).symm
  | onSprite window child ih =>
    rw [normalization_sprite, ih, ← normalForm_sprite]
    refine Remade.of_eq_decide ?_
    rw [normalForm_sprite_eq_iff, plain_iff_normalForm, Bool.and_eq_true_iff, decide_eq_true_iff,
      Bool.not_eq_true']
  | onLayer below above ihb iha =>
    rw [normalization_layer, ihb, iha, ← normalForm_layer]
    refine Remade.of_eq_decide ?_
    simp only [normalForm_layer_eq_iff, plain_iff_normalForm, Bool.and_eq_true_iff,
      decide_eq_true_iff, Bool.not_eq_true']
    rw [and_assoc, and_and_and_comm]
  | onSwitch cs ih =>
    obtain ⟨originals, results⟩ := Remade.of_cases fun c hc => ⟨_, ih c hc⟩
    rw [normalization_switch, originals, results, ← normalForm_switch]
    refine Remade.of_eq_decide ?_
    rw [normalForm_switch, switch.injEq, decide_eq_true_iff]
  | onAnimation fs ih =>
    obtain ⟨originals, results⟩ := Remade.of_frames fun c hc => ⟨_, ih c hc⟩
    rw [normalization_animation, originals, results, ← normalForm_animation]
    refine Remade.of_eq_decide ?_
    rw [normalForm_animation_eq_iff, List.all_eq_true]
    refine forall₂_congr fun f hf => ?_
    rw [plain_iff_normalForm, ih f hf, Bool.and_eq_true_iff, decide_eq_true_iff, Bool.not_eq_true']

end TileImage

end Cityscape
