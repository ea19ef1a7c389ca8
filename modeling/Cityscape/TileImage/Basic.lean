import Cityscape.Condition
import Cityscape.Image.Raster

/-!
# Tile images

A tile image is an expression tree: leaves hold pixels, and composites shift, stack or select
between their children. Every function of a tree that looks at all its nodes is a `fold`, given by
one rule for each kind of node; the `fold_…` lemmas say that the rules are what is applied, and
`induction` proves a property of all trees node by node.
-/

namespace Cityscape

/-- A variant that is shown when a condition holds. -/
structure Case (α : Type) where
  condition : Condition
  image : α
deriving DecidableEq

/-- A variant that is shown for some ticks. -/
structure Frame (α : Type) where
  duration : Nat
  image : α
deriving DecidableEq

/-- The case with another image. -/
def Case.map {α β : Type} (f : α → β) (c : Case α) : Case β := ⟨c.condition, f c.image⟩

/-- The frame with another image. -/
def Frame.map {α β : Type} (f : α → β) (c : Frame α) : Frame β := ⟨c.duration, f c.image⟩

/-- How a sprite shows its child, in standard units: the shift of the crop window, and how far it
extends above the cell and to the right of it. -/
structure Window where
  x : Int
  y : Int
  overlapNorth : Nat
  overlapEast : Nat
deriving Repr, DecidableEq

/-- The window of the cell itself. -/
def Window.plain : Window := ⟨0, 0, 0, 0⟩

/-- A tree of tile images. -/
inductive TileImage where
  /-- A sheet of pixels with cells `basis` pixels wide. -/
  | source (pixels : Image.Raster) (basis : Nat)
  /-- A sheet that is drawn with cells `target` pixels wide instead. -/
  | scaled (pixels : Image.Raster) (basis target : Nat)
  /-- A child seen through a window. -/
  | sprite (window : Window) (child : TileImage)
  /-- One image drawn over another. -/
  | layer (below above : TileImage)
  /-- The first variant whose condition holds; the last one is the default. -/
  | switch (cases : List (Case TileImage))
  /-- Variants shown in turn, each for its number of ticks. -/
  | animation (frames : List (Frame TileImage))

namespace TileImage

/-- One rule for each kind of node, given the results for its children; the rule for sprites also
sees the child. -/
structure Algebra (α : Type) where
  source : Image.Raster → Nat → α
  scaled : Image.Raster → Nat → Nat → α
  sprite : Window → TileImage → α → α
  layer : α → α → α
  switch : List (Case α) → α
  animation : List (Frame α) → α

section
variable {α : Type} (rules : Algebra α)

mutual

/-- The result of the rules for a tree. -/
def fold : TileImage → α
  | source pixels basis => rules.source pixels basis
  | scaled pixels basis target => rules.scaled pixels basis target
  | sprite window child => rules.sprite window child (fold child)
  | layer below above => rules.layer (fold below) (fold above)
  | switch cases => rules.switch (foldCases cases)
  | animation frames => rules.animation (foldFrames frames)

/-- The results for the images of cases. -/
def foldCases : List (Case TileImage) → List (Case α)
  | [] => []
  | ⟨condition, image⟩ :: others => ⟨condition, fold image⟩ :: foldCases others

/-- The results for the images of frames. -/
def foldFrames : List (Frame TileImage) → List (Frame α)
  | [] => []
  | ⟨duration, image⟩ :: others => ⟨duration, fold image⟩ :: foldFrames others

end

/-- The cases of a switch are folded one by one. -/
theorem foldCases_eq_map (cases : List (Case TileImage)) :
    foldCases rules cases = cases.map (Case.map (fold rules)) := by
  induction cases with
  | nil => rfl
  | cons c others ih => simp [foldCases, Case.map, ih]

/-- The frames of an animation are folded one by one. -/
theorem foldFrames_eq_map (frames : List (Frame TileImage)) :
    foldFrames rules frames = frames.map (Frame.map (fold rules)) := by
  induction frames with
  | nil => rfl
  | cons f others ih => simp [foldFrames, Frame.map, ih]

/-- A switch is folded by its rule from its cases, folded. -/
@[simp] theorem fold_switch (cases : List (Case TileImage)) :
    fold rules (switch cases) = rules.switch (cases.map (Case.map (fold rules))) := by
  rw [fold, foldCases_eq_map]

/-- An animation is folded by its rule from its frames, folded. -/
@[simp] theorem fold_animation (frames : List (Frame TileImage)) :
    fold rules (animation frames) = rules.animation (frames.map (Frame.map (fold rules))) := by
  rw [fold, foldFrames_eq_map]

end

/-- A property that every kind of node takes over from its children holds of every tree. -/
theorem induction {P : TileImage → Prop}
    (onSource : ∀ pixels basis, P (source pixels basis))
    (onScaled : ∀ pixels basis target, P (scaled pixels basis target))
    (onSprite : ∀ window child, P child → P (sprite window child))
    (onLayer : ∀ below above, P below → P above → P (layer below above))
    (onSwitch : ∀ cases : List (Case TileImage), (∀ c ∈ cases, P c.image) → P (switch cases))
    (onAnimation : ∀ frames : List (Frame TileImage), (∀ f ∈ frames, P f.image) →
      P (animation frames))
    (t : TileImage) : P t := by
  refine @TileImage.rec P (fun cases => ∀ c ∈ cases, P c.image)
    (fun frames => ∀ f ∈ frames, P f.image) (fun c => P c.image) (fun f => P f.image)
    onSource onScaled onSprite onLayer onSwitch onAnimation ?_ ?_ ?_ ?_ ?_ ?_ t
  · exact fun _ h => absurd h List.not_mem_nil
  · intro c others hc hothers d hd
    rcases List.mem_cons.1 hd with rfl | hd
    · exact hc
    · exact hothers d hd
  · exact fun _ h => absurd h List.not_mem_nil
  · intro f others hf hothers g hg
    rcases List.mem_cons.1 hg with rfl | hg
    · exact hf
    · exact hothers g hg
  · exact fun _ _ h => h
  · exact fun _ _ h => h

/-- Whether the root selects between variants. -/
def isConditional : TileImage → Bool
  | switch _ | animation _ => true
  | _ => false

/-- Whether a node selects between variants anywhere in the tree. -/
def containsConditional : TileImage → Bool :=
  fold
    { source := fun _ _ => false
      scaled := fun _ _ _ => false
      sprite := fun _ _ child => child
      layer := fun below above => below || above
      switch := fun _ => true
      animation := fun _ => true }

/-- Whether what is drawn may change with the clock: there is an animation, or a case whose
condition depends on time. -/
def isAnimated : TileImage → Bool :=
  fold
    { source := fun _ _ => false
      scaled := fun _ _ _ => false
      sprite := fun _ _ child => child
      layer := fun below above => below || above
      switch := fun cases => cases.any fun c => c.condition.dependsOnTime || c.image
      animation := fun _ => true }

end TileImage

end Cityscape
