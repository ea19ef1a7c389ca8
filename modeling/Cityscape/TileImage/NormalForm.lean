import Cityscape.TileImage.Selection

/-!
# Normal form

A tree in normal form has no switch and no animation, or one at its root whose variants have none.
Conditional children are lifted to the root; two of them are crossed, with the conjunctions of
their conditions, and a variant that is itself conditional is spliced into the list of its parent.
-/

namespace Cityscape.TileImage

/-- The variants of a conditional root, as cases to be tried in order. -/
def cases? : TileImage → Option (List (Case TileImage))
  | switch cases => some cases
  | animation frames => some (Frame.asCases frames)
  | _ => none

/-- A case whose image is in normal form, with the variants of a conditional image in its place. -/
def spliceCase (c : Case TileImage) : List (Case TileImage) :=
  match c.image.cases? with
  | some inner => inner.map fun d => ⟨c.condition.conj d.condition, d.image⟩
  | none => [c]

/-- Cases whose images are in normal form, with conditional images spliced in. -/
def splice (cases : List (Case TileImage)) : List (Case TileImage) := cases.flatMap spliceCase

/-- A tree in normal form with something wrapped around each of its variants. -/
def hoist (wrap : TileImage → TileImage) : TileImage → TileImage
  | switch cases => switch (cases.map (Case.map wrap))
  | animation frames => animation (frames.map (Frame.map wrap))
  | t => wrap t

/-- All combinations of the cases of two images, the first ones in the outer loop. -/
def cross (wrap : TileImage → TileImage → TileImage) (majors minors : List (Case TileImage)) :
    List (Case TileImage) :=
  majors.flatMap fun m => minors.map fun n =>
    ⟨m.condition.conj n.condition, wrap m.image n.image⟩

/-- Two trees in normal form combined variant by variant. -/
def hoistPair (wrap : TileImage → TileImage → TileImage) (major minor : TileImage) : TileImage :=
  match major.cases?, minor.cases? with
  | some majors, some minors => switch (cross wrap majors minors)
  | some _, none => hoist (wrap · minor) major
  | none, some _ => hoist (wrap major ·) minor
  | none, none => wrap major minor

/-- An animation of images in normal form: it stays one unless a frame is itself conditional. -/
def animate (frames : List (Frame TileImage)) : TileImage :=
  if frames.any fun f => f.image.isConditional then switch (splice (Frame.asCases frames))
  else animation frames

/-- The tree with all its switches and animations at the root. -/
def normalForm : TileImage → TileImage :=
  fold
    { source := .source
      scaled := .scaled
      sprite := fun window _ child => hoist (.sprite window) child
      layer := hoistPair .layer
      switch := fun cases => .switch (splice cases)
      animation := animate }

end Cityscape.TileImage
